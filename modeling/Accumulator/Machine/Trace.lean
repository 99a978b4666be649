import Accumulator.Machine.Run
import Accumulator.Text.Quoted

/-!
# Traces

A trace tells what a load left open and what every cycle of a run did. The lines of a cycle follow
from what was fetched and how the cycle ended, so tracing a run cannot change it.
-/
namespace Accumulator

/-- What a load says of itself. -/
def Report.trace (report : Report) : List String :=
  report.skipped.map (fun line => "skipped line " ++ toString line ++ ": no instruction found") ++
    report.unresolved.map (fun (line, name) =>
      "line " ++ toString line ++ ": `" ++ name ++ "` is not a label") ++
    report.outOfRange.map (fun (line, digits) =>
      "line " ++ toString line ++ ": literal `" ++ digits ++ "` is out of range") ++
    [toString report.loaded ++ " instructions loaded"]

/-- What a cycle says that fetched a word from an address, heard a line and ended so. -/
def cycleTrace (address : Nat) (word : Word) (heard : Option String) (outcome : Outcome) :
    List String :=
  ["fetch      AR=" ++ toString address ++ " IR=" ++ word.render] ++
    (match word with
      | .instruction _ =>
        ["increment  PC=" ++ toString (address + 1), "execute    IR=" ++ word.render]
      | _ => []) ++
    (match heard with
      | some line => ["read       " ++ Text.quoted line]
      | none => []) ++
    (match outcome with
      | .faulted fault =>
        ["fault at " ++ toString fault.address ++ ": " ++ fault.cause.message]
      | _ => [])

namespace Machine

variable {κ : Type} [Console κ]

/-- Adds what up to `limit` cycles say to a trace. -/
def traceFor (limit : Nat) (machine : Machine) (console : κ) (trace : Array String) :
    Array String :=
  match limit with
  | 0 => trace
  | limit + 1 =>
    if machine.isHalted then trace
    else
      let address := machine.registers.pc
      let word := machine.memory.get address
      let cycle := machine.step console
      let trace := trace ++ (cycleTrace address word cycle.heard cycle.outcome)
      match cycle.outcome with
      | .continued => traceFor limit cycle.machine cycle.console trace
      | _ => trace

/-- What the cycles of a run say. -/
def trace (limit : Nat) (machine : Machine) (console : κ) : List String :=
  (machine.restart.traceFor limit console #[]).toList

end Machine

end Accumulator
