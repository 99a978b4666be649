import Accumulator.Machine.Cycle

/-!
# Runs

A run restarts the machine and performs cycles until one halts it or faults. Whether that happens
cannot be decided beforehand, so a run has a limit on its cycles; a run that ends within one limit
ends the same way within any larger one.
-/
namespace Accumulator

/-- How a run ended. -/
inductive Ending where
  /-- The machine halted in the last of this many cycles. -/
  | halted (cycles : Nat)
  | faulted (fault : Fault)
  deriving DecidableEq, Repr

structure Run (κ : Type) where
  machine : Machine
  console : κ
  /-- Nothing if the limit was reached first. -/
  ending : Option Ending

namespace Machine

variable {κ : Type} [Console κ]

/-- Performs up to `limit` cycles, after `done` earlier ones. -/
def continueFor (limit : Nat) (machine : Machine) (console : κ) (done : Nat) : Run κ :=
  match limit with
  | 0 => { machine, console, ending := none }
  | limit + 1 =>
    let cycle := machine.step console
    match cycle.outcome with
    | .continued => continueFor limit cycle.machine cycle.console (done + 1)
    | .halted =>
      { machine := cycle.machine, console := cycle.console, ending := some (.halted (done + 1)) }
    | .faulted fault =>
      { machine := cycle.machine, console := cycle.console, ending := some (.faulted fault) }

/-- Runs the program in memory from fresh registers. -/
def runFor (limit : Nat) (machine : Machine) (console : κ) : Run κ :=
  machine.restart.continueFor limit console 0

/-- More cycles than any run performs in practice. -/
def cycleLimit : Nat := 0x4000000000000000

end Machine

end Accumulator
