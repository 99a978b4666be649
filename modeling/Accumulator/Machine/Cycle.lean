import Accumulator.Console
import Accumulator.Machine.Action

/-!
# Cycles

A cycle fetches the word at the program counter, advances the program counter and performs the
action of the instruction. Data moved from or to address 0 goes through the console; the fetch and
the two branches that use a cell do not. A fault halts the machine. What a cycle writes, it writes
last, so a fault leaves memory, accumulator and output as they were.
-/
namespace Accumulator

variable {κ : Type}

/-- What came of asking for the word at an address. -/
structure Received (κ : Type) where
  word : Except Cause Word
  console : κ
  /-- The line that the console gave, if it was asked. -/
  heard : Option String

/-- The word at an address, where address 0 is the next line of the console. -/
def receive [Console κ] (memory : Memory) (console : κ) (source : Nat) : Received κ :=
  if source = 0 then
    match Console.readLine console with
    | (.ok (some line), console) => ⟨.ok (.text line), console, some line⟩
    | (.ok none, console) => ⟨.error .inputExhausted, console, none⟩
    | (.error message, console) => ⟨.error (.consoleFailure message), console, none⟩
  else ⟨.ok (memory.get source), console, none⟩

namespace Registers

/-- Takes a result into the accumulator, or reports why there is none. -/
def accept (registers : Registers) : Except Cause Integer → Registers × Option Cause
  | .ok value => ({ registers with acc := .integer value }, none)
  | .error cause => (registers, some cause)

/-- Combines the accumulator with a word. The word is kept in B as soon as it is known to stand for
an integer. -/
def combine (registers : Registers) (op : Arithmetic) (word : Word) : Registers × Option Cause :=
  match word.integer? with
  | none => (registers, some (.nonNumeric word))
  | some b =>
    let registers := { registers with b := .integer b }
    match registers.acc.integer? with
    | none => (registers, some (.nonNumeric registers.acc))
    | some a => registers.accept ((op.exact a.toInt b.toInt).bind narrow)

def adjust (registers : Registers) (op : Adjustment) : Registers × Option Cause :=
  match registers.acc.integer? with
  | none => (registers, some (.nonNumeric registers.acc))
  | some a => registers.accept (narrow (op.exact a.toInt))

/-- Goes to the address that a word stands for. -/
def goTo (registers : Registers) (word : Word) : Registers × Option Cause :=
  match word.integer? with
  | none => (registers, some (.nonNumeric word))
  | some target =>
    if target.toInt < 0 then (registers, some (.invalidAddress target.toInt))
    else ({ registers with pc := target.toInt.toNat }, none)

end Registers

/-- What an action leaves behind. -/
structure Effect (κ : Type) where
  machine : Machine
  console : κ
  heard : Option String := none
  /-- Why the action failed, if it did. -/
  failure : Option Cause := none

namespace Machine

/-- The machine with other registers, and what came of it. -/
def settle (machine : Machine) (console : κ) (heard : Option String)
    (outcome : Registers × Option Cause) : Effect κ :=
  { machine := { machine with registers := outcome.1 }, console, heard, failure := outcome.2 }

/-- The machine with an address in AR. -/
def aim (machine : Machine) (address : Nat) : Machine :=
  { machine with registers := { machine.registers with ar := some address } }

/-- Writes the accumulator to an address, where address 0 is the console. -/
def send [Console κ] (machine : Machine) (console : κ) (target : Nat) : Effect κ :=
  if target = 0 then
    match Console.writeLine console machine.registers.acc.render with
    | (.ok _, console) => { machine, console }
    | (.error message, console) => { machine, console, failure := some (.consoleFailure message) }
  else
    match Memory.refusal? target with
    | some cause => { machine, console, failure := some cause }
    | none =>
      { machine := { machine with memory := machine.memory.put target machine.registers.acc }
        console }

/-- Leaves the return address at an address and goes on behind it. -/
def enter (machine : Machine) (console : κ) (target : Nat) : Effect κ :=
  if target = 0 then { machine, console, failure := some (.invalidAddress 0) }
  else
    match narrow machine.registers.pc, Memory.refusal? target with
    | .error cause, _ => { machine, console, failure := some cause }
    | .ok _, some cause => { machine, console, failure := some cause }
    | .ok back, none =>
      { machine :=
          { machine with
            memory := machine.memory.put target (.integer back)
            registers := { machine.registers with pc := target + 1 } }
        console }

/-- Performs an action on a machine whose program counter is past the instruction. -/
def perform [Console κ] (machine : Machine) (console : κ) : Action → Effect κ
  | .combine op source =>
    let received := receive machine.memory console source
    let machine := machine.aim source
    match received.word with
    | .error cause =>
      { machine, console := received.console, heard := received.heard, failure := some cause }
    | .ok word =>
      machine.settle received.console received.heard (machine.registers.combine op word)
  | .adjust op => machine.settle console none (machine.registers.adjust op)
  | .assign word => machine.settle console none ({ machine.registers with acc := word }, none)
  | .load source =>
    let received := receive machine.memory console source
    let machine := machine.aim source
    match received.word with
    | .error cause =>
      { machine, console := received.console, heard := received.heard, failure := some cause }
    | .ok word =>
      machine.settle received.console received.heard
        ({ machine.registers with acc := word }, none)
  | .store target => (machine.aim target).send console target
  | .jump target => machine.settle console none ({ machine.registers with pc := target }, none)
  | .jumpThrough cell =>
    let machine := machine.aim cell
    machine.settle console none (machine.registers.goTo (machine.memory.get cell))
  | .call target => machine.enter console target
  | .skip => { machine, console }

/-- The machine with the word at its program counter fetched. -/
def fetch (machine : Machine) : Machine :=
  { machine with
    registers :=
      { machine.registers with
        ar := some machine.registers.pc
        ir := machine.memory.get machine.registers.pc } }

/-- The machine with its program counter at the next address. -/
def advance (machine : Machine) : Machine :=
  { machine with registers := { machine.registers with pc := machine.registers.pc + 1 } }

/-- Executes the word in the instruction register. -/
def execute [Console κ] (machine : Machine) (console : κ) : Effect κ :=
  match machine.registers.ir with
  | .instruction code =>
    let machine := machine.advance
    match code.decode machine.symbols machine.registers.acc with
    | .error cause => { machine, console, failure := some cause }
    | .ok action => machine.perform console action
  | word => { machine, console, failure := some (.illegalInstruction word) }

end Machine

inductive Outcome where
  | continued
  | halted
  | faulted (fault : Fault)
  deriving DecidableEq, Repr

structure Cycle (κ : Type) where
  machine : Machine
  console : κ
  /-- The line that was read from the console, if one was. -/
  heard : Option String
  outcome : Outcome

/-- Ends the cycle that fetched from this address. -/
def Effect.finish (effect : Effect κ) (address : Nat) : Cycle κ :=
  match effect.failure with
  | none =>
    { machine := effect.machine
      console := effect.console
      heard := effect.heard
      outcome := if effect.machine.isHalted then .halted else .continued }
  | some cause =>
    { machine :=
        { effect.machine with registers := { effect.machine.registers with pc := 0 } }
      console := effect.console
      heard := effect.heard
      outcome := .faulted ⟨address, effect.machine.registers.ir, cause⟩ }

/-- One cycle. A halted machine does nothing. -/
def Machine.step [Console κ] (machine : Machine) (console : κ) : Cycle κ :=
  if machine.isHalted then { machine, console, heard := none, outcome := .halted }
  else (machine.fetch.execute console).finish machine.registers.pc

end Accumulator
