import Accumulator.Machine.Basic

/-!
# Actions

An instruction is decoded before it acts: its operand is resolved to an address, and a conditional
branch is decided. Everything that can be wrong with an operand is found here, so what is left to
do is an action on addresses.
-/
namespace Accumulator

/-- Arithmetic on the accumulator and a second operand. -/
inductive Arithmetic where
  | add | sub | mlt | div
  deriving DecidableEq, Repr

/-- The exact result; a quotient is rounded towards minus infinity. -/
def Arithmetic.exact (op : Arithmetic) (a b : Int) : Except Cause Int :=
  match op with
  | .add => .ok (a + b)
  | .sub => .ok (a - b)
  | .mlt => .ok (a * b)
  | .div => if b = 0 then .error .divisionByZero else .ok (a.fdiv b)

/-- Arithmetic on the accumulator alone. -/
inductive Adjustment where
  | neg | inc | dec
  deriving DecidableEq, Repr

def Adjustment.exact (op : Adjustment) (a : Int) : Int :=
  match op with
  | .neg => -a
  | .inc => a + 1
  | .dec => a - 1

inductive Action where
  /-- Combine the accumulator with the word at an address. -/
  | combine (op : Arithmetic) (source : Nat)
  | adjust (op : Adjustment)
  /-- Put a word into the accumulator. -/
  | assign (word : Word)
  | load (source : Nat)
  | store (target : Nat)
  /-- Go on at an address; at address 0 the machine halts. -/
  | jump (target : Nat)
  /-- Go on at the address held in a cell. -/
  | jumpThrough (cell : Nat)
  /-- Leave the return address in a cell and go on behind it. -/
  | call (target : Nat)
  | skip
  deriving DecidableEq, Repr

/-- The machine integer of an exact result. -/
def narrow (n : Int) : Except Cause Integer :=
  match Integer.ofInt? n with
  | some value => .ok value
  | none => .error .overflow

namespace Instruction

/-- The address that the operand stands for. -/
def resolve (symbols : SymbolTable) (code : Instruction) : Except Cause Nat :=
  match code.operand with
  | none => .error (.missingOperand code.opcode)
  | some (.literal address) => .ok address
  | some (.outOfRange digits) => .error (.addressOutOfRange digits)
  | some (.label name) =>
    match symbols.get? name with
    | some address => .ok address
    | none => .error (.undefinedLabel name)

/-- The word that the operand itself stands for. -/
def immediate (code : Instruction) : Except Cause Word :=
  match code.operand with
  | none => .error (.missingOperand code.opcode)
  | some (.literal address) => (narrow address).map .integer
  | some (.label name) => .ok (.text name)
  | some (.outOfRange _) => .error .overflow

/-- A branch that is taken under a condition. Its operand matters only if it is taken. -/
def branchIf (taken : Bool) (symbols : SymbolTable) (code : Instruction) : Except Cause Action :=
  if taken then (code.resolve symbols).map .jump else .ok .skip

/-- The action of an instruction, given the labels and the accumulator. -/
def decode (symbols : SymbolTable) (acc : Word) (code : Instruction) : Except Cause Action :=
  match code.opcode with
  | .add => (code.resolve symbols).map (.combine .add)
  | .sub => (code.resolve symbols).map (.combine .sub)
  | .mlt => (code.resolve symbols).map (.combine .mlt)
  | .div => (code.resolve symbols).map (.combine .div)
  | .set => code.immediate.map .assign
  | .neg => .ok (.adjust .neg)
  | .inc => .ok (.adjust .inc)
  | .dec => .ok (.adjust .dec)
  | .lda => (code.resolve symbols).map .load
  | .sta => (code.resolve symbols).map .store
  | .br => (code.resolve symbols).map .jump
  | .brp => code.branchIf (acc.integer?.any fun n => 0 < n.toInt) symbols
  | .brz => code.branchIf (acc.integer?.any fun n => n.toInt = 0) symbols
  | .bri => (code.resolve symbols).map .jumpThrough
  | .brs => (code.resolve symbols).map .call
  | .hlt => .ok (.jump 0)
  | .noop => .ok .skip

end Instruction

end Accumulator
