import Accumulator.Text.Name

/-!
# Instructions

An instruction is one of seventeen operations with at most one operand: an address, a name that no
label of the program explains, or digits too large to be an address. Address 0 stands for the
console where data is moved, and for the halted state where the program counter goes.
-/
namespace Accumulator

/-- Addresses are natural numbers below this limit: a numeral from it on is no address. -/
def addressLimit : Nat := 0x10000000000000000

inductive Opcode where
  | add | sub | mlt | div
  | set
  | neg | inc | dec
  /-- Load the accumulator. -/
  | lda
  /-- Store the accumulator. -/
  | sta
  /-- Branch always. -/
  | br
  /-- Branch if the accumulator is positive. -/
  | brp
  /-- Branch if the accumulator is zero. -/
  | brz
  /-- Branch to the address held in a cell. -/
  | bri
  /-- Branch to a subroutine, leaving the return address in its first cell. -/
  | brs
  | hlt
  | noop
  deriving DecidableEq, Repr

namespace Opcode

def all : List Opcode :=
  [.add, .sub, .mlt, .div, .set, .neg, .inc, .dec, .lda, .sta, .br, .brp, .brz, .bri, .brs, .hlt,
   .noop]

def mnemonic : Opcode → String
  | .add => "add"
  | .sub => "sub"
  | .mlt => "mlt"
  | .div => "div"
  | .set => "set"
  | .neg => "neg"
  | .inc => "inc"
  | .dec => "dec"
  | .lda => "lda"
  | .sta => "sta"
  | .br => "br"
  | .brp => "brp"
  | .brz => "brz"
  | .bri => "bri"
  | .brs => "brs"
  | .hlt => "hlt"
  | .noop => "noop"

/-- The operation with this mnemonic, in any ASCII case. -/
def ofMnemonic? (name : String) : Option Opcode :=
  let key := Text.lowercase name
  all.find? fun op => op.mnemonic == key

theorem ofMnemonic?_mnemonic (op : Opcode) : ofMnemonic? op.mnemonic = some op := by
  cases op <;> decide +kernel

end Opcode

inductive Operand where
  /-- An address written as a numeral, or put in place of a label. -/
  | literal (address : Nat)
  /-- A token that names no label, as it was written. -/
  | label (name : String)
  /-- A numeral too large to be an address, as it was written. -/
  | outOfRange (digits : String)
  deriving DecidableEq, Repr

def Operand.render : Operand → String
  | .literal address => toString address
  | .label name => name
  | .outOfRange digits => digits

structure Instruction where
  opcode : Opcode
  operand : Option Operand
  deriving DecidableEq, Repr

/-- The mnemonic and, behind a space, the operand: a line that assembles to the instruction. -/
def Instruction.render (i : Instruction) : String :=
  match i.operand with
  | none => i.opcode.mnemonic
  | some operand => i.opcode.mnemonic ++ " " ++ operand.render

end Accumulator
