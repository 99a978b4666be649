import Accumulator.Word

/-!
# Faults

A fault stops the machine. Its cause says what went wrong; message, code and help are how the cause
is reported.
-/
namespace Accumulator

/-- The highest address that a program may write to. -/
def maxAddress : Nat := 0xFFFFF

inductive Cause where
  | divisionByZero
  /-- The operand is a token that names no label. -/
  | undefinedLabel (name : String)
  /-- The program counter reached a word that is no instruction. -/
  | illegalInstruction (word : Word)
  | missingOperand (opcode : Opcode)
  /-- Arithmetic or an indirect branch met a word that stands for no integer. -/
  | nonNumeric (word : Word)
  | overflow
  /-- A branch went to a negative address, or a subroutine call to the console. -/
  | invalidAddress (value : Int)
  /-- The operand is no address, or a write went beyond `maxAddress`. -/
  | addressOutOfRange (digits : String)
  | inputExhausted
  /-- The console failed with this message. -/
  | consoleFailure (message : String)
  deriving DecidableEq, Repr

namespace Cause

def message : Cause → String
  | .divisionByZero => "Divided by zero."
  | .undefinedLabel name => "Reference to undefined label `" ++ name ++ "`."
  | .illegalInstruction word =>
    "Fetched a cell that is not an instruction: `" ++ word.render ++ "`."
  | .missingOperand opcode => "Instruction `" ++ opcode.mnemonic ++ "` requires an operand."
  | .nonNumeric word => "Value `" ++ word.render ++ "` is not a number."
  | .overflow => "Integer overflow."
  | .invalidAddress value => "Address " ++ toString value ++ " is not valid."
  | .addressOutOfRange digits => "Address " ++ digits ++ " is outside the address space."
  | .inputExhausted => "Console input ended."
  | .consoleFailure message => "Console I/O failed: " ++ message

def code : Cause → String
  | .divisionByZero => "runtime::div_zero"
  | .undefinedLabel _ => "runtime::undefined_label"
  | .illegalInstruction _ => "runtime::illegal_instruction"
  | .missingOperand _ => "runtime::missing_operand"
  | .nonNumeric _ => "runtime::non_numeric"
  | .overflow => "runtime::overflow"
  | .invalidAddress _ => "runtime::bad_addr"
  | .addressOutOfRange _ => "runtime::addr_range"
  | .inputExhausted => "runtime::input_exhausted"
  | .consoleFailure _ => "runtime::console"

def help : Cause → Option String
  | .divisionByZero => some "check the divisor cell before running `div`"
  | .undefinedLabel name =>
    some ("define the label with `" ++ name ++ ", <instruction>` somewhere in the file")
  | .illegalInstruction _ =>
    some "programs must end with `hlt` or branch away before running into data"
  | .missingOperand _ => none
  | .nonNumeric _ =>
    some "arithmetic only works on integers, or console input that parses as one"
  | .overflow => some "values are 64-bit signed integers"
  | .invalidAddress _ => some "branch targets must be non-negative"
  | .addressOutOfRange _ =>
    some ("addresses run from 1 to " ++ toString maxAddress)
  | .inputExhausted =>
    some "the program read from address 0 but no more input was available"
  | .consoleFailure _ => none

end Cause

structure Fault where
  /-- The address that the faulting cycle fetched from. -/
  address : Nat
  /-- The word that the machine was executing. -/
  word : Word
  cause : Cause
  deriving DecidableEq, Repr

def Fault.message (fault : Fault) : String :=
  "Machine faulted at address " ++ toString fault.address ++ " executing `" ++ fault.word.render
    ++ "`."

end Accumulator
