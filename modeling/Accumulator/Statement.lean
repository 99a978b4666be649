import Accumulator.Instruction
import Accumulator.Text.Blank
import Accumulator.Text.Digit

/-!
# Statements

A line of a program, up to its comment, is a row of fields: a line number and a label, both
optional, a mnemonic, and an optional token for the operand. The line number ends with a period and
needs no blank behind it; a label is a field of its own that ends with a comma. Fields never
contain blanks, so a line has at most one reading.
-/
namespace Accumulator

structure Statement where
  label : Option String
  opcode : Opcode
  /-- The operand as it was written. -/
  token : Option String
  deriving DecidableEq, Repr

namespace Statement

/-- An operand is written as a row of decimal digits or as a name. -/
def isToken (field : List Char) : Bool :=
  (!field.isEmpty && field.all Text.isDigit) || Text.isName field

/-- The name in front of the comma, if the field is a label. -/
def labelName? (field : List Char) : Option (List Char) :=
  if field.getLast? = some ',' && Text.isName field.dropLast then some field.dropLast else none

/-- Reads the fields behind the label. -/
def command? (label : Option String) : List (List Char) → Option Statement
  | [mnemonic] =>
    (Opcode.ofMnemonic? (String.ofList mnemonic)).map fun opcode => ⟨label, opcode, none⟩
  | [mnemonic, token] =>
    if isToken token then
      (Opcode.ofMnemonic? (String.ofList mnemonic)).map fun opcode =>
        ⟨label, opcode, some (String.ofList token)⟩
    else none
  | _ => none

/-- Reads the fields behind the line number. -/
def ofFields? : List (List Char) → Option Statement
  | [] => none
  | first :: rest =>
    match labelName? first with
    | some name => command? (some (String.ofList name)) rest
    | none => command? none (first :: rest)

/-- The code of a line without the number in front: decimal digits that end with a period. -/
def dropNumber (code : List Char) : List Char :=
  let start := code.dropWhile Text.isBlank
  match start.takeWhile Text.isDigit, start.dropWhile Text.isDigit with
  | _ :: _, '.' :: rest => rest
  | _, _ => code

end Statement

/-- What a line of a program turns out to be. -/
inductive Line where
  /-- Nothing but blanks before the comment. -/
  | blank
  | statement (content : Statement)
  | malformed
  deriving DecidableEq, Repr

namespace Line

/-- The part of a line in front of its comment. -/
def code (line : List Char) : List Char := line.takeWhile (· != '#')

def read (line : List Char) : Line :=
  if (code line).all Text.isBlank then .blank
  else
    match Statement.ofFields? (Text.fields (Statement.dropNumber (code line))) with
    | some content => .statement content
    | none => .malformed

def statement? : Line → Option Statement
  | .statement content => some content
  | _ => none

def isMalformed : Line → Bool
  | .malformed => true
  | _ => false

end Line

end Accumulator
