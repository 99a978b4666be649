import Accumulator.Instruction
import Accumulator.Integer
import Accumulator.Text.Numeral

/-!
# Words

A word is what a cell or a register holds. Text comes from the console or from an operand that
names no label; it counts as an integer where arithmetic or a branch asks for one.
-/
namespace Accumulator

inductive Word where
  /-- The placeholder of a cell that was never written. -/
  | unset
  | instruction (code : Instruction)
  | integer (value : Integer)
  | text (content : String)
  deriving DecidableEq, Inhabited, Repr

namespace Word

/-- The integer that a word stands for. Text stands for one if, without the blanks around it, it is
a decimal numeral behind at most one sign and its value is a machine integer. -/
def integer? : Word → Option Integer
  | .integer value => some value
  | .text content => (Text.integer? (Text.trim content.toList)).bind Integer.ofInt?
  | .unset | .instruction _ => none

def isUnset : Word → Bool
  | .unset => true
  | _ => false

def render : Word → String
  | .unset => "?"
  | .instruction code => code.render
  | .integer value => value.render
  | .text content => content

end Word

end Accumulator
