import Accumulator.Text.CodeRange

/-!
# Blank characters

Blanks are the 25 characters with the property White_Space. They separate the fields of a line and
are trimmed from both ends of a text before it is read as a number.
-/
namespace Accumulator.Text

def blankRanges : List CodeRange :=
  [(0x0009, 0x000D), (0x0020, 0x0020), (0x0085, 0x0085), (0x00A0, 0x00A0), (0x1680, 0x1680),
   (0x2000, 0x200A), (0x2028, 0x2029), (0x202F, 0x202F), (0x205F, 0x205F), (0x3000, 0x3000)]

example : ascending blankRanges = true ∧ rangesSize blankRanges = 25 := by decide

def isBlank (c : Char) : Bool := inRanges blankRanges c

/-- The text without the blanks at its two ends. -/
def trim (s : List Char) : List Char :=
  ((s.dropWhile isBlank).reverse.dropWhile isBlank).reverse

/-- The maximal runs of characters that are not blank. -/
def fields (s : List Char) : List (List Char) :=
  (s.splitOnP isBlank).filter fun field => !field.isEmpty

end Accumulator.Text
