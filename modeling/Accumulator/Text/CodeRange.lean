/-!
# Ranges of code points

A property of characters is carried as a list of closed ranges of code points, ascending and apart.
-/
namespace Accumulator.Text

/-- A closed range of code points. -/
abbrev CodeRange := Nat × Nat

/-- Is the character's code point in one of the ranges? -/
def inRanges (ranges : List CodeRange) (c : Char) : Bool :=
  ranges.any fun range => range.1 ≤ c.toNat && c.toNat ≤ range.2

/-- Ascending, and with a gap between each range and the next. -/
def ascending : List CodeRange → Bool
  | [] => true
  | [range] => range.1 ≤ range.2
  | range :: next :: rest => range.1 ≤ range.2 && range.2 + 1 < next.1 && ascending (next :: rest)

/-- How many code points the ranges hold, if they are ascending. -/
def rangesSize (ranges : List CodeRange) : Nat :=
  ranges.foldl (fun size range => size + (range.2 + 1 - range.1)) 0

end Accumulator.Text
