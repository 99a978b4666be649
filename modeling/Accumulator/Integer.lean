/-!
# Machine integers

Cells and registers hold 64-bit signed integers. Arithmetic is done exactly and narrowed afterwards:
`Integer.ofInt?` has a value exactly when the exact result is one of the machine's integers, so
nothing wraps.
-/
namespace Accumulator

abbrev Integer := Int64

namespace Integer

/-- The machine integer of this value, if it is in range. -/
def ofInt? (n : Int) : Option Integer :=
  if range : Int64.minValue.toInt ≤ n ∧ n ≤ Int64.maxValue.toInt then
    some (Int64.ofIntLE n range.1 range.2)
  else none

theorem ofInt?_eq_none_iff {n : Int} :
    ofInt? n = none ↔ n < Int64.minValue.toInt ∨ Int64.maxValue.toInt < n := by
  simp only [ofInt?, dite_eq_right_iff, reduceCtorEq, imp_false, Decidable.not_and_iff_or_not,
    Int.not_le]

@[simp] theorem ofInt?_toInt (v : Integer) : ofInt? v.toInt = some v := by
  rw [ofInt?, dif_pos ⟨Int64.minValue_le_toInt v, Int64.toInt_le v⟩, Int64.ofIntLE_toInt]

/-- Narrowing keeps the value. -/
theorem toInt_of_ofInt? {n : Int} {v : Integer} (found : ofInt? n = some v) : v.toInt = n := by
  unfold ofInt? at found
  split at found
  · obtain rfl := Option.some.inj found
    exact Int64.toInt_ofIntLE
  · cases found

/-- Decimal digits, behind a minus sign for negative values. -/
def render (v : Integer) : String := toString v.toInt

end Integer

end Accumulator
