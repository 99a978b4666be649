import Accumulator.Integer

/-!
# Division on machine words

A processor divides towards zero, and neither its quotient nor its remainder is defined for all
words: division by 0 has no result, and the least integer divided by -1 has one that is no machine
integer. `Trapping.floorDiv` computes the quotient towards minus infinity with such operations only,
and never applies one outside its domain (`floorDiv_eq`).
-/
namespace Accumulator

/-- What stops a computation on 64-bit words where one on numbers would go on. -/
inductive Trap where
  /-- An address beyond the largest word. -/
  | address
  /-- A cell that the memory does not have. -/
  | cell
  /-- The remainder of a division without a result. -/
  | remainder
  /-- A result that is no machine integer. -/
  | integer
  deriving DecidableEq, Repr

namespace Trapping

/-- Has the division of these words no machine integer for its result? -/
def Undefined (a b : Integer) : Prop := b = 0 ∨ (a = Int64.minValue ∧ b = -1)

instance (a b : Integer) : Decidable (Undefined a b) := inferInstanceAs (Decidable (_ ∨ _))

/-- The quotient towards zero, if there is one. -/
def quotient? (a b : Integer) : Option Integer := if Undefined a b then none else some (a / b)

/-- What is left of a division towards zero; it has the sign of `a`. -/
def remainder (a b : Integer) : Except Trap Integer :=
  if Undefined a b then .error .remainder else .ok (a % b)

def pred (a : Integer) : Except Trap Integer :=
  if a = Int64.minValue then .error .integer else .ok (a - 1)

/-- The quotient towards minus infinity, which is one less than the one towards zero where the
exact quotient is negative and no integer. -/
def floorDiv (a b : Integer) : Except Trap (Option Integer) :=
  match quotient? a b with
  | none => .ok none
  | some quotient => do
    let rest ← remainder a b
    if rest ≠ 0 ∧ decide (a < 0) ≠ decide (b < 0) then (pred quotient).map some
    else .ok (some quotient)

/-! ### Quotients of integers -/

theorem fdiv_eq_ite_tdiv {a b : Int} (nonzero : b ≠ 0) :
    a.fdiv b =
      if a.tmod b ≠ 0 ∧ decide (a < 0) ≠ decide (b < 0) then a.tdiv b - 1 else a.tdiv b := by
  rw [Int.fdiv_eq_tdiv]
  by_cases divides : b ∣ a
  · have rest : a.tmod b = 0 := Int.tmod_eq_zero_of_dvd divides
    simp [divides, rest]
  · have rest : a.tmod b ≠ 0 := fun zero => divides (Int.dvd_of_tmod_eq_zero zero)
    -- The four cases of the signs, in none of which `b` is 0.
    rcases Int.lt_or_le a 0 with negative | positive
    · rcases Int.lt_or_gt_of_ne nonzero with below | above
      · simp [divides, rest, negative, below, Int.not_le.mpr negative, Int.not_le.mpr below,
          Int.sign_eq_neg_one_of_neg below]
      · simp [divides, rest, negative, Int.le_of_lt above, Int.not_le.mpr negative,
          Int.not_lt.mpr (Int.le_of_lt above), Int.sign_eq_one_of_pos above]
    · rcases Int.lt_or_gt_of_ne nonzero with below | above
      · simp [divides, rest, positive, below, Int.not_le.mpr below, Int.not_lt.mpr positive]
      · simp [divides, rest, positive, Int.le_of_lt above, Int.not_lt.mpr positive,
          Int.not_lt.mpr (Int.le_of_lt above)]

/-- A division that leaves something is by 2 at least, so its quotient is at most half as large. -/
theorem natAbs_tdiv_le {a b : Int} (rest : a.tmod b ≠ 0) (nonzero : b ≠ 0) :
    (a.tdiv b).natAbs ≤ a.natAbs / 2 := by
  have divisor : 2 ≤ b.natAbs := by
    rcases Nat.lt_or_ge b.natAbs 2 with small | large
    · exfalso
      obtain rfl | rfl : b = 1 ∨ b = -1 := by omega
      · exact rest (Int.tmod_one a)
      · exact rest (Int.tmod_eq_zero_of_dvd (by simp))
    · exact large
  rw [Int.natAbs_tdiv]
  exact Nat.div_le_div_left divisor (by decide)

/-! ### Quotients of words -/

theorem toInt_div {a b : Integer} (defined : ¬ Undefined a b) :
    (a / b).toInt = a.toInt.tdiv b.toInt := by
  by_cases least : a = Int64.minValue
  · exact Int64.toInt_div_of_ne_right a b fun minusOne => defined (.inr ⟨least, minusOne⟩)
  · exact Int64.toInt_div_of_ne_left a b least

theorem toInt_eq_zero_iff {a : Integer} : a.toInt = 0 ↔ a = 0 := by
  rw [← Int64.toInt_zero, Int64.toInt_inj]

theorem toInt_pred {a : Integer} (greater : a ≠ Int64.minValue) : (a - 1).toInt = a.toInt - 1 := by
  have least : a.toInt ≠ -2 ^ 63 := by
    rw [← Int64.toInt_minValue]
    exact fun same => greater (Int64.toInt_inj.mp same)
  have lower := Int64.le_toInt a
  have upper := Int64.toInt_lt a
  have one : Int64.toInt 1 = 1 := rfl
  rw [Int64.toInt_sub, one]
  exact Int.bmod_eq_of_le (by omega) (by omega)

theorem ne_minValue_of_rest {a b : Integer} (defined : ¬ Undefined a b) (rest : a % b ≠ 0) :
    a / b ≠ Int64.minValue := by
  have nonzero : b.toInt ≠ 0 := fun zero => defined (.inl (toInt_eq_zero_iff.mp zero))
  have left : a.toInt.tmod b.toInt ≠ 0 := by
    rw [← Int64.toInt_mod]
    exact fun zero => rest (toInt_eq_zero_iff.mp zero)
  have half := natAbs_tdiv_le left nonzero
  intro least
  rw [← toInt_div defined, least, Int64.toInt_minValue] at half
  have lower := Int64.le_toInt a
  have upper := Int64.toInt_lt a
  omega

theorem ofInt?_fdiv_of_undefined {a b : Integer} (nonzero : b ≠ 0) (undefined : Undefined a b) :
    Integer.ofInt? (a.toInt.fdiv b.toInt) = none := by
  obtain ⟨rfl, rfl⟩ := undefined.resolve_left nonzero
  decide

theorem floorDiv_of_undefined {a b : Integer} (undefined : Undefined a b) :
    floorDiv a b = .ok none := by
  simp only [floorDiv, quotient?, if_pos undefined]

theorem floorDiv_of_defined {a b : Integer} (defined : ¬ Undefined a b) :
    floorDiv a b =
      if a % b ≠ 0 ∧ decide (a < 0) ≠ decide (b < 0) then (pred (a / b)).map some
      else .ok (some (a / b)) := by
  simp only [floorDiv, quotient?, remainder, if_neg defined]
  rfl

/-- No division takes a remainder that is undefined or subtracts from the least integer. -/
theorem floorDiv_eq (a b : Integer) :
    floorDiv a b = .ok (if b = 0 then none else Integer.ofInt? (a.toInt.fdiv b.toInt)) := by
  by_cases undefined : Undefined a b
  · rw [floorDiv_of_undefined undefined]
    by_cases zero : b = 0
    · rw [if_pos zero]
    · rw [if_neg zero, ofInt?_fdiv_of_undefined zero undefined]
  · have zero : b ≠ 0 := fun zero => undefined (.inl zero)
    have nonzero : b.toInt ≠ 0 := mt toInt_eq_zero_iff.mp zero
    -- The words and the integers that they stand for are corrected in the same cases.
    have corrected : (a.toInt.tmod b.toInt ≠ 0 ∧ decide (a.toInt < 0) ≠ decide (b.toInt < 0)) ↔
        (a % b ≠ 0 ∧ decide (a < 0) ≠ decide (b < 0)) := by
      rw [← Int64.toInt_mod, Ne, toInt_eq_zero_iff]
      simp only [Int64.lt_iff_toInt_lt, Int64.toInt_zero]
    rw [floorDiv_of_defined undefined, if_neg zero, fdiv_eq_ite_tdiv nonzero]
    simp only [corrected]
    rw [← toInt_div undefined]
    by_cases negative : a % b ≠ 0 ∧ decide (a < 0) ≠ decide (b < 0)
    · have greater := ne_minValue_of_rest undefined negative.1
      rw [if_pos negative, if_pos negative, pred, if_neg greater, ← toInt_pred greater,
        Integer.ofInt?_toInt, Except.map]
    · rw [if_neg negative, if_neg negative, Integer.ofInt?_toInt]

end Trapping

end Accumulator
