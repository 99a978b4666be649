import Accumulator.Text.Blank
import Accumulator.Text.Digit
import Accumulator.Text.Name
import Accumulator.Text.Numeral
import Mathlib

/-!
# Characters of a line

Blanks, decimal digits and the characters of names are told apart by their ranges of code points.
None of them is a mark of the line format: the period behind a number, the comma behind a label, the
sign in front of a comment. Lowering an ASCII letter takes it from one range of letters to the other
(`toLower_cases`), so it makes no difference to properties that have all letters or none.
-/
namespace Accumulator.Text

/-- No code point is in both lists of ranges. -/
def apart (left right : List CodeRange) : Bool :=
  left.all fun a => right.all fun b => a.2 < b.1 || b.2 < a.1

theorem inRanges_eq_false {left right : List CodeRange} (separate : apart left right = true)
    {c : Char} (member : inRanges left c = true) : inRanges right c = false := by
  obtain ⟨a, listed, inside⟩ := List.any_eq_true.mp member
  apply List.any_eq_false.mpr
  intro b other both
  have order := List.all_eq_true.mp (List.all_eq_true.mp separate a listed) b other
  simp only [Bool.and_eq_true, Bool.or_eq_true, decide_eq_true_eq] at inside order both
  omega

/-- The characters that a name may start with, as ranges. -/
def nameStartRanges : List CodeRange :=
  [(0x0041, 0x005A), (0x005F, 0x005F), (0x0061, 0x007A), (0x017F, 0x017F), (0x212A, 0x212A)]

theorem inRanges_of_isNameStart {c : Char} (start : isNameStart c = true) :
    inRanges nameStartRanges c = true := by
  simp only [isNameStart, Char.isAlpha, Char.isUpper, Char.isLower, Bool.or_eq_true,
    Bool.and_eq_true, decide_eq_true_eq, beq_iff_eq, ge_iff_le, UInt32.le_iff_toNat_le] at start
  simp only [inRanges, nameStartRanges, List.any_cons, List.any_nil, Bool.or_eq_true,
    Bool.and_eq_true, decide_eq_true_eq]
  rcases start with ((letter | rfl) | rfl) | rfl
  · change (65 ≤ c.toNat ∧ c.toNat ≤ 90) ∨ (97 ≤ c.toNat ∧ c.toNat ≤ 122) at letter
    omega
  · decide
  · decide
  · decide

/-- The digits of ASCII, which a name may go on with. -/
def asciiDigitRange : CodeRange := (0x0030, 0x0039)

theorem inRanges_of_isNamePart {c : Char} (part : isNamePart c = true) :
    inRanges (asciiDigitRange :: nameStartRanges) c = true := by
  simp only [isNamePart, Bool.or_eq_true] at part
  rcases part with start | digit
  · have inside := inRanges_of_isNameStart start
    simp only [inRanges, List.any_cons, Bool.or_eq_true] at inside ⊢
    exact .inr inside
  · simp only [Char.isDigit, Bool.and_eq_true, decide_eq_true_eq, ge_iff_le,
      UInt32.le_iff_toNat_le] at digit
    simp only [inRanges, asciiDigitRange, List.any_cons, Bool.or_eq_true, Bool.and_eq_true,
      decide_eq_true_eq, Char.toNat]
    exact .inl digit

theorem isBlank_of_isNamePart {c : Char} (part : isNamePart c = true) : isBlank c = false :=
  inRanges_eq_false (by decide) (inRanges_of_isNamePart part)

theorem isDigit_of_isNameStart {c : Char} (start : isNameStart c = true) : isDigit c = false :=
  inRanges_eq_false (by decide +kernel) (inRanges_of_isNameStart start)

theorem isBlank_of_isDigit {c : Char} (digit : isDigit c = true) : isBlank c = false :=
  inRanges_eq_false (by decide +kernel) digit

theorem isDigit_of_char_isDigit {c : Char} (digit : c.isDigit = true) : isDigit c = true := by
  simp only [Char.isDigit, Bool.and_eq_true, decide_eq_true_eq, ge_iff_le,
    UInt32.le_iff_toNat_le] at digit
  simp only [isDigit, digitRanges, inRanges, List.any_cons, Bool.or_eq_true, Bool.and_eq_true,
    decide_eq_true_eq, Char.toNat]
  exact .inl digit

/-! ### Letter case -/

/-- The ASCII letters, in upper and in lower case. -/
def letterRanges : List CodeRange := [(0x0041, 0x005A), (0x0061, 0x007A)]

theorem toLower_cases (c : Char) :
    c.toLower = c ∨ inRanges letterRanges c = true ∧ inRanges letterRanges c.toLower = true := by
  cases upper : c.isUpper with
  | false => exact .inl (Char.toLower_eq_of_not_isUpper (by simp [upper]))
  | true =>
    right
    have lowered : c.toLower.toNat = if (c.toNat + 32).isValidChar then c.toNat + 32 else 0 := by
      rw [Char.toLower_eq_of_isUpper upper, Char.toNat_ofNat]
    simp only [Char.isUpper, decide_eq_true_eq, ge_iff_le, UInt32.le_iff_toNat_le] at upper
    change 65 ≤ c.toNat ∧ c.toNat ≤ 90 at upper
    have valid : (c.toNat + 32).isValidChar := .inl (by omega)
    rw [if_pos valid] at lowered
    simp only [inRanges, letterRanges, List.any_cons, List.any_nil, Bool.or_eq_true,
      Bool.and_eq_true, decide_eq_true_eq, lowered]
    omega

/-- A property that no letter has does not see their case. -/
theorem inRanges_toLower {ranges : List CodeRange} (letterless : apart letterRanges ranges = true)
    (c : Char) : inRanges ranges c.toLower = inRanges ranges c := by
  rcases toLower_cases c with same | ⟨letter, lowered⟩
  · rw [same]
  · rw [inRanges_eq_false letterless letter, inRanges_eq_false letterless lowered]

theorem isBlank_toLower (c : Char) : isBlank c.toLower = isBlank c :=
  inRanges_toLower (by decide) c

theorem isDigit_toLower (c : Char) : isDigit c.toLower = isDigit c :=
  inRanges_toLower (by decide +kernel) c

theorem isAlpha_of_letter {c : Char} (letter : inRanges letterRanges c = true) :
    c.isAlpha = true := by
  simp only [inRanges, letterRanges, List.any_cons, List.any_nil, Bool.or_eq_true,
    Bool.and_eq_true, decide_eq_true_eq, Bool.false_eq_true, or_false] at letter
  simp only [Char.isAlpha, Char.isUpper, Char.isLower, Bool.or_eq_true, decide_eq_true_eq,
    Bool.and_eq_true, ge_iff_le, UInt32.le_iff_toNat_le]
  exact letter

theorem isNameStart_toLower (c : Char) : isNameStart c.toLower = isNameStart c := by
  rcases toLower_cases c with same | ⟨letter, lowered⟩
  · rw [same]
  · simp [isNameStart, isAlpha_of_letter letter, isAlpha_of_letter lowered]

theorem isNamePart_toLower (c : Char) : isNamePart c.toLower = isNamePart c := by
  rcases toLower_cases c with same | ⟨letter, lowered⟩
  · rw [same]
  · simp [isNamePart, isNameStart, isAlpha_of_letter letter, isAlpha_of_letter lowered]

theorem toLower_eq_iff {mark : Char} (unlettered : inRanges letterRanges mark = false) (c : Char) :
    c.toLower = mark ↔ c = mark := by
  rcases toLower_cases c with same | ⟨letter, lowered⟩
  · rw [same]
  · -- Neither of the two letters is the mark.
    constructor
    · rintro rfl
      rw [unlettered] at lowered
      cases lowered
    · rintro rfl
      rw [unlettered] at letter
      cases letter

theorem isName_map_toLower (s : List Char) : isName (s.map Char.toLower) = isName s := by
  cases s with
  | nil => rfl
  | cons c s =>
    simp only [List.map_cons, isName, isNameStart_toLower, List.all_map, Function.comp_def,
      isNamePart_toLower]

/-- Digits have no case. -/
theorem toLower_of_isDigit {c : Char} (digit : isDigit c = true) : c.toLower = c := by
  rcases toLower_cases c with same | ⟨letter, -⟩
  · exact same
  · rw [isDigit, inRanges_eq_false (by decide +kernel) letter] at digit
    cases digit

theorem map_toLower_of_isDigit {s : List Char} (digits : s.all isDigit = true) :
    s.map Char.toLower = s := by
  calc s.map Char.toLower
      = s.map id := List.map_congr_left fun c member =>
        toLower_of_isDigit (List.all_eq_true.mp digits c member)
    _ = s := List.map_id s

/-! ### Numerals -/

theorem isDigit_of_isNumeral {s : List Char} (numeral : isNumeral s = true) :
    s.all isDigit = true := by
  simp only [isNumeral, Bool.and_eq_true, List.all_eq_true] at numeral ⊢
  exact fun c member => isDigit_of_char_isDigit (numeral.2 c member)

theorem isNumeral_of_all_isDigit {s : List Char} (other : s.all isDigit = false) :
    isNumeral s = false := by
  cases numeral : isNumeral s with
  | false => rfl
  | true => rw [isDigit_of_isNumeral numeral] at other; cases other

theorem isNumeral_map_toLower (s : List Char) : isNumeral (s.map Char.toLower) = isNumeral s := by
  cases digits : s.all isDigit with
  | true => rw [map_toLower_of_isDigit digits]
  | false =>
    have lowered : (s.map Char.toLower).all isDigit = false := by
      simp only [List.all_map, Function.comp_def, isDigit_toLower, digits]
    rw [isNumeral_of_all_isDigit digits, isNumeral_of_all_isDigit lowered]

/-- A name starts with no digit. -/
theorem isDigit_of_isName {s : List Char} (named : isName s = true) : s.all isDigit = false := by
  cases s with
  | nil => cases named
  | cons c s =>
    simp only [isName, Bool.and_eq_true] at named
    rw [List.all_cons, isDigit_of_isNameStart named.1, Bool.false_and]

theorem isNumeral_of_isName {s : List Char} (named : isName s = true) : isNumeral s = false :=
  isNumeral_of_all_isDigit (isDigit_of_isName named)

end Accumulator.Text
