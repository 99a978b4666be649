import Accumulator.Proofs.Chomp
import Accumulator.Proofs.PrintedWords

/-!
# Texts that stand for integers

A text is trimmed and then read as a numeral. What is left of it by trimming (`Text.Stripped`), which
numerals there are and what they are worth (`Text.SignedNumeral`), and what else may be left of a text
(`Text.Illegible`) is said without the functions that read it. A numeral of any length is read, but
its value counts only if it is a machine integer. Main statement: `integer?_iff_signedNumeral`.
-/
namespace Accumulator

namespace Text

/-- Is this all of a text but the blanks at its two ends? -/
structure Stripped (s core : List Char) : Prop where
  around : ∃ front back, s = front ++ core ++ back ∧ (∀ c ∈ front, isBlank c = true) ∧
    ∀ c ∈ back, isBlank c = true
  first : ∀ c ∈ core.head?, isBlank c = false
  last : ∀ c ∈ core.getLast?, isBlank c = false

/-- The number that an ASCII digit stands for. -/
def digitValue (c : Char) : Nat := c.toNat - '0'.toNat

/-- The number that a row of digits stands for, the last of which counts the ones. -/
def placeValue (digits : List Char) : Nat := Nat.ofDigits 10 (digits.reverse.map digitValue)

/-- One or more ASCII digits. -/
structure Numeral (s : List Char) : Prop where
  nonempty : s ≠ []
  ascii : ∀ c ∈ s, c.isDigit = true

/-- A numeral behind at most one sign, with its value. -/
inductive SignedNumeral : List Char → Int → Prop
  | unsigned {digits : List Char} (numeral : Numeral digits) :
      SignedNumeral digits (placeValue digits)
  | plus {digits : List Char} (numeral : Numeral digits) :
      SignedNumeral ('+' :: digits) (placeValue digits)
  | minus {digits : List Char} (numeral : Numeral digits) :
      SignedNumeral ('-' :: digits) (-placeValue digits)

/-- What is no signed numeral. A blank inside, a second sign and a digit of another script are
characters that are no ASCII digits. -/
inductive Illegible : List Char → Prop
  | empty : Illegible []
  | lonePlus : Illegible ['+']
  | loneMinus : Illegible ['-']
  | first {c : Char} {rest : List Char} (unsigned : c ≠ '+' ∧ c ≠ '-') (other : c.isDigit = false) :
      Illegible (c :: rest)
  | later {first c : Char} {rest : List Char} (member : c ∈ rest) (other : c.isDigit = false) :
      Illegible (first :: rest)

/-! ### Trimming -/

variable {s core : List Char}

theorem trim_eq_rdropWhile (s : List Char) : trim s = (s.dropWhile isBlank).rdropWhile isBlank := rfl

theorem trim_blanks_append {blanks : List Char} (blank : ∀ c ∈ blanks, isBlank c = true)
    (s : List Char) : trim (blanks ++ s) = trim s := by
  rw [trim, List.dropWhile_append_of_pos blank, trim]

theorem stripped_trim (s : List Char) : Stripped s (trim s) where
  around := by
    refine ⟨s.takeWhile isBlank, (s.dropWhile isBlank).rtakeWhile isBlank, ?_,
      fun _ => List.mem_takeWhile_imp, fun _ => List.mem_rtakeWhile_imp⟩
    rw [trim_eq_rdropWhile, List.append_assoc, List.rdropWhile_append_rtakeWhile,
      List.takeWhile_append_dropWhile]
  first c head := by
    -- What is dropped from the end leaves a beginning of what was dropped from the front.
    have start := List.rdropWhile_prefix isBlank (s.dropWhile isBlank)
    rw [← trim_eq_rdropWhile] at start
    obtain ⟨rest, written⟩ := List.head?_eq_some_iff.mp head
    obtain ⟨back, same⟩ := start
    have solid := List.head?_dropWhile_not isBlank s
    rw [← same, written] at solid
    exact solid
  last c last := by
    rw [trim_eq_rdropWhile] at last
    obtain ⟨some, rfl⟩ := List.mem_getLast?_eq_getLast last
    simpa using List.rdropWhile_last_not isBlank _ some

theorem stripped_iff : Stripped s core ↔ core = trim s := by
  constructor
  · rintro ⟨⟨front, back, rfl, before, behind⟩, first, last⟩
    rw [List.append_assoc, trim_blanks_append before, trim_append_blanks behind]
    -- Neither end is a blank, so nothing more is dropped.
    have kept : core.dropWhile isBlank = core := by
      cases core with
      | nil => rfl
      | cons c rest => simp [first c rfl]
    rw [trim_eq_rdropWhile, kept, eq_comm, List.rdropWhile_eq_self_iff]
    intro some
    simp [last _ (List.getLast?_eq_some_getLast some)]
  · rintro rfl
    exact stripped_trim s

/-! ### Numerals -/

theorem numeral_iff : Numeral s ↔ isNumeral s = true := by
  simp only [isNumeral, Bool.and_eq_true, Bool.not_eq_true', List.isEmpty_eq_false_iff,
    List.all_eq_true]
  exact ⟨fun numeral => ⟨numeral.nonempty, numeral.ascii⟩, fun written => ⟨written.1, written.2⟩⟩

/-- Reading from the left, one digit after the other, adds up the places. -/
theorem ofDigitChars_eq_placeValue (digits : List Char) :
    Nat.ofDigitChars 10 digits 0 = placeValue digits := by
  -- By induction from the end: a further digit shifts those before it by one place.
  induction digits using List.reverseRecOn with
  | nil => rfl
  | append_singleton front last ih =>
    rw [Nat.ofDigitChars_append, ih, Nat.ofDigitChars_cons, Nat.ofDigitChars_nil, placeValue,
      placeValue, List.reverse_append, List.reverse_singleton, List.singleton_append, List.map_cons,
      Nat.ofDigits_cons, digitValue, Nat.add_comm]

theorem natural?_eq_some_iff {n : Nat} : natural? s = some n ↔ Numeral s ∧ placeValue s = n := by
  rw [natural?, Option.ite_none_right_eq_some, ← numeral_iff, ofDigitChars_eq_placeValue,
    Option.some.injEq]

theorem cast_natural?_eq_some_iff {n : Int} :
    (natural? s : Option Int) = some n ↔ Numeral s ∧ placeValue s = n := by
  simp only [Option.bind_eq_bind, Option.bind_eq_some_iff, natural?_eq_some_iff, Option.pure_def,
    Option.some.injEq]
  constructor
  · rintro ⟨_, ⟨numeral, rfl⟩, value⟩
    exact ⟨numeral, value⟩
  · rintro ⟨numeral, value⟩
    exact ⟨_, ⟨numeral, rfl⟩, value⟩

theorem integer?_eq_some_iff {n : Int} : integer? s = some n ↔ SignedNumeral s n := by
  constructor
  · intro read
    unfold integer? at read
    split at read
    next digits =>
      obtain ⟨value, found, rfl⟩ := Option.map_eq_some_iff.mp read
      obtain ⟨numeral, rfl⟩ := cast_natural?_eq_some_iff.mp found
      exact .minus numeral
    next digits =>
      obtain ⟨value, found, rfl⟩ := Option.map_eq_some_iff.mp read
      obtain ⟨numeral, rfl⟩ := cast_natural?_eq_some_iff.mp found
      exact .plus numeral
    next =>
      obtain ⟨value, found, rfl⟩ := Option.map_eq_some_iff.mp read
      obtain ⟨numeral, rfl⟩ := cast_natural?_eq_some_iff.mp found
      exact .unsigned numeral
  · intro spelled
    cases spelled with
    | plus numeral | minus numeral =>
      rw [integer?, cast_natural?_eq_some_iff.mpr ⟨numeral, rfl⟩]
      rfl
    | unsigned numeral =>
      have value := cast_natural?_eq_some_iff.mpr ⟨numeral, rfl⟩
      cases s with
      | nil => exact absurd rfl numeral.nonempty
      | cons c rest =>
        -- The reader looks for a sign first, and a digit is none.
        have digit := numeral.ascii c List.mem_cons_self
        have unsigned : ∀ sign, sign.isDigit = false → c ≠ sign := by
          rintro _ other rfl
          cases digit.symm.trans other
        rw [integer?_of_unsigned (unsigned '-' (by decide)) (unsigned '+' (by decide)), value]
        rfl

theorem illegible_iff : Illegible s ↔ ∀ n, ¬ SignedNumeral s n := by
  constructor
  · -- Each way of being illegible has a character, or lacks one, against each kind of numeral.
    intro illegible n spelled
    cases spelled with
    | unsigned numeral =>
      cases illegible with
      | empty => exact numeral.nonempty rfl
      | lonePlus => cases numeral.ascii '+' List.mem_cons_self
      | loneMinus => cases numeral.ascii '-' List.mem_cons_self
      | first unsigned other => cases other.symm.trans (numeral.ascii _ List.mem_cons_self)
      | later member other =>
        cases other.symm.trans (numeral.ascii _ (List.mem_cons_of_mem _ member))
    | plus numeral =>
      cases illegible with
      | lonePlus => exact numeral.nonempty rfl
      | first unsigned => simp at unsigned
      | later member other => cases other.symm.trans (numeral.ascii _ member)
    | minus numeral =>
      cases illegible with
      | loneMinus => exact numeral.nonempty rfl
      | first unsigned => simp at unsigned
      | later member other => cases other.symm.trans (numeral.ascii _ member)
  · intro unread
    cases s with
    | nil => exact .empty
    | cons c rest =>
      -- If the first character is a sign or a digit, what is wrong is behind it.
      by_cases digits : ∀ d ∈ rest, d.isDigit = true
      · by_cases plus : c = '+'
        · subst plus
          by_cases none : rest = []
          · subst none
            exact .lonePlus
          · exact absurd (.plus ⟨none, digits⟩) (unread _)
        · by_cases minus : c = '-'
          · subst minus
            by_cases none : rest = []
            · subst none
              exact .loneMinus
            · exact absurd (.minus ⟨none, digits⟩) (unread _)
          · refine .first ⟨plus, minus⟩ (Bool.eq_false_iff.mpr fun digit => ?_)
            exact unread _ (.unsigned ⟨by simp, List.forall_mem_cons.mpr ⟨digit, digits⟩⟩)
      · obtain ⟨d, foreign⟩ := not_forall.mp digits
        obtain ⟨member, other⟩ := Classical.not_imp.mp foreign
        exact .later member (Bool.eq_false_iff.mpr other)

end Text

/-! ### Words -/

theorem Integer.map_toInt_ofInt?_iff {m n : Int} :
    (ofInt? m).map Int64.toInt = some n ↔ m = n ∧ -2 ^ 63 ≤ n ∧ n ≤ 2 ^ 63 - 1 := by
  constructor
  · intro narrowed
    obtain ⟨value, found, rfl⟩ := Option.map_eq_some_iff.mp narrowed
    exact ⟨(toInt_of_ofInt? found).symm, Int64.minValue_le_toInt value, Int64.toInt_le value⟩
  · rintro ⟨rfl, range⟩
    have inside : Int64.minValue.toInt ≤ m ∧ m ≤ Int64.maxValue.toInt := range
    rw [ofInt?, dif_pos inside, Option.map_some, Int64.toInt_ofIntLE]

namespace Word

/-- A text stands for an integer exactly if it is, without the blanks around it, a row of ASCII digits
behind at most one sign, and its value is a machine integer. It stands for none exactly if what is left
without these blanks is empty, a sign alone or has another character somewhere, or if the value is
out of range. -/
theorem integer?_iff_signedNumeral (content : String) :
    ∃ core, (∀ other, Text.Stripped content.toList other ↔ other = core) ∧
      (∀ n : Int, (text content).integer?.map Int64.toInt = some n ↔
        Text.SignedNumeral core n ∧ -2 ^ 63 ≤ n ∧ n ≤ 2 ^ 63 - 1) ∧
      ((text content).integer? = none ↔
        Text.Illegible core ∨
          ∃ n, Text.SignedNumeral core n ∧ (n < -2 ^ 63 ∨ 2 ^ 63 - 1 < n)) := by
  refine ⟨Text.trim content.toList, fun _ => Text.stripped_iff, fun n => ?_, ?_⟩
  · simp only [integer?, ← Text.integer?_eq_some_iff]
    cases Text.integer? (Text.trim content.toList) with
    | none => simp
    | some value =>
      rw [Option.bind_some, Integer.map_toInt_ofInt?_iff, Option.some.injEq]
  · simp only [integer?, Text.illegible_iff, ← Text.integer?_eq_some_iff]
    cases Text.integer? (Text.trim content.toList) with
    | none => simp
    | some value =>
      have range : Integer.ofInt? value = none ↔ value < -2 ^ 63 ∨ 2 ^ 63 - 1 < value :=
        Integer.ofInt?_eq_none_iff
      simp [range]

/-- The least integer with a zero in front, between an em space and a next line character. -/
example : (text "\u2003-09223372036854775808\u0085").integer? = some Int64.minValue := by
  decide +kernel

end Word

end Accumulator
