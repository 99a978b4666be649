import Accumulator.Proofs.LetterCase

/-!
# Printed words

The console knows texts only. What is printed of a word and comes back as a line is its `echo`, a text
again. The reader of integers reads what their printer writes (`Text.integer?_toString`), and takes
nothing else that is printed for an integer. Main statement: `Word.integer?_echo`, an echo stands for
the same integer as the word.
-/
namespace Accumulator

namespace Text

variable {c : Char} {s : List Char}

/-- A text that starts with no blank keeps its first character when it is trimmed. -/
theorem trim_cons (solid : isBlank c = false) (s : List Char) :
    ∃ rest, trim (c :: s) = c :: rest := by
  have front : (c :: s).dropWhile isBlank = c :: s := by simp [solid]
  rw [trim, front, List.reverse_cons, List.dropWhile_append]
  split
  · exact ⟨[], by simp [solid]⟩
  · exact ⟨(s.reverse.dropWhile isBlank).reverse, by simp⟩

theorem trim_of_solid (solid : ∀ c ∈ s, isBlank c = false) : trim s = s := by
  have kept {t : List Char} (part : ∀ c ∈ t, isBlank c = false) : t.dropWhile isBlank = t :=
    List.dropWhile_eq_self_iff.mpr fun inside => by simp [part _ (List.getElem_mem inside)]
  rw [trim, kept solid, kept fun c member => solid c (List.mem_reverse.mp member),
    List.reverse_reverse]

/-- What starts with neither a digit nor a sign is no integer. -/
theorem integer?_of_isNameStart (start : isNameStart c = true) (s : List Char) :
    integer? (c :: s) = none := by
  have unsigned : ∀ sign, isNameStart sign = false → c ≠ sign := by
    rintro _ other rfl
    cases start.symm.trans other
  have numeral : isNumeral (c :: s) = false := by
    apply isNumeral_of_all_isDigit
    rw [List.all_cons, isDigit_of_isNameStart start, Bool.false_and]
  rw [integer?_of_unsigned (unsigned '-' (by decide)) (unsigned '+' (by decide)), natural?, numeral]
  rfl

/-- An integer is written as its digits, behind a minus sign if it is negative. -/
theorem toList_toString_int (n : Int) :
    (toString n).toList = (if n < 0 then ['-'] else []) ++ Nat.toDigits 10 n.natAbs := by
  rw [Int.toString_eq_repr, Int.repr_eq_if]
  rcases Int.lt_or_le n 0 with negative | natural
  · have same : (-n).toNat = n.natAbs := by omega
    simp [negative, Int.not_le.mpr negative, Nat.repr_eq_ofList_toDigits, same]
  · have same : n.toNat = n.natAbs := by omega
    simp [natural, Int.not_lt.mpr natural, Nat.repr_eq_ofList_toDigits, same]

theorem isBlank_of_mem_toString {n : Int} (member : c ∈ (toString n).toList) :
    isBlank c = false := by
  rw [toList_toString_int, List.mem_append] at member
  rcases member with sign | digit
  · split at sign
    · rw [List.mem_singleton.mp sign]
      decide
    · cases sign
  · have ascii := Nat.isDigit_of_mem_toDigits (by decide) (by decide) digit
    exact isBlank_of_isDigit (isDigit_of_char_isDigit ascii)

/-- The reader of integers reads what their printer writes. -/
theorem integer?_toString (n : Int) : integer? (toString n).toList = some n := by
  rw [toList_toString_int]
  split
  next negative =>
    have value : -(n.natAbs : Int) = n := by omega
    rw [List.singleton_append, integer?, natural?_toDigits]
    exact congrArg some value
  next natural =>
    have value : (n.natAbs : Int) = n := by omega
    have digits := natural?_toDigits n.natAbs
    cases written : Nat.toDigits 10 n.natAbs with
    | nil => exact absurd written Nat.toDigits_ne_nil
    | cons first rest =>
      -- The reader looks for a sign first, and a digit is none.
      have ascii := Nat.isDigit_of_mem_toDigits (c := first) (by decide) (by decide)
        (written ▸ List.mem_cons_self)
      have unsigned : ∀ sign, sign.isDigit = false → first ≠ sign := by
        rintro _ other rfl
        cases ascii.symm.trans other
      rw [List.nil_append,
        integer?_of_unsigned (unsigned '-' (by decide)) (unsigned '+' (by decide)), ← written, digits]
      exact congrArg some value

end Text

/-! ### Echoes -/

/-- The text that the word is printed as. -/
def Word.echo (word : Word) : Word := .text word.render

/-- An instruction is written with a letter first. -/
theorem Instruction.render_cons (code : Instruction) :
    ∃ first rest, code.render.toList = first :: rest ∧ Text.isNameStart first = true := by
  obtain ⟨opcode, operand⟩ := code
  have mnemonic : ∃ first rest, opcode.mnemonic.toList = first :: rest ∧
      Text.isNameStart first = true := by
    cases opcode <;> exact ⟨_, _, rfl, by decide⟩
  obtain ⟨first, rest, written, start⟩ := mnemonic
  cases operand with
  | none => exact ⟨first, rest, written, start⟩
  | some operand =>
    exact ⟨first, rest ++ ' ' :: operand.render.toList, by simp [render, written], start⟩

namespace Word

theorem echo_eq_echo_iff {word other : Word} :
    word.echo = other.echo ↔ word.render = other.render := by
  rw [echo, echo, Word.text.injEq]

/-- What is read again stands for the same integer, or again for none. -/
@[simp] theorem integer?_echo (word : Word) : word.echo.integer? = word.integer? := by
  cases word with
  | unset => decide
  | instruction code =>
    obtain ⟨first, rest, written, start⟩ := code.render_cons
    have solid : Text.isBlank first = false :=
      Text.isBlank_of_isNamePart (by rw [Text.isNamePart, start, Bool.true_or])
    -- Trimming may cut the operand, but what is left still starts with a letter.
    obtain ⟨others, trimmed⟩ := Text.trim_cons solid rest
    simp only [echo, render, integer?, written, trimmed, Text.integer?_of_isNameStart start,
      Option.bind_none]
  | integer value =>
    have trimmed : Text.trim value.render.toList = value.render.toList :=
      Text.trim_of_solid fun _ => Text.isBlank_of_mem_toString
    simp only [echo, render, integer?, trimmed]
    rw [Integer.render, Text.integer?_toString, Option.bind_some, Integer.ofInt?_toInt]
  | text content => rfl

theorem integer?_congr {word other : Word} (same : word.echo = other.echo) :
    word.integer? = other.integer? := by
  rw [← integer?_echo word, same, integer?_echo]

end Word

end Accumulator
