import Accumulator.Text.Blank

/-!
# Decimal numerals

Numerals are read in ASCII digits only; leading zeros are allowed. Numbers are written by the
standard printers of `Nat` and `Int`, so `natural?` reads back what `toString` writes.
-/
namespace Accumulator.Text

/-- Is the text one or more ASCII digits? -/
def isNumeral (s : List Char) : Bool := !s.isEmpty && s.all Char.isDigit

/-- The value of one or more ASCII digits. -/
def natural? (s : List Char) : Option Nat :=
  if isNumeral s then some (Nat.ofDigitChars 10 s 0) else none

/-- The value of one or more ASCII digits behind at most one sign. -/
def integer? : List Char → Option Int
  | '-' :: digits => (natural? digits).map fun n => -(n : Int)
  | '+' :: digits => (natural? digits).map fun n => (n : Int)
  | digits => (natural? digits).map fun n => (n : Int)

theorem natural?_toDigits (n : Nat) : natural? (Nat.toDigits 10 n) = some n := by
  have digits : (Nat.toDigits 10 n).all Char.isDigit = true :=
    List.all_eq_true.mpr fun _ member => Nat.isDigit_of_mem_toDigits (by decide) (by decide) member
  simp [natural?, isNumeral, digits, Nat.toDigits_ne_nil, Nat.ofDigitChars_ten_toDigits]

end Accumulator.Text
