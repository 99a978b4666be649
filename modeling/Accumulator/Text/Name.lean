/-!
# Names and letter case

A name starts with a letter or an underscore and goes on with these or ASCII digits. Letters are
the ASCII letters and the two characters that differ from an ASCII letter only in case: the long s
(U+017F) and the Kelvin sign (U+212A). Names are compared after lowering the ASCII letters, which
leaves those two characters as they are.
-/
namespace Accumulator.Text

def isNameStart (c : Char) : Bool :=
  c.isAlpha || c == '_' || c == '\u017f' || c == '\u212a'

def isNamePart (c : Char) : Bool :=
  isNameStart c || c.isDigit

def isName : List Char → Bool
  | [] => false
  | c :: rest => isNameStart c && rest.all isNamePart

/-- The text with its ASCII letters in lower case. -/
def lowercase (s : String) : String := String.ofList (s.toList.map Char.toLower)

@[simp] theorem toList_lowercase (s : String) :
    (lowercase s).toList = s.toList.map Char.toLower := by
  simp [lowercase]

end Accumulator.Text
