import Accumulator.Console
import Accumulator.Text.Line

/-!
# Scripts

A script is a console whose input is a list of lines known in advance and whose output is kept. It
never fails.
-/
namespace Accumulator

structure Script where
  /-- The lines that were not read yet. -/
  input : List String := []
  output : Array String := #[]
  deriving DecidableEq, Repr

namespace Script

/-- The script whose input is the lines of a text. -/
def ofText (text : String) : Script :=
  { input := (Text.lines text.toList).map String.ofList }

instance : Console Script where
  readLine
    | ⟨line :: rest, output⟩ => (.ok (some line), ⟨rest, output⟩)
    | ⟨[], output⟩ => (.ok none, ⟨[], output⟩)
  writeLine script value := (.ok (), { script with output := script.output.push value })

end Script

end Accumulator
