/-!
# Paths

A path is a row of names between slashes. Empty names and single periods say nothing, two periods
lead to the directory above.
-/
namespace Accumulator.Path

/-- The names between the slashes, empty ones included. -/
def components (path : String) : List String :=
  (path.toList.splitOn '/').map String.ofList

/-- The name that a path ends in, unless it ends by going up. -/
def fileName? (path : String) : Option String :=
  match ((components path).filter fun name => name ≠ "" ∧ name ≠ ".").getLast? with
  | some name => if name = ".." then none else some name
  | none => none

/-- What follows the last period of a name. A period at the start of a name starts no extension. -/
def extensionOf? (name : String) : Option String :=
  let reversed := name.toList.reverse
  match reversed.dropWhile (· != '.') with
  | '.' :: _ :: _ => some (String.ofList (reversed.takeWhile (· != '.')).reverse)
  | _ => none

def extension? (path : String) : Option String := (fileName? path).bind extensionOf?

end Accumulator.Path
