import Accumulator.CommandLine.Path
import Accumulator.Text.Content

/-!
# File trees

A file tree holds files and directories below the directory that paths start from. Its own
surroundings are directories about which nothing is known.
-/
namespace Accumulator

inductive FileError where
  | notFound
  | notDirectory
  | isDirectory
  | nameTooLong
  deriving DecidableEq, Repr

def FileError.message : FileError → String
  | .notFound => "No such file or directory (os error 2)"
  | .notDirectory => "Not a directory (os error 20)"
  | .isDirectory => "Is a directory (os error 21)"
  | .nameTooLong => "File name too long (os error 36)"

structure FileTree where
  /-- Files with their content and directories without one, by their paths. A directory that some
  path leads through need not be listed. -/
  entries : List (String × Option Text.Content)

namespace FileTree

/-- The longest name, in bytes. -/
def nameLimit : Nat := 255

/-- The longest path, in bytes. -/
def pathLimit : Nat := 4095

inductive Node where
  | directory
  | file (content : Text.Content)

/-- What stands at a place, given by the names that lead to it. -/
def node? (tree : FileTree) (place : List String) : Option Node :=
  let entries := tree.entries.map fun entry =>
    ((Path.components entry.1).filter (· ≠ ""), entry.2)
  match entries.lookup place with
  | some (some content) => some (.file content)
  | some none => some .directory
  | none =>
    if place.isEmpty || entries.any fun entry => place.isPrefixOf entry.1 then some .directory
    else none

/-- A place in the tree, or one in its surroundings. -/
inductive Position where
  | inside (place : List String) (node : Node)
  | outside

namespace Position

def root : Position := .inside [] .directory

def isDirectory : Position → Bool
  | .inside _ .directory | .outside => true
  | .inside _ (.file _) => false

def parent (tree : FileTree) : Position → Position
  | .inside [] _ | .outside => .outside
  | .inside place _ => .inside place.dropLast ((tree.node? place.dropLast).getD .directory)

def child? (tree : FileTree) (name : String) : Position → Option Position
  | .inside place _ => (tree.node? (place ++ [name])).map (.inside (place ++ [name]))
  | .outside => none

end Position

/-- Follows the names of a path. A name can only be followed from a directory. -/
def follow (tree : FileTree) (position : Position) : List String → Except FileError Position
  | [] => .ok position
  | name :: rest =>
    if !position.isDirectory then .error .notDirectory
    else if name = "" ∨ name = "." then follow tree position rest
    else if name = ".." then follow tree (position.parent tree) rest
    else if nameLimit < name.utf8ByteSize then .error .nameTooLong
    else
      match position.child? tree name with
      | some child => follow tree child rest
      | none => .error .notFound

def find (tree : FileTree) (path : String) : Except FileError Position :=
  if path = "" then .error .notFound
  else if pathLimit < path.utf8ByteSize then .error .nameTooLong
  else follow tree (if path.toList.head? = some '/' then .outside else .root) (Path.components path)

def read (tree : FileTree) (path : String) : Except FileError Text.Content :=
  match tree.find path with
  | .ok (.inside _ (.file content)) => .ok content
  | .ok _ => .error .isDirectory
  | .error error => .error error

/-- Does the path lead to a file or a directory? -/
def contains (tree : FileTree) (path : String) : Bool := (tree.find path).isOk

end FileTree

end Accumulator
