/-!
# Lines

A line ends at a line feed or at the end of the text. A carriage return just before the line feed
belongs to the ending; one before the end of the text belongs to the line. A text that ends with a
line feed has no empty line after it.
-/
namespace Accumulator.Text

/-- A line without the carriage return that stood before its line feed. -/
def dropReturn (line : List Char) : List Char :=
  if line.getLast? = some '\r' then line.dropLast else line

def lines (s : List Char) : List (List Char) :=
  let pieces := s.splitOn '\n'
  pieces.dropLast.map dropReturn ++ pieces.getLast?.toList.filter fun rest => !rest.isEmpty

/-- The lines of a text that starts with a terminated line. -/
theorem lines_append_newline (line rest : List Char) (oneLine : '\n' ∉ line) :
    lines (line ++ '\n' :: rest) = dropReturn line :: lines rest := by
  have split : (line ++ '\n' :: rest).splitOn '\n' = line :: rest.splitOn '\n' :=
    List.splitOn_append_cons_self_of_not_mem oneLine rest
  obtain ⟨piece, pieces, shape⟩ := List.exists_cons_of_ne_nil (List.splitOn_ne_nil '\n' rest)
  simp [lines, split, shape]

end Accumulator.Text
