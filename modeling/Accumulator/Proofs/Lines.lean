import Accumulator.Text.Line
import Mathlib.Data.List.Basic

/-!
# Lines of a text

A text is its last line, or a terminated line and a text behind it (`line_induction`). So what is
said of all lines is said of one that is terminated and of one that is not. Behind a line feed, or
behind nothing, a text starts a line of its own: there the lines of two texts put together are the
lines of both (`lines_append`). Which lines a text has is also said without cutting it up
(`Shows`), and the two agree wherever no carriage return is left in a line (`shows_iff`).
-/
namespace Accumulator.Text

/-- Neither of the characters that end lines is in the text. -/
structure Plain (text : List Char) : Prop where
  oneLine : '\n' ∉ text
  noReturn : '\r' ∉ text

instance (text : List Char) : Decidable (Plain text) :=
  decidable_of_iff ('\n' ∉ text ∧ '\r' ∉ text)
    ⟨fun ⟨oneLine, noReturn⟩ => ⟨oneLine, noReturn⟩, fun plain => ⟨plain.oneLine, plain.noReturn⟩⟩

/-- Are these the lines of the text? A line ends with a line feed, which can have a carriage return
before it, and the last one can end with the text instead. -/
inductive Shows : List (List Char) → List Char → Prop where
  | nothing : Shows [] []
  | last {line : List Char} (nonempty : line ≠ []) (plain : Plain line) : Shows [line] line
  | newline {line text : List Char} {lines : List (List Char)} (plain : Plain line)
      (rest : Shows lines text) : Shows (line :: lines) (line ++ '\n' :: text)
  | returned {line text : List Char} {lines : List (List Char)} (plain : Plain line)
      (rest : Shows lines text) : Shows (line :: lines) (line ++ '\r' :: '\n' :: text)

/-- A text is its last line, or a terminated line and a text behind it. -/
theorem line_induction {motive : List Char → Prop} (last : ∀ line, '\n' ∉ line → motive line)
    (terminated : ∀ line rest, '\n' ∉ line → motive rest → motive (line ++ '\n' :: rest))
    (s : List Char) : motive s := by
  -- By induction on the length, as the text behind the first line feed is shorter.
  induction length : s.length using Nat.strongRecOn generalizing s with
  | ind n ih =>
    by_cases more : '\n' ∈ s
    · obtain ⟨line, rest, rfl, oneLine⟩ := List.eq_append_cons_of_mem more
      refine terminated line rest oneLine (ih rest.length ?_ rest rfl)
      rw [← length, List.length_append, List.length_cons]
      omega
    · exact last s more

theorem lines_of_not_mem {line : List Char} (oneLine : '\n' ∉ line) :
    lines line = [line].filter fun rest => !rest.isEmpty := by
  simp [lines, List.splitOn_eq_singleton oneLine]

theorem dropReturn_of_not_mem {line : List Char} (noReturn : '\r' ∉ line) :
    dropReturn line = line := by
  rw [dropReturn, if_neg]
  intro last
  exact noReturn (List.mem_of_getLast? last)

theorem dropReturn_concat (line : List Char) : dropReturn (line ++ ['\r']) = line := by
  simp [dropReturn]

theorem lines_flatMap {texts : List (List Char)}
    (single : ∀ text ∈ texts, '\n' ∉ text ∧ '\r' ∉ text) :
    lines (texts.flatMap fun text => text ++ ['\n']) = texts := by
  induction texts with
  | nil => rfl
  | cons text texts ih =>
    obtain ⟨oneLine, noReturn⟩ := single text List.mem_cons_self
    rw [List.flatMap_cons, List.append_assoc, List.singleton_append,
      lines_append_newline _ _ oneLine, dropReturn_of_not_mem noReturn,
      ih fun other member => single other (List.mem_cons_of_mem _ member)]

theorem Shows.lines_eq {expected : List (List Char)} {text : List Char}
    (shown : Shows expected text) : lines text = expected := by
  induction shown with
  | nothing => rfl
  | last nonempty plain => simp [lines_of_not_mem plain.oneLine, nonempty]
  | newline plain rest ih =>
    rw [lines_append_newline _ _ plain.oneLine, dropReturn_of_not_mem plain.noReturn, ih]
  | @returned line text others plain rest ih =>
    have oneLine : '\n' ∉ line ++ ['\r'] := by simp [plain.oneLine]
    have ended := lines_append_newline (line ++ ['\r']) text oneLine
    rw [List.append_assoc, List.singleton_append] at ended
    rw [ended, ih, dropReturn_concat]

theorem Shows.plain {expected : List (List Char)} {text : List Char}
    (shown : Shows expected text) : ∀ line ∈ expected, Plain line := by
  induction shown with
  | nothing => nofun
  | last nonempty plain => simpa using plain
  | newline plain rest ih | returned plain rest ih => exact List.forall_mem_cons.mpr ⟨plain, ih⟩

/-- A text shows the lines that it is cut into, if no carriage return is left in them. -/
theorem shows_lines {text : List Char} (plain : ∀ line ∈ lines text, Plain line) :
    Shows (lines text) text := by
  induction text using line_induction with
  | last line oneLine =>
    rw [lines_of_not_mem oneLine] at plain ⊢
    cases line with
    | nil => exact .nothing
    | cons c rest => exact .last (List.cons_ne_nil c rest) (plain _ (by simp))
  | terminated line rest oneLine ih =>
    rw [lines_append_newline line rest oneLine] at plain ⊢
    obtain ⟨first, others⟩ := List.forall_mem_cons.mp plain
    by_cases returned : line.getLast? = some '\r'
    · obtain ⟨body, rfl⟩ : ∃ body, line = body ++ ['\r'] :=
        ⟨line.dropLast, (List.dropLast_append_getLast? _ returned).symm⟩
      rw [dropReturn_concat] at first ⊢
      rw [List.append_assoc, List.singleton_append]
      exact .returned first (ih others)
    · rw [dropReturn, if_neg returned] at first ⊢
      exact .newline first (ih others)

theorem shows_iff {expected : List (List Char)} {text : List Char} :
    Shows expected text ↔ lines text = expected ∧ ∀ line ∈ expected, Plain line := by
  constructor
  · exact fun shown => ⟨shown.lines_eq, shown.plain⟩
  · rintro ⟨rfl, plain⟩
    exact shows_lines plain

/-- A line takes at least one character: what is in it or the line feed behind it. -/
theorem length_lines_le (s : List Char) : (lines s).length ≤ s.length := by
  induction s using line_induction with
  | last line oneLine =>
    rw [lines_of_not_mem oneLine]
    cases line <;> simp
  | terminated line rest oneLine ih =>
    rw [lines_append_newline line rest oneLine, List.length_append, List.length_cons,
      List.length_cons]
    omega

/-- A text behind a terminated line starts with a line of its own. -/
theorem lines_append {front : List Char} (ended : front = [] ∨ front.getLast? = some '\n')
    (back : List Char) : lines (front ++ back) = lines front ++ lines back := by
  induction front using line_induction with
  | last line oneLine =>
    rcases ended with rfl | feed
    · rfl
    · exact absurd (List.mem_of_getLast? feed) oneLine
  | terminated line rest oneLine ih =>
    have ended_rest : rest = [] ∨ rest.getLast? = some '\n' := by
      rcases rest.eq_nil_or_concat' with rfl | ⟨before, c, rfl⟩
      · exact .inl rfl
      · right
        have same : line ++ '\n' :: (before ++ [c]) = (line ++ '\n' :: before) ++ [c] := by simp
        rw [same, List.getLast?_concat] at ended
        simpa using ended
    rw [List.append_assoc, List.cons_append, lines_append_newline line _ oneLine, ih ended_rest,
      lines_append_newline line rest oneLine, List.cons_append]

end Accumulator.Text
