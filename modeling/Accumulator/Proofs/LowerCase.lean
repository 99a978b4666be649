import Accumulator.Proofs.Labels
import Accumulator.Proofs.Lines

/-!
# Sources in lower case

Lowering the ASCII letters of a source lowers those of its statements and changes nothing else
(`ofSource_lowercase`). Every character that the reader looks for is its own lower case, and so a
text can be lowered before it is cut up or afterwards. Labels are kept in lower case anyway.
-/
namespace Accumulator

namespace Text

/-! ### Cutting up a text -/

theorem splitOnP_map {α β : Type} (p : β → Bool) (f : α → β) (s : List α) :
    (s.map f).splitOnP p = (s.splitOnP (p ∘ f)).map (List.map f) := by
  induction s with
  | nil => simp
  | cons c s ih =>
    rw [List.map_cons, List.splitOnP_cons_eq_if_modifyHead, List.splitOnP_cons_eq_if_modifyHead, ih]
    simp only [Function.comp_apply]
    split
    · rfl
    · -- The first piece grows by a character, whichever comes first.
      obtain ⟨piece, pieces, shape⟩ := List.exists_cons_of_ne_nil (List.splitOnP_ne_nil (p ∘ f) s)
      rw [shape]
      rfl

theorem fields_map_toLower (s : List Char) :
    fields (s.map Char.toLower) = (fields s).map (List.map Char.toLower) := by
  have blanks : isBlank ∘ Char.toLower = isBlank := funext isBlank_toLower
  rw [fields, splitOnP_map, blanks, fields, List.filter_map]
  refine congrArg (List.map (List.map Char.toLower)) (List.filter_congr fun field _ => ?_)
  cases field <;> rfl

theorem getLast?_map_toLower {mark : Char} (unlettered : inRanges letterRanges mark = false)
    (s : List Char) : (s.map Char.toLower).getLast? = some mark ↔ s.getLast? = some mark := by
  rw [List.getLast?_map, Option.map_eq_some_iff]
  simp only [toLower_eq_iff unlettered, exists_eq_right]

theorem dropReturn_map_toLower (line : List Char) :
    dropReturn (line.map Char.toLower) = (dropReturn line).map Char.toLower := by
  simp only [dropReturn, getLast?_map_toLower (by decide : inRanges letterRanges '\r' = false)]
  split
  · exact (List.map_dropLast ..).symm
  · rfl

theorem lines_map_toLower (s : List Char) :
    lines (s.map Char.toLower) = (lines s).map (List.map Char.toLower) := by
  have kept : ∀ {line : List Char}, '\n' ∉ line → '\n' ∉ line.map Char.toLower := by
    intro line oneLine member
    obtain ⟨c, there, same⟩ := List.mem_map.mp member
    rw [toLower_eq_iff (by decide)] at same
    exact oneLine (same ▸ there)
  induction s using line_induction with
  | last line oneLine =>
    rw [lines_of_not_mem oneLine, lines_of_not_mem (kept oneLine)]
    cases line <;> rfl
  | terminated line rest oneLine ih =>
    have feed : Char.toLower '\n' = '\n' := by decide
    rw [List.map_append, List.map_cons, feed, lines_append_newline _ _ (kept oneLine), ih,
      lines_append_newline line rest oneLine, dropReturn_map_toLower, List.map_cons]

theorem ofList_map_toLower (s : List Char) :
    String.ofList (s.map Char.toLower) = lowercase (String.ofList s) := by
  rw [lowercase, String.toList_ofList]

end Text

/-! ### Statements -/

/-- The statement with its names in lower case. -/
def Statement.lower (statement : Statement) : Statement where
  label := statement.label.map Text.lowercase
  opcode := statement.opcode
  token := statement.token.map Text.lowercase

def Line.lower : Line → Line
  | .blank => .blank
  | .statement content => .statement content.lower
  | .malformed => .malformed

/-- The listing with its names in lower case. -/
def Listing.lower (listing : Listing) : Listing where
  statements := listing.statements.map fun (line, statement) => (line, statement.lower)
  malformed := listing.malformed

namespace Opcode

theorem ofMnemonic?_lowercase (name : String) :
    ofMnemonic? (Text.lowercase name) = ofMnemonic? name := by
  rw [ofMnemonic?, Text.lowercase_lowercase, ofMnemonic?]

end Opcode

namespace Statement

theorem isToken_map_toLower (field : List Char) :
    isToken (field.map Char.toLower) = isToken field := by
  simp only [isToken, List.isEmpty_map, List.all_map, Function.comp_def, Text.isDigit_toLower,
    Text.isName_map_toLower]

theorem labelName?_map_toLower (field : List Char) :
    labelName? (field.map Char.toLower) = (labelName? field).map (List.map Char.toLower) := by
  have comma : (field.map Char.toLower).getLast? = some ',' ↔ field.getLast? = some ',' :=
    Text.getLast?_map_toLower (by decide) field
  simp only [labelName?, comma, ← List.map_dropLast, Text.isName_map_toLower]
  split <;> rfl

theorem command?_map_toLower (label : Option String) (fields : List (List Char)) :
    command? (label.map Text.lowercase) (fields.map (List.map Char.toLower)) =
      (command? label fields).map lower := by
  match fields with
  | [] => rfl
  | [mnemonic] =>
    simp only [List.map_cons, List.map_nil, command?, Text.ofList_map_toLower,
      Opcode.ofMnemonic?_lowercase, Option.map_map]
    rfl
  | [mnemonic, token] =>
    simp only [List.map_cons, List.map_nil, command?, Text.ofList_map_toLower,
      Opcode.ofMnemonic?_lowercase, isToken_map_toLower]
    split
    · rw [Option.map_map]
      rfl
    · rfl
  | _ :: _ :: _ :: _ => rfl

theorem ofFields?_map_toLower (fields : List (List Char)) :
    ofFields? (fields.map (List.map Char.toLower)) = (ofFields? fields).map lower := by
  cases fields with
  | nil => rfl
  | cons first rest =>
    simp only [List.map_cons, ofFields?, labelName?_map_toLower]
    cases labelName? first with
    | none => exact command?_map_toLower none (first :: rest)
    | some name =>
      simp only [Option.map_some, Text.ofList_map_toLower]
      exact command?_map_toLower (some (String.ofList name)) rest

theorem dropNumber_map_toLower (code : List Char) :
    dropNumber (code.map Char.toLower) = (dropNumber code).map Char.toLower := by
  have blanks : Text.isBlank ∘ Char.toLower = Text.isBlank := funext Text.isBlank_toLower
  have digits : Text.isDigit ∘ Char.toLower = Text.isDigit := funext Text.isDigit_toLower
  unfold dropNumber
  simp only [List.dropWhile_map, List.takeWhile_map, blanks, digits]
  cases List.takeWhile Text.isDigit (code.dropWhile Text.isBlank) with
  | nil => rfl
  | cons digit digits =>
    cases List.dropWhile Text.isDigit (code.dropWhile Text.isBlank) with
    | nil => rfl
    | cons c rest =>
      -- The period behind the digits is one in either case.
      have period := Text.toLower_eq_iff (by decide : Text.inRanges Text.letterRanges '.' = false) c
      by_cases here : c = '.'
      · rw [List.map_cons, List.map_cons, period.mpr here, here]
        rfl
      · have lowered := mt period.mp here
        simp only [List.map_cons]
        split
        next found => exact absurd (List.cons.inj found).1 lowered
        next =>
          split
          next found => exact absurd (List.cons.inj found).1 here
          next => rfl

end Statement

namespace Line

theorem code_map_toLower (line : List Char) :
    code (line.map Char.toLower) = (code line).map Char.toLower := by
  have marks : (fun c => c != '#') ∘ Char.toLower = fun c => c != '#' := by
    funext c
    have sharp := Text.toLower_eq_iff (by decide : Text.inRanges Text.letterRanges '#' = false) c
    rw [Function.comp_apply, Bool.eq_iff_iff, bne_iff_ne, bne_iff_ne, Ne, Ne, sharp]
  rw [code, List.takeWhile_map, marks, code]

theorem read_map_toLower (line : List Char) :
    read (line.map Char.toLower) = (read line).lower := by
  have blanks : Text.isBlank ∘ Char.toLower = Text.isBlank := funext Text.isBlank_toLower
  simp only [read, code_map_toLower, List.all_map, blanks, Statement.dropNumber_map_toLower,
    Text.fields_map_toLower, Statement.ofFields?_map_toLower]
  split
  · rfl
  · cases Statement.ofFields? (Text.fields (Statement.dropNumber (code line))) <;> rfl

end Line

namespace Listing

theorem ofLines_lower (lines : List Line) (number : Nat) :
    ofLines (lines.map Line.lower) number = (ofLines lines number).lower := by
  have same : Line.lower = Line.map Statement.lower := funext fun line => by cases line <;> rfl
  rw [same, ofLines_map]
  rfl

/-- A source may be lowered before it is read or afterwards. -/
theorem ofSource_lowercase (source : String) :
    ofSource (Text.lowercase source) = (ofSource source).lower := by
  have lines : (Text.lines (Text.lowercase source).toList).map Line.read =
      ((Text.lines source.toList).map Line.read).map Line.lower := by
    rw [Text.toList_lowercase, Text.lines_map_toLower, List.map_map, List.map_map]
    exact List.map_congr_left fun line _ => Line.read_map_toLower line
  rw [ofSource, lines, ofLines_lower, ofSource]

/-! ### Labels -/

theorem symbols_lower (listing : Listing) : listing.lower.symbols = listing.symbols := by
  apply defineLabels_congr
  simp only [lower, Statement.lower, List.map_map]
  apply List.map_congr_left
  intro entry _
  simp only [Function.comp_apply, Option.map_map]
  exact Option.map_congr fun name _ => Text.lowercase_lowercase name

end Listing

end Accumulator
