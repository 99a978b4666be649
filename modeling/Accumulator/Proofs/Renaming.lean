import Accumulator.Proofs.Linking
import Accumulator.Proofs.Pieces

/-!
# Labels under another name

`renameLabel` gives a label another name, where it is defined and where it is an operand, and leaves
every other character of a source as it is. If nothing else goes by the new name, the program is the
same and the name stands in the same place of the table. Main statement: `assemble_renameLabel`.

Each line is renamed piece by piece (`Pieces.Fit.rename`), so it is read as the renamed statement.
Renaming commutes with each definition of the label pass, as two keys that differ before differ
afterwards (`SymbolTable.define_rename`), and so every operand finds the address that it had.
-/
namespace Accumulator

namespace Text

/-- The new name in the place of the old one, whatever the case in which that is written. -/
def rename (old new name : String) : String :=
  if lowercase name = lowercase old then new else name

/-- The text with each line changed, the line feeds left where they are. -/
def mapLines (change : List Char → List Char) (s : List Char) : List Char :=
  ['\n'].intercalate ((s.splitOn '\n').map change)

end Text

def Statement.rename (old new : String) (statement : Statement) : Statement where
  label := statement.label.map (Text.rename old new)
  opcode := statement.opcode
  token := statement.token.map (Text.rename old new)

namespace Grammar

def Pieces.rename (old new : String) (pieces : Pieces) : Pieces :=
  let renamed (chars : List Char) := (Text.rename old new (String.ofList chars)).toList
  { pieces with
    label := pieces.label.map fun (name, blanks) => (renamed name, blanks)
    argument := pieces.argument.map fun (blanks, token) => (blanks, renamed token) }

/-- The line with its label and its operand renamed, if it has a statement. -/
def renameLine (old new : String) (line : List Char) : List Char :=
  match Line.read line with
  | .statement _ => ((Pieces.ofLine line).rename old new).text
  | _ => line

end Grammar

/-- The source with a label renamed, where it is defined and where it is used. -/
def renameLabel (source old new : String) : String :=
  String.ofList (Text.mapLines (Grammar.renameLine old new) source.toList)

/-- The key of a table with the key of the old name changed into that of the new one. -/
def SymbolTable.renameKey (old new key : String) : String :=
  if key = Text.lowercase old then Text.lowercase new else key

def SymbolTable.rename (old new : String) (table : SymbolTable) : SymbolTable :=
  ⟨table.entries.map (Prod.map (renameKey old new) id)⟩

/-! ### Lines -/

namespace Text

theorem mapLines_of_not_mem (change : List Char → List Char) {line : List Char}
    (oneLine : '\n' ∉ line) : mapLines change line = change line := by
  rw [mapLines, List.splitOn_eq_singleton oneLine, List.map_singleton, List.intercalate_singleton]

theorem mapLines_append_newline (change : List Char → List Char) {line : List Char}
    (oneLine : '\n' ∉ line) (rest : List Char) :
    mapLines change (line ++ '\n' :: rest) = change line ++ '\n' :: mapLines change rest := by
  obtain ⟨piece, pieces, shape⟩ := List.exists_cons_of_ne_nil (List.splitOn_ne_nil '\n' rest)
  rw [mapLines, List.splitOn_append_cons_self_of_not_mem oneLine, mapLines, shape, List.map_cons,
    List.map_cons, List.intercalate_cons_cons, List.append_assoc, List.singleton_append]

/-- What is read of each changed line is read of each line of the changed text, if the carriage
return in front of a line feed makes no difference. -/
theorem map_lines_mapLines {α : Type} {change : List Char → List Char} {read : List Char → α}
    {after : α → α} (oneLine : ∀ line, '\n' ∉ line → '\n' ∉ change line)
    (empty : ∀ line, change line = [] ↔ line = [])
    (ending : ∀ line, read (dropReturn line) = read line)
    (changed : ∀ line, read (change line) = after (read line)) (s : List Char) :
    (lines (mapLines change s)).map read = ((lines s).map read).map after := by
  induction s using line_induction with
  | last line last =>
    rw [mapLines_of_not_mem change last, lines_of_not_mem last, lines_of_not_mem (oneLine line last)]
    -- An empty text has no line, and neither has what it is changed into.
    by_cases none : line = []
    · simp [none, (empty []).mpr rfl]
    · simp [none, mt (empty line).mp none, changed]
  | terminated line rest first ih =>
    rw [mapLines_append_newline change first, lines_append_newline _ _ (oneLine line first),
      lines_append_newline line rest first, List.map_cons, List.map_cons, List.map_cons, ih, ending,
      ending, changed]

end Text

namespace Line

variable {c : Char}

theorem code_append_blank (blank : Text.isBlank c = true) (line : List Char) :
    code (line ++ [c]) = code line ∨ code (line ++ [c]) = code line ++ [c] := by
  have unmarked : (c != '#') = true := by
    rw [bne_iff_ne]
    rintro rfl
    revert blank
    decide
  rw [code, List.takeWhile_append]
  split
  next whole =>
    right
    have all : code line = line := (List.takeWhile_prefix _).eq_of_length whole
    simp only [all, List.takeWhile_cons, unmarked, if_true, List.takeWhile_nil]
  next => exact .inl rfl

theorem dropNumber_append_blank (blank : Text.isBlank c = true) {code : List Char}
    (inked : code.all Text.isBlank = false) :
    Statement.dropNumber (code ++ [c]) = Statement.dropNumber code ++ [c] := by
  have digitless : Text.isDigit c = false := by
    cases digit : Text.isDigit c with
    | true => rw [Text.isBlank_of_isDigit digit] at blank; cases blank
    | false => rfl
  have period : c ≠ '.' := by
    rintro rfl
    revert blank
    decide
  have start : (code ++ [c]).dropWhile Text.isBlank = code.dropWhile Text.isBlank ++ [c] := by
    rw [List.dropWhile_append, if_neg]
    simpa using inked
  have digits : (code.dropWhile Text.isBlank ++ [c]).takeWhile Text.isDigit =
      (code.dropWhile Text.isBlank).takeWhile Text.isDigit := by
    rw [List.takeWhile_append, List.takeWhile_cons_of_neg (by simp [digitless])]
    split
    next whole =>
      rw [List.append_nil, (List.takeWhile_prefix _).eq_of_length whole]
    next => rfl
  have behind : (code.dropWhile Text.isBlank ++ [c]).dropWhile Text.isDigit =
      (code.dropWhile Text.isBlank).dropWhile Text.isDigit ++ [c] := by
    simp [List.dropWhile_append, digitless]
  simp only [Statement.dropNumber, start, digits, behind]
  cases (code.dropWhile Text.isBlank).takeWhile Text.isDigit with
  | nil => rfl
  | cons digit digits =>
    cases (code.dropWhile Text.isBlank).dropWhile Text.isDigit with
    | nil => simp [period]
    | cons mark rest =>
      by_cases here : mark = '.'
      · simp [here]
      · simp [here]

/-- A blank behind a line says nothing. -/
theorem read_append_blank (blank : Text.isBlank c = true) (line : List Char) :
    read (line ++ [c]) = read line := by
  rcases code_append_blank blank line with same | longer
  · rw [read, read, same]
  · rw [read, read, longer, List.all_append]
    cases inked : (code line).all Text.isBlank with
    | true => simp [blank]
    | false =>
      rw [dropNumber_append_blank blank inked, Text.fields_append_blank blank]
      simp [Text.fields]

theorem read_dropReturn (line : List Char) : read (Text.dropReturn line) = read line := by
  unfold Text.dropReturn
  split
  next returned =>
    obtain ⟨front, rfl⟩ := List.getLast?_eq_some_iff.mp returned
    rw [List.dropLast_concat, read_append_blank (by decide)]
  next => rfl

end Line

/-! ### Renamed lines -/

namespace Grammar

variable {pieces : Pieces} {statement : Statement} {old new : String}

theorem isName_rename {name : String} (named : Text.isName name.toList = true)
    (renamed : Text.isName new.toList = true) :
    Text.isName (Text.rename old new name).toList = true := by
  unfold Text.rename
  split
  · exact renamed
  · exact named

theorem token_rename {token : String} (written : Token token.toList)
    (renamed : Text.isName new.toList = true) :
    Token (Text.rename old new token).toList := by
  unfold Text.rename
  split
  · exact .name renamed
  · exact written

namespace Pieces

/-- Pieces stay pieces if one name takes the place of another. -/
theorem Fit.rename (fit : pieces.Fit statement) (named : Text.isName new.toList = true) :
    (pieces.rename old new).Fit (statement.rename old new) where
  before := fit.before
  number := fit.number
  label := by
    intro name blanks renamed
    obtain ⟨⟨own, gap⟩, written, same⟩ := Option.map_eq_some_iff.mp renamed
    obtain ⟨rfl, rfl⟩ := Prod.mk.inj same
    obtain ⟨own_named, rest⟩ := fit.label own gap written
    rw [← String.toList_ofList (l := own)] at own_named
    exact ⟨isName_rename own_named named, rest⟩
  mnemonic := fit.mnemonic
  argument := by
    intro blanks token renamed
    obtain ⟨⟨gap, own⟩, written, same⟩ := Option.map_eq_some_iff.mp renamed
    obtain ⟨rfl, rfl⟩ := Prod.mk.inj same
    obtain ⟨nonempty, blank, own_token⟩ := fit.argument gap own written
    rw [← String.toList_ofList (l := own)] at own_token
    exact ⟨nonempty, blank, token_rename own_token named⟩
  after := fit.after
  name := by
    simp only [Statement.rename, fit.name, Pieces.rename, Option.map_map, Function.comp_def,
      String.ofList_toList]
  token := by
    simp only [Statement.rename, fit.token, Pieces.rename, Option.map_map, Function.comp_def,
      String.ofList_toList]

/-- A line stays one line. -/
theorem newline_not_mem_text_rename (named : Text.isName new.toList = true)
    (oneLine : '\n' ∉ pieces.text) : '\n' ∉ (pieces.rename old new).text := by
  have renamed : ∀ {chars : List Char}, '\n' ∉ chars →
      '\n' ∉ (Text.rename old new (String.ofList chars)).toList := by
    intro chars free
    unfold Text.rename
    split
    · exact Text.not_mem_of_isName named (by decide)
    · rwa [String.toList_ofList]
  obtain ⟨before, number, label, mnemonic, argument, after, comment⟩ := pieces
  simp only [text, body, rename, List.mem_append, not_or] at oneLine ⊢
  obtain ⟨⟨front, ⟨⟨labelled, spelled⟩, argued⟩, blank⟩, said⟩ := oneLine
  refine ⟨⟨front, ⟨⟨?_, spelled⟩, ?_⟩, blank⟩, said⟩
  · cases label with
    | none => exact labelled
    | some pair =>
      simp only [labelText, List.mem_append, not_or] at labelled
      simp only [Option.map_some, labelText, List.mem_append, not_or]
      exact ⟨renamed labelled.1, labelled.2⟩
  · cases argument with
    | none => exact argued
    | some pair =>
      simp only [argumentText, List.mem_append, not_or] at argued
      simp only [Option.map_some, argumentText, List.mem_append, not_or]
      exact ⟨argued.1, renamed argued.2⟩

end Pieces

theorem renameLine_text (fit : pieces.Fit statement) :
    renameLine old new pieces.text = (pieces.rename old new).text := by
  rw [renameLine, read_eq_statement_iff.mpr fit.derives, Pieces.ofLine_text fit]

theorem read_renameLine (old : String) (named : Text.isName new.toList = true) (line : List Char) :
    Line.read (renameLine old new line) = (Line.read line).map (Statement.rename old new) := by
  cases reads : Line.read line with
  | statement content =>
    obtain ⟨pieces, fit, rfl⟩ := Pieces.derives_iff.mp (read_eq_statement_iff.mp reads)
    rw [renameLine_text fit, read_eq_statement_iff.mpr (fit.rename named).derives]
    rfl
  | blank => rw [renameLine, reads, reads]; rfl
  | malformed => rw [renameLine, reads, reads]; rfl

theorem renameLine_eq_nil_iff (named : Text.isName new.toList = true) (line : List Char) :
    renameLine old new line = [] ↔ line = [] := by
  constructor
  · -- A line with a statement is renamed to one with a statement, which the empty line is not.
    intro none
    have renamed := read_renameLine old named line
    rw [none] at renamed
    cases reads : Line.read line with
    | statement content => rw [reads] at renamed; cases renamed
    | blank => rwa [renameLine, reads] at none
    | malformed => rwa [renameLine, reads] at none
  · rintro rfl
    rfl

theorem newline_not_mem_renameLine (named : Text.isName new.toList = true) (line : List Char)
    (oneLine : '\n' ∉ line) : '\n' ∉ renameLine old new line := by
  cases reads : Line.read line with
  | statement content =>
    obtain ⟨pieces, fit, rfl⟩ := Pieces.derives_iff.mp (read_eq_statement_iff.mp reads)
    rw [renameLine_text fit]
    exact Pieces.newline_not_mem_text_rename named oneLine
  | blank => rwa [renameLine, reads]
  | malformed => rwa [renameLine, reads]

end Grammar

theorem Listing.ofSource_renameLabel (source old : String) {new : String}
    (named : Text.isName new.toList = true) :
    ofSource (renameLabel source old new) = (ofSource source).map (Statement.rename old new) := by
  rw [ofSource, renameLabel, String.toList_ofList,
    Text.map_lines_mapLines (Grammar.newline_not_mem_renameLine named)
      (Grammar.renameLine_eq_nil_iff named) Line.read_dropReturn (Grammar.read_renameLine old named),
    ofLines_map, ofSource]

/-! ### Tables -/

theorem Text.lowercase_rename (old new name : String) :
    lowercase (rename old new name) = SymbolTable.renameKey old new (lowercase name) := by
  unfold rename SymbolTable.renameKey
  split <;> rfl

namespace SymbolTable

variable {old new : String}

/-- Keys that are not the new one are told apart as before. -/
theorem renameKey_inj {key other : String} (free : key ≠ Text.lowercase new)
    (other_free : other ≠ Text.lowercase new) :
    renameKey old new key = renameKey old new other ↔ key = other := by
  unfold renameKey
  split <;> split <;> grind

/-- The table has the key, or a place for it, where it had it before. -/
theorem insert_rename {key : String} (free : key ≠ Text.lowercase new) (address : Nat)
    {entries : List (String × Nat)} (unused : ∀ entry ∈ entries, entry.1 ≠ Text.lowercase new) :
    insert (renameKey old new key) address (entries.map (Prod.map (renameKey old new) id)) =
      (insert key address entries).map (Prod.map (renameKey old new) id) := by
  induction entries with
  | nil => rfl
  | cons entry rest ih =>
    obtain ⟨here, later⟩ := List.forall_mem_cons.mp unused
    simp only [List.map_cons, insert, Prod.map_fst, renameKey_inj here free, ih later]
    split <;> rfl

theorem lookup_rename {key : String} (free : key ≠ Text.lowercase new)
    {entries : List (String × Nat)} (unused : ∀ entry ∈ entries, entry.1 ≠ Text.lowercase new) :
    (entries.map (Prod.map (renameKey old new) id)).lookup (renameKey old new key) =
      entries.lookup key := by
  induction entries with
  | nil => rfl
  | cons entry rest ih =>
    obtain ⟨here, later⟩ := List.forall_mem_cons.mp unused
    simp only [List.map_cons, lookup_cons_eq_if, Prod.map_fst, Prod.map_snd, id,
      renameKey_inj free here, ih later]

variable {table : SymbolTable} {name : String}

theorem define_rename (unused : table.get? new = none)
    (free : Text.lowercase name ≠ Text.lowercase new) (address : Nat) :
    (table.rename old new).define (Text.rename old new name) address =
      (table.define name address).rename old new := by
  rw [define, rename, Text.lowercase_rename, insert_rename free address (get?_eq_none_iff.mp unused)]
  rfl

theorem get?_rename (old : String) (unused : table.get? new = none)
    (free : Text.lowercase name ≠ Text.lowercase new) :
    (table.rename old new).get? (Text.rename old new name) = table.get? name := by
  rw [get?, rename, Text.lowercase_rename, lookup_rename free (get?_eq_none_iff.mp unused), get?]

theorem initial_rename (console : ¬ IsConsoleName old) : initial.rename old new = initial := by
  rw [IsConsoleName, not_or] at console
  have kept : ∀ key, key ≠ Text.lowercase old → renameKey old new key = key := fun key other =>
    if_neg other
  simp only [rename, initial, List.map_cons, List.map_nil, Prod.map, id, kept _ (Ne.symm console.1),
    kept _ (Ne.symm console.2)]

end SymbolTable

namespace Listing

variable {old new : String}

/-- The label pass goes the same way over the renamed statements, as no label is the new name. -/
theorem defineLabels_rename (old : String) {statements : List (Nat × Statement)}
    (fresh : Text.lowercase new ∉ labelsOf statements) (address : Nat) {table : SymbolTable}
    (unused : table.get? new = none) :
    defineLabels (statements.map fun (line, statement) => (line, statement.rename old new)) address
        (table.rename old new) =
      (defineLabels statements address table).rename old new := by
  -- By induction on the statements. No definition on the way gives the new name to the table, so the
  -- next one finds it unused again.
  induction statements generalizing address table with
  | nil => rfl
  | cons entry rest ih =>
    rw [not_mem_labelsOf_iff, List.forall_mem_cons] at fresh
    obtain ⟨here, later⟩ := fresh
    rw [List.map_cons, defineLabels_cons, defineLabels_cons]
    rw [← not_mem_labelsOf_iff] at later
    cases written : entry.2.label with
    | none =>
      simp only [Statement.rename, written, Option.map_none]
      exact ih later (address + 1) unused
    | some name =>
      have free : Text.lowercase name ≠ Text.lowercase new := by
        simpa [Statement.defines, written] using here
      have still_unused : (table.define name address).get? new = none := by
        rw [SymbolTable.get?_define, if_neg free.symm, unused]
      simp only [Statement.rename, written, Option.map_some]
      rw [SymbolTable.define_rename unused free]
      exact ih later (address + 1) still_unused

end Listing

/-- Is the new name one that nothing in the source goes by yet? -/
structure Fresh (statements : List (Nat × Statement)) (new : String) : Prop where
  console : ¬ IsConsoleName new
  labels : Text.lowercase new ∉ labelsOf statements
  tokens : Text.lowercase new ∉ tokensOf statements

namespace Listing

variable {listing : Listing} {old new : String}

theorem symbols_rename (console : ¬ IsConsoleName old) (fresh : Fresh listing.statements new) :
    (listing.map (Statement.rename old new)).symbols = listing.symbols.rename old new := by
  have unused : SymbolTable.initial.get? new = none := by
    have named := fresh.console
    rw [IsConsoleName, not_or] at named
    rw [SymbolTable.get?_eq_none_iff]
    simpa [SymbolTable.initial, eq_comm] using named
  have renamed := defineLabels_rename old fresh.labels 1 unused
  rwa [SymbolTable.initial_rename console] at renamed

theorem get?_symbols_of_fresh (fresh : Fresh listing.statements new) :
    listing.symbols.get? new = none := by
  rw [get?_symbols_of_not_mem fresh.labels, if_neg fresh.console]

/-- An operand means under its new name what it meant before. One with the old name is a label, so
its name is not left over; any other keeps its name. -/
theorem ofToken_rename {source : String} (listed : Lists source listing.statements)
    (defined : Text.lowercase old ∈ labelsOf listing.statements)
    (named : Text.isName new.toList = true) (fresh : Fresh listing.statements new)
    {token : String} (member : Text.lowercase token ∈ tokensOf listing.statements) :
    Operand.ofToken (listing.symbols.rename old new) (Text.rename old new token) =
      Operand.ofToken listing.symbols token := by
  have free : Text.lowercase token ≠ Text.lowercase new := by
    intro same
    exact fresh.tokens (same ▸ member)
  have found := SymbolTable.get?_rename old (get?_symbols_of_fresh fresh) free
  by_cases same : Text.lowercase token = Text.lowercase old
  · -- The new name is no numeral either, so it is looked up as the old one was.
    obtain ⟨k, definition⟩ := exists_definedLast defined
    have address : listing.symbols.get? token = some (k + 1) := by
      rw [SymbolTable.get?, same]
      exact get?_symbols_of_definedLast definition
    have letters : Text.isNumeral token.toList = false :=
      Text.isNumeral_of_isName (listed.isName_of_mem (same ▸ defined))
    have renamed : Text.rename old new token = new := if_pos same
    rw [renamed] at found ⊢
    rw [Operand.ofToken, natural?_eq_none (Text.isNumeral_of_isName named), found, address,
      Operand.ofToken, natural?_eq_none letters, address]
  · have kept : Text.rename old new token = token := if_neg same
    rw [kept] at found ⊢
    rw [Operand.ofToken, found, Operand.ofToken]

theorem code_rename {source : String} (listed : Lists source listing.statements)
    (defined : Text.lowercase old ∈ labelsOf listing.statements) (console : ¬ IsConsoleName old)
    (named : Text.isName new.toList = true) (fresh : Fresh listing.statements new) :
    (listing.map (Statement.rename old new)).code = listing.code := by
  rw [code, symbols_rename console fresh, map, List.map_map, code]
  apply List.map_congr_left
  intro entry member
  rw [Function.comp_apply, Prod.mk.injEq, Instruction.ofStatement, Instruction.ofStatement,
    Instruction.mk.injEq, Statement.rename, Option.map_map]
  refine ⟨rfl, rfl, Option.map_congr fun token written => ?_⟩
  rw [Function.comp_apply, ofToken_rename listed defined named fresh (mem_tokensOf member written)]

end Listing

/-- Only the name of a label changes if it is renamed: the memory and the report are the same, and
so is the table, but for the key of that label. -/
theorem assemble_renameLabel {source old new : String}
    (defined : Text.lowercase old ∈ labelsOf (Listing.ofSource source).statements)
    (console : ¬ IsConsoleName old) (named : Text.isName new.toList = true)
    (fresh : Fresh (Listing.ofSource source).statements new) :
    (assemble (renameLabel source old new)).memory = (assemble source).memory ∧
      (assemble (renameLabel source old new)).report = (assemble source).report ∧
      (assemble (renameLabel source old new)).symbols.entries =
        (assemble source).symbols.entries.map fun (key, address) =>
          (if key = Text.lowercase old then Text.lowercase new else key, address) := by
  have listed := Listing.lists_ofSource source
  rw [assemble, assemble, Listing.ofSource_renameLabel source old named]
  generalize Listing.ofSource source = listing at defined fresh listed
  have code := Listing.code_rename listed defined console named fresh
  simp only [Listing.image_eq, code, Listing.symbols_rename console fresh]
  refine ⟨trivial, ?_, rfl⟩
  simp only [Listing.map, List.length_map]

/-- A label that is called like an operation, used before it is defined and defined twice. -/
theorem assemble_renameLabel_add :
    let source := "br Add\r\nADD, dec # add\nadd, add ADD\n?\nset other"
    let renamed := "br X1\r\nX1, dec # add\nX1, add X1\n?\nset other"
    renameLabel source "add" "X1" = renamed ∧
      (assemble source).symbols.entries = [("stdin", 0), ("stdout", 0), ("add", 3)] ∧
      (assemble renamed).symbols.entries = [("stdin", 0), ("stdout", 0), ("x1", 3)] ∧
      (assemble renamed).memory = (assemble source).memory ∧
      (assemble renamed).report = (assemble source).report := by
  intro source renamed
  have text : renameLabel source "add" "X1" = renamed := by decide +kernel
  have fresh : Fresh (Listing.ofSource source).statements "X1" :=
    ⟨by decide, by decide +kernel, by decide +kernel⟩
  have before : (assemble source).symbols.entries = [("stdin", 0), ("stdout", 0), ("add", 3)] := by
    decide +kernel
  obtain ⟨memory, report, symbols⟩ := @assemble_renameLabel source "add" "X1"
    (by decide +kernel) (by decide) (by decide) fresh
  rw [text] at memory report symbols
  rw [before] at symbols
  exact ⟨text, before, symbols.trans (by decide), memory, report⟩

end Accumulator
