import Accumulator.Proofs.Assembly

/-!
# Lines in pieces

`Pieces` names every piece that a line of the grammar is put together from, blanks included. A line
comes apart into pieces in at most one way, because each piece is as long as it can be: what stands
behind it starts with a character that it cannot have (`span_append`). So `Pieces.ofLine`, which
cuts a line into such runs, finds the pieces again (`Pieces.ofLine_text`). Main statement:
`read_in_pieces`, the reader takes exactly the lines that come apart.
-/
namespace Accumulator

namespace Grammar

structure Pieces where
  /-- The blanks that the line starts with. -/
  before : List Char
  /-- The digits of the line number, and the blanks behind its period. -/
  number : Option (List Char × List Char)
  /-- The name of the label, and the blanks behind its comma. -/
  label : Option (List Char × List Char)
  mnemonic : List Char
  /-- The blanks in front of the operand, and its token. -/
  argument : Option (List Char × List Char)
  /-- The blanks behind the last field. -/
  after : List Char
  /-- What is said behind the sign of a comment. -/
  comment : Option (List Char)
  deriving DecidableEq, Repr

namespace Pieces

def numberText : Option (List Char × List Char) → List Char
  | some (digits, blanks) => digits ++ '.' :: blanks
  | none => []

def labelText : Option (List Char × List Char) → List Char
  | some (name, blanks) => name ++ ',' :: blanks
  | none => []

def argumentText : Option (List Char × List Char) → List Char
  | some (blanks, token) => blanks ++ token
  | none => []

def commentText : Option (List Char) → List Char
  | some said => '#' :: said
  | none => []

/-- What the fields behind the line number are read from. -/
def body (pieces : Pieces) : List Char :=
  labelText pieces.label ++ pieces.mnemonic ++ argumentText pieces.argument ++ pieces.after

/-- The line that the pieces make. -/
def text (pieces : Pieces) : List Char :=
  pieces.before ++ numberText pieces.number ++ pieces.body ++ commentText pieces.comment

/-- One or more decimal digits, and blanks. -/
def NumberFits (number : Option (List Char × List Char)) : Prop :=
  ∀ digits blanks, number = some (digits, blanks) →
    digits ≠ [] ∧ digits.all Text.isDigit = true ∧ blanks.all Text.isBlank = true

/-- A name, and one or more blanks. -/
def LabelFits (label : Option (List Char × List Char)) : Prop :=
  ∀ name blanks, label = some (name, blanks) →
    Text.isName name = true ∧ blanks ≠ [] ∧ blanks.all Text.isBlank = true

/-- One or more blanks, and a token. -/
def ArgumentFits (argument : Option (List Char × List Char)) : Prop :=
  ∀ blanks token, argument = some (blanks, token) →
    blanks ≠ [] ∧ blanks.all Text.isBlank = true ∧ Token token

/-- Are these the pieces of a line for this statement? -/
structure Fit (pieces : Pieces) (statement : Statement) : Prop where
  before : pieces.before.all Text.isBlank = true
  number : NumberFits pieces.number
  label : LabelFits pieces.label
  mnemonic : Spells pieces.mnemonic statement.opcode
  argument : ArgumentFits pieces.argument
  after : pieces.after.all Text.isBlank = true
  name : statement.label = pieces.label.map fun label => String.ofList label.1
  token : statement.token = pieces.argument.map fun argument => String.ofList argument.2

/-! ### Pieces and the grammar -/

theorem numberText_number {number : Option (List Char × List Char)}
    (fits : NumberFits number) : Number (numberText number) := by
  cases number with
  | none => exact .absent
  | some pair =>
    obtain ⟨nonempty, decimal, blank⟩ := fits pair.1 pair.2 rfl
    exact .present nonempty decimal blank

theorem labelText_label {label : Option (List Char × List Char)}
    (fits : LabelFits label) :
    Label (labelText label) (label.map fun label => String.ofList label.1) := by
  cases label with
  | none => exact .absent
  | some pair =>
    obtain ⟨named, nonempty, blank⟩ := fits pair.1 pair.2 rfl
    exact .present named nonempty blank

theorem argumentText_argument {argument : Option (List Char × List Char)}
    (fits : ArgumentFits argument) :
    Argument (argumentText argument) (argument.map fun argument => String.ofList argument.2) := by
  cases argument with
  | none => exact .absent
  | some pair =>
    obtain ⟨nonempty, blank, token⟩ := fits pair.1 pair.2 rfl
    exact .present nonempty blank token

theorem commentText_comment (comment : Option (List Char)) : Comment (commentText comment) := by
  cases comment with
  | none => exact .absent
  | some said => exact .present said

variable {pieces : Pieces} {statement : Statement}

theorem Fit.body (fit : pieces.Fit statement) : Body pieces.body statement := by
  obtain ⟨label, opcode, token⟩ := statement
  obtain rfl : label = _ := fit.name
  obtain rfl : token = _ := fit.token
  exact .body (labelText_label fit.label) fit.mnemonic (argumentText_argument fit.argument) fit.after

theorem Fit.derives (fit : pieces.Fit statement) : Derives pieces.text statement :=
  .line fit.before (numberText_number fit.number) fit.body (commentText_comment pieces.comment)

theorem exists_number_piece {chars : List Char} (numbered : Number chars) :
    ∃ number, numberText number = chars ∧ NumberFits number := by
  cases numbered with
  | absent => exact ⟨none, rfl, nofun⟩
  | @present digits blanks nonempty decimal blank =>
    refine ⟨some (digits, blanks), rfl, ?_⟩
    rintro _ _ ⟨⟩
    exact ⟨nonempty, decimal, blank⟩

theorem exists_label_piece {chars : List Char} {name : Option String} (labelled : Label chars name) :
    ∃ label, labelText label = chars ∧ name = label.map (fun label => String.ofList label.1) ∧
      LabelFits label := by
  cases labelled with
  | absent => exact ⟨none, rfl, rfl, nofun⟩
  | @present name blanks named nonempty blank =>
    refine ⟨some (name, blanks), rfl, rfl, ?_⟩
    rintro _ _ ⟨⟩
    exact ⟨named, nonempty, blank⟩

theorem exists_argument_piece {chars : List Char} {token : Option String}
    (argued : Argument chars token) :
    ∃ argument, argumentText argument = chars ∧
      token = argument.map (fun argument => String.ofList argument.2) ∧
      ArgumentFits argument := by
  cases argued with
  | absent => exact ⟨none, rfl, rfl, nofun⟩
  | @present blanks token nonempty blank written =>
    refine ⟨some (blanks, token), rfl, rfl, ?_⟩
    rintro _ _ ⟨⟩
    exact ⟨nonempty, blank, written⟩

theorem exists_comment_piece {chars : List Char} (commented : Comment chars) :
    ∃ comment, commentText comment = chars := by
  cases commented with
  | absent => exact ⟨none, rfl⟩
  | present said => exact ⟨some said, rfl⟩

/-- The lines of the grammar are those that pieces make. -/
theorem derives_iff {line : List Char} :
    Derives line statement ↔ ∃ pieces : Pieces, pieces.Fit statement ∧ pieces.text = line := by
  constructor
  · rintro ⟨before, numbered, ⟨labelled, spells, argued, after⟩, commented⟩
    obtain ⟨number, rfl, number_fits⟩ := exists_number_piece numbered
    obtain ⟨label, rfl, rfl, label_fits⟩ := exists_label_piece labelled
    obtain ⟨argument, rfl, rfl, argument_fits⟩ := exists_argument_piece argued
    obtain ⟨comment, rfl⟩ := exists_comment_piece commented
    exact ⟨⟨_, number, label, _, argument, _, comment⟩,
      ⟨before, number_fits, label_fits, spells, argument_fits, after, rfl, rfl⟩, rfl⟩
  · rintro ⟨pieces, fit, rfl⟩
    exact fit.derives

/-! ### Cutting a line -/

/-- A run ends where a character stands that it cannot have. -/
theorem span_append {p : Char → Bool} {run rest : List Char} (all : run.all p = true)
    (stop : rest.head?.all (fun c => !p c) = true) : (run ++ rest).span p = (run, rest) := by
  have inside : ∀ c ∈ run, p c = true := List.all_eq_true.mp all
  rw [List.span_eq_takeWhile_dropWhile, List.takeWhile_append_of_pos inside,
    List.dropWhile_append_of_pos inside]
  cases rest with
  | nil => simp
  | cons c rest =>
    have outside : p c = false := by simpa using stop
    simp [outside]

/-- Cuts off digits, the period behind them and blanks. -/
def cutNumber (code : List Char) : Option (List Char × List Char) × List Char :=
  match code.span Text.isDigit with
  | (digit :: digits, _ :: rest) =>
    let (blanks, rest) := rest.span Text.isBlank
    (some (digit :: digits, blanks), rest)
  | _ => (none, code)

/-- Cuts off a field that ends with a comma, and the blanks behind it. -/
def cutLabel (code : List Char) : Option (List Char × List Char) × List Char :=
  let (field, rest) := code.span fun c => !Text.isBlank c
  if field.getLast? = some ',' then
    let (blanks, rest) := rest.span Text.isBlank
    (some (field.dropLast, blanks), rest)
  else (none, code)

/-- Cuts off blanks and a field, if there is one. -/
def cutArgument (code : List Char) : Option (List Char × List Char) × List Char :=
  match code.span Text.isBlank with
  | (blanks, c :: rest) =>
    let (token, rest) := (c :: rest).span fun c => !Text.isBlank c
    (some (blanks, token), rest)
  | (_, []) => (none, code)

/-- The pieces of a line, if it is one of the grammar. -/
def ofLine (line : List Char) : Pieces :=
  let (code, comment) := line.span (· != '#')
  let (before, code) := code.span Text.isBlank
  let (number, code) := cutNumber code
  let (label, code) := cutLabel code
  let (mnemonic, code) := code.span fun c => !Text.isBlank c
  let (argument, after) := cutArgument code
  { before, number, label, mnemonic, argument, after, comment := comment.tail? }

/-- Blanks end where a field stands. -/
theorem span_blanks_append {blanks field : List Char} (blank : blanks.all Text.isBlank = true)
    (solid : Text.IsField field) (rest : List Char) :
    (blanks ++ (field ++ rest)).span Text.isBlank = (blanks, field ++ rest) := by
  obtain ⟨c, field, rfl⟩ := List.exists_cons_of_ne_nil solid.1
  exact span_append blank (by simp [solid.2 c List.mem_cons_self])

/-- A field ends where a blank stands, or nothing. -/
theorem span_field_append {field rest : List Char} (solid : Text.IsField field)
    (apart : rest.head?.all Text.isBlank = true) :
    (field ++ rest).span (fun c => !Text.isBlank c) = (field, rest) := by
  apply span_append
  · exact List.all_eq_true.mpr fun c member => by simp [solid.2 c member]
  · simpa using apart

theorem cutNumber_append {number : Option (List Char × List Char)} (fits : NumberFits number)
    {c : Char} (start : Text.isNameStart c = true) (rest : List Char) :
    cutNumber (numberText number ++ c :: rest) = (number, c :: rest) := by
  rcases number with _ | ⟨_ | ⟨digit, digits⟩, blanks⟩
  · have none : (c :: rest).span Text.isDigit = ([], c :: rest) :=
      @span_append Text.isDigit [] (c :: rest) rfl (by simp [Text.isDigit_of_isNameStart start])
    simp only [numberText, List.nil_append, cutNumber, none]
  · exact absurd rfl (fits _ _ rfl).1
  · obtain ⟨-, decimal, blank⟩ := fits _ _ rfl
    have inked : Text.isBlank c = false := Text.isBlank_of_isNamePart (by simp [Text.isNamePart, start])
    have period : Text.isDigit '.' = false := by decide +kernel
    have shape : numberText (some (digit :: digits, blanks)) ++ c :: rest =
        digit :: digits ++ '.' :: (blanks ++ c :: rest) := by simp [numberText]
    have taken : (digit :: digits ++ '.' :: (blanks ++ c :: rest)).span Text.isDigit =
        (digit :: digits, '.' :: (blanks ++ c :: rest)) := span_append decimal (by simp [period])
    have gap : (blanks ++ c :: rest).span Text.isBlank = (blanks, c :: rest) :=
      span_append blank (by simp [inked])
    rw [shape, cutNumber, taken]
    simp only [gap]

theorem cutLabel_append {label : Option (List Char × List Char)} (fits : LabelFits label)
    {mnemonic rest : List Char} {opcode : Opcode} (spells : Spells mnemonic opcode)
    (apart : rest.head?.all Text.isBlank = true) :
    cutLabel (labelText label ++ (mnemonic ++ rest)) = (label, mnemonic ++ rest) := by
  have solid := Text.isField_of_isName (isName_of_spells spells)
  rcases label with _ | ⟨name, blanks⟩
  · -- A mnemonic is a field of letters, so it does not end with a comma.
    have field := span_field_append solid apart
    have letters : mnemonic.getLast? ≠ some ',' := by
      intro last
      have free : ',' ∉ mnemonic := Text.not_mem_of_isName (isName_of_spells spells) (by decide)
      exact free (List.mem_of_getLast? last)
    simp only [labelText, List.nil_append, cutLabel, field, if_neg letters]
  · obtain ⟨named, nonempty, blank⟩ := fits name blanks rfl
    have shape : labelText (some (name, blanks)) ++ (mnemonic ++ rest) =
        (name ++ [',']) ++ (blanks ++ (mnemonic ++ rest)) := by simp [labelText]
    have field : ((name ++ [',']) ++ (blanks ++ (mnemonic ++ rest))).span (fun c => !Text.isBlank c) =
        (name ++ [','], blanks ++ (mnemonic ++ rest)) :=
      span_field_append (isField_append_comma named) (head?_blanks_append nonempty blank _)
    have gap := span_blanks_append blank solid rest
    simp only [shape, cutLabel, field, List.getLast?_concat, if_true, gap, List.dropLast_concat]

theorem cutArgument_append {argument : Option (List Char × List Char)} (fits : ArgumentFits argument)
    {after : List Char} (blank : after.all Text.isBlank = true) :
    cutArgument (argumentText argument ++ after) = (argument, after) := by
  rcases argument with _ | ⟨blanks, token⟩
  · have all : after.span Text.isBlank = (after, []) := by
      simpa using @span_append Text.isBlank after [] blank rfl
    simp only [argumentText, List.nil_append, cutArgument, all]
  · obtain ⟨nonempty, spaced, written⟩ := fits blanks token rfl
    have solid := isField_of_token written
    have gap := span_blanks_append spaced solid after
    have field := span_field_append solid (Text.head?_all_of_all blank)
    obtain ⟨c, token, rfl⟩ := List.exists_cons_of_ne_nil solid.1
    rw [argumentText, List.append_assoc, cutArgument, gap]
    simp only [List.cons_append] at field ⊢
    rw [field]

/-- The blanks in front of a line end where its number or its body starts. -/
theorem span_before_append {before : List Char} (blank : before.all Text.isBlank = true)
    {number : Option (List Char × List Char)} (fits : NumberFits number) {c : Char}
    (start : Text.isNameStart c = true) (rest : List Char) :
    (before ++ (numberText number ++ c :: rest)).span Text.isBlank =
      (before, numberText number ++ c :: rest) := by
  apply span_append blank
  rcases number with _ | ⟨_ | ⟨digit, digits⟩, blanks⟩
  · have inked : Text.isBlank c = false := Text.isBlank_of_isNamePart (by simp [Text.isNamePart, start])
    simp [numberText, inked]
  · exact absurd rfl (fits _ _ rfl).1
  · have decimal := List.all_eq_true.mp (fits _ _ rfl).2.1 digit List.mem_cons_self
    simp [numberText, Text.isBlank_of_isDigit decimal]

/-- Only a comment has the sign of a comment, so a line is cut at the first one. -/
theorem span_text (fit : pieces.Fit statement) :
    pieces.text.span (· != '#') =
      (pieces.before ++ (numberText pieces.number ++ pieces.body), commentText pieces.comment) := by
  have free : '#' ∉ pieces.before ++ (numberText pieces.number ++ pieces.body) := by
    simp [sharp_not_mem_blanks fit.before, sharp_not_mem_number (numberText_number fit.number),
      sharp_not_mem_body fit.body]
  have shape : pieces.text =
      pieces.before ++ (numberText pieces.number ++ pieces.body) ++ commentText pieces.comment := by
    rw [text, List.append_assoc pieces.before]
  rw [shape]
  apply span_append
  · apply List.all_eq_true.mpr
    intro c member
    rw [bne_iff_ne]
    rintro rfl
    exact free member
  · cases pieces.comment <;> simp [commentText]

/-- The pieces of a line are found by cutting it, so no other pieces make the same line. -/
theorem ofLine_text (fit : pieces.Fit statement) : ofLine pieces.text = pieces := by
  obtain ⟨c, rest, first, start⟩ := exists_cons_of_body fit.body
  have before := span_before_append fit.before fit.number start rest
  have number := cutNumber_append fit.number start rest
  have apart := head?_argument_append (argumentText_argument fit.argument) fit.after
  have label := cutLabel_append fit.label fit.mnemonic apart
  have mnemonic := span_field_append (Text.isField_of_isName (isName_of_spells fit.mnemonic)) apart
  have argument := cutArgument_append fit.argument fit.after
  have shape : pieces.body = labelText pieces.label ++
      (pieces.mnemonic ++ (argumentText pieces.argument ++ pieces.after)) := by
    simp only [Pieces.body, List.append_assoc]
  rw [← first] at before number
  rw [← shape] at label
  have comment : (commentText pieces.comment).tail? = pieces.comment := by
    cases pieces.comment <;> rfl
  simp only [ofLine, span_text fit, before, number, label, mnemonic, argument, comment]

theorem Fit.statement_unique {other : Statement} (fit : pieces.Fit statement)
    (again : pieces.Fit other) : statement = other :=
  fit.derives.unique again.derives

theorem Fit.unique {others : Pieces} {other : Statement} (fit : pieces.Fit statement)
    (again : others.Fit other) (same : pieces.text = others.text) : pieces = others := by
  rw [← ofLine_text fit, same, ofLine_text again]

end Pieces

end Grammar

theorem LineAt.unique {source : String} {number : Nat} {line other : List Char}
    (first : LineAt source number line) (second : LineAt source number other) : line = other :=
  Option.some.inj (first.2.symm.trans second.2)

open Grammar in
/-- The reader takes a line for a statement exactly if it comes apart into pieces for it, which it
does in one way at most. A line of a source that does not come apart is reported, unless it says
nothing. -/
theorem read_in_pieces (line : List Char) :
    (∀ statement, Line.read line = .statement statement ↔
      ∃ pieces : Pieces, pieces.Fit statement ∧ pieces.text = line) ∧
    (∀ (pieces others : Pieces) (statement other : Statement), pieces.Fit statement →
      others.Fit other → pieces.text = line → others.text = line →
      pieces = others ∧ statement = other) ∧
    ∀ source number, LineAt source number line →
      (∀ statement, (number, statement) ∈ (Listing.ofSource source).statements ↔
        ∃ pieces : Pieces, pieces.Fit statement ∧ pieces.text = line) ∧
      (number ∈ (assemble source).report.skipped ↔
        ¬ Remark line ∧ ∀ (pieces : Pieces) statement, pieces.Fit statement → pieces.text ≠ line) := by
  refine ⟨fun statement => ?_, ?_, fun source number placed => ⟨fun statement => ?_, ?_⟩⟩
  · rw [read_eq_statement_iff, Pieces.derives_iff]
  · rintro pieces others statement other fit again rfl same
    obtain rfl := fit.unique again same.symm
    exact ⟨rfl, fit.statement_unique again⟩
  · rw [(Listing.lists_ofSource source).mem_iff, ← Pieces.derives_iff]
    constructor
    · rintro ⟨_, found, derived⟩
      rwa [placed.unique found]
    · exact fun derived => ⟨line, placed, derived⟩
  · have skipped : (assemble source).report.skipped = (Listing.ofSource source).malformed := rfl
    have pieceless : (∀ statement, ¬ Derives line statement) ↔
        ∀ (pieces : Pieces) statement, pieces.Fit statement → pieces.text ≠ line := by
      simp only [Pieces.derives_iff, not_exists, not_and]
      exact forall_comm
    rw [skipped, (Listing.skips_ofSource source).mem_iff, ← pieceless]
    constructor
    · rintro ⟨_, found, odd⟩
      rwa [placed.unique found]
    · exact fun odd => ⟨line, placed, odd⟩

open Grammar in
/-- A line with all its pieces, and no other way to take it apart. -/
theorem read_in_pieces_commented :
    let line := "1. loop, BRZ  end # done".toList
    let statement : Statement := ⟨some "loop", .brz, some "end"⟩
    let pieces : Pieces :=
      { before := []
        number := some (['1'], [' '])
        label := some ("loop".toList, [' '])
        mnemonic := "BRZ".toList
        argument := some ([' ', ' '], "end".toList)
        after := [' ']
        comment := some " done".toList }
    pieces.Fit statement ∧ pieces.text = line ∧ Line.read line = .statement statement ∧
      ∀ (others : Pieces) other, others.Fit other → others.text = line →
        pieces = others ∧ statement = other := by
  intro line statement pieces
  have fit : pieces.Fit statement := by
    constructor
    case number => rintro _ _ ⟨⟩; decide +kernel
    case label => rintro _ _ ⟨⟩; decide
    case argument => rintro _ _ ⟨⟩; exact ⟨by decide, by decide, .name (by decide)⟩
    all_goals decide +kernel
  have text : pieces.text = line := by decide
  obtain ⟨reads, unique, -⟩ := read_in_pieces line
  exact ⟨fit, text, (reads statement).mpr ⟨pieces, fit, text⟩,
    fun others other again same => unique pieces others statement other fit again text same⟩

end Accumulator
