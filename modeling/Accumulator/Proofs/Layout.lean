import Accumulator.Proofs.Disassembly
import Accumulator.Proofs.Lines
import Accumulator.Proofs.Linking

/-!
# Layout

Instructions are counted by statements and reports by lines. So a line that is no statement can be
put in anywhere: all that it does is to raise the numbers of the lines behind it, and to be reported
itself if it is malformed (`Image.Inserted`). And what stands around the body of a statement, blanks,
a line number and a comment, is not looked at any further once the line has been read
(`Grammar.Relaid`). Main statement: `assemble_layout`.
-/
namespace Accumulator

/-- The number of a line once a line has been put in behind so many lines. -/
def renumber (place number : Nat) : Nat := if number ≤ place then number else number + 1

/-- Is the later image the earlier one but for a line put in behind so many lines, of which these
numbers are reported as malformed? -/
structure Image.Inserted (before : Image) (place : Nat) (own : List Nat) (after : Image) : Prop where
  memory : after.memory = before.memory
  symbols : after.symbols = before.symbols
  loaded : after.report.loaded = before.report.loaded
  skipped : after.report.skipped =
    before.report.skipped.filter (· ≤ place) ++ own ++
      (before.report.skipped.filter (place < ·)).map (· + 1)
  unresolved : after.report.unresolved =
    before.report.unresolved.map fun (number, name) => (renumber place number, name)
  outOfRange : after.report.outOfRange =
    before.report.outOfRange.map fun (number, digits) => (renumber place number, digits)

namespace Grammar

/-- Do the lines differ in one piece around the body of a statement? -/
inductive Relaid : List Char → List Char → Prop where
  | indent {blanks line : List Char} (blank : blanks.all Text.isBlank = true) :
      Relaid line (blanks ++ line)
  | pad {blanks line : List Char} (blank : blanks.all Text.isBlank = true) :
      Relaid line (line ++ blanks)
  | remark {line : List Char} (text : List Char) : Relaid line (line ++ '#' :: text)
  | number {before number other body comment : List Char} {statement : Statement}
      (blank : before.all Text.isBlank = true) (numbered : Number number) (changed : Number other)
      (content : Body body statement) (commented : Comment comment) :
      Relaid (before ++ number ++ body ++ comment) (before ++ other ++ body ++ comment)

theorem Body.pad {body blanks : List Char} {statement : Statement} (content : Body body statement)
    (blank : blanks.all Text.isBlank = true) : Body (body ++ blanks) statement := by
  obtain ⟨labelled, spells, argued, ending⟩ := content
  rw [List.append_assoc]
  exact .body labelled spells argued (by simp [ending, blank])

theorem Derives.indent {line blanks : List Char} {statement : Statement}
    (derived : Derives line statement) (blank : blanks.all Text.isBlank = true) :
    Derives (blanks ++ line) statement := by
  obtain ⟨spaced, numbered, content, commented⟩ := derived
  simp only [← List.append_assoc]
  exact .line (by simp [blank, spaced]) numbered content commented

theorem Derives.pad {line blanks : List Char} {statement : Statement}
    (derived : Derives line statement) (blank : blanks.all Text.isBlank = true) :
    Derives (line ++ blanks) statement := by
  obtain ⟨spaced, numbered, content, commented⟩ := derived
  -- Without a comment, the blanks belong to the end of the body.
  cases commented with
  | absent =>
    have padded := Derives.line spaced numbered (content.pad blank) .absent
    simpa only [List.append_assoc, List.append_nil] using padded
  | present text =>
    -- Behind a comment, blanks are a part of it.
    rw [List.append_assoc]
    exact .line spaced numbered content (.present (text ++ blanks))

theorem Derives.remark {line : List Char} {statement : Statement}
    (derived : Derives line statement) (text : List Char) :
    Derives (line ++ '#' :: text) statement := by
  obtain ⟨spaced, numbered, content, commented⟩ := derived
  cases commented with
  | absent =>
    rw [List.append_nil]
    exact .line spaced numbered content (.present text)
  | present earlier =>
    rw [List.append_assoc]
    exact .line spaced numbered content (.present (earlier ++ '#' :: text))

/-- A line that is laid out in another way is one for the same statement. -/
theorem Derives.relaid {line other : List Char} {statement : Statement}
    (derived : Derives line statement) (relaid : Relaid line other) : Derives other statement := by
  cases relaid with
  | indent blank => exact derived.indent blank
  | pad blank => exact derived.pad blank
  | remark text => exact derived.remark text
  | number blank numbered changed content commented =>
    -- The body that is kept is one for the same statement, as a line has only one.
    rw [derived.unique (.line blank numbered content commented)]
    exact .line blank changed content commented

end Grammar

/-! ### Listings with a line more -/

namespace Listing

theorem number_mem_statements {lines : List Line} {start : Nat} {entry : Nat × Statement}
    (member : entry ∈ (ofLines lines start).statements) :
    start ≤ entry.1 ∧ entry.1 < start + lines.length := by
  obtain ⟨from_start, found⟩ := mem_statements_iff.mp member
  have inside := (List.getElem?_eq_some_iff.mp found).1
  omega

theorem number_mem_malformed {lines : List Line} {start number : Nat}
    (member : number ∈ (ofLines lines start).malformed) :
    start ≤ number ∧ number < start + lines.length := by
  obtain ⟨from_start, found⟩ := mem_malformed_iff.mp member
  have inside := (List.getElem?_eq_some_iff.mp found).1
  omega

/-- Numbers up to a place and numbers behind it can be told apart again. -/
theorem filter_split {before after : List Nat} {place : Nat} (low : ∀ number ∈ before, number ≤ place)
    (high : ∀ number ∈ after, place < number) :
    (before ++ after).filter (· ≤ place) = before ∧ (before ++ after).filter (place < ·) = after := by
  have not_high : ∀ number ∈ before, ¬ place < number := fun number member =>
    Nat.not_lt.mpr (low number member)
  have not_low : ∀ number ∈ after, ¬ number ≤ place := fun number member =>
    Nat.not_le.mpr (high number member)
  constructor
  · rw [List.filter_append, List.filter_eq_self.mpr (by simpa using low),
      List.filter_eq_nil_iff.mpr (by simpa using not_low), List.append_nil]
  · rw [List.filter_append, List.filter_eq_nil_iff.mpr (by simpa using not_high),
      List.filter_eq_self.mpr (by simpa using high), List.nil_append]

variable {front back : List Line} {line : Line}

theorem statements_insert (idle : line.statement? = none) :
    (ofLines (front ++ line :: back) 1).statements =
      (ofLines (front ++ back) 1).statements.map fun (number, statement) =>
        (renumber front.length number, statement) := by
  have own : (ofLines [line] (1 + front.length)).statements = [] := by simp [ofLines, idle]
  rw [ofLines_append_number, ofLines_append_number, ofLines_cons]
  simp only [append, raise, own, List.nil_append, List.map_append]
  congr 1
  · -- The lines in front keep their numbers.
    refine (List.map_congr_left fun entry member => ?_).trans (List.map_id _) |>.symm
    have before := number_mem_statements member
    rw [renumber, if_pos (by omega), id]
  · refine List.map_congr_left fun entry member => ?_
    have after := number_mem_statements member
    rw [renumber, if_neg (by omega)]

theorem malformed_insert :
    (ofLines (front ++ line :: back) 1).malformed =
      (ofLines (front ++ back) 1).malformed.filter (· ≤ front.length) ++
        (if line.isMalformed then [front.length + 1] else []) ++
        ((ofLines (front ++ back) 1).malformed.filter (front.length < ·)).map (· + 1) := by
  have own : (ofLines [line] (1 + front.length)).malformed =
      if line.isMalformed then [front.length + 1] else [] := by
    cases line <;> simp [ofLines, Line.isMalformed, Nat.add_comm]
  have low : ∀ number ∈ (ofLines front 1).malformed, number ≤ front.length := by
    intro number member
    have inside := number_mem_malformed member
    omega
  have high : ∀ number ∈ (ofLines back (1 + front.length)).malformed, front.length < number := by
    intro number member
    have inside := number_mem_malformed member
    omega
  obtain ⟨before, after⟩ := filter_split low high
  rw [ofLines_append_number, ofLines_append_number, ofLines_cons]
  simp only [append, raise, own, before, after, List.append_assoc]

/-- Other line numbers change neither the labels nor the instructions. -/
theorem code_of_renumbered {listing again : Listing} {address : Nat → Nat}
    (renumbered : again.statements = listing.statements.map fun (number, statement) =>
      (address number, statement)) :
    again.symbols = listing.symbols ∧
      again.code = listing.code.map fun (number, code) => (address number, code) := by
  have symbols : again.symbols = listing.symbols := by
    apply defineLabels_congr
    rw [renumbered, List.map_map]
    rfl
  refine ⟨symbols, ?_⟩
  rw [code, code, symbols, renumbered, List.map_map, List.map_map]
  rfl

theorem image_insert (idle : line.statement? = none) :
    (ofLines (front ++ back) 1).image.Inserted front.length
      (if line.isMalformed then [front.length + 1] else [])
      (ofLines (front ++ line :: back) 1).image := by
  obtain ⟨symbols, code⟩ := code_of_renumbered (statements_insert idle)
  obtain ⟨memory, loaded, unresolved, outOfRange⟩ := image_of_code code
  exact ⟨memory, symbols, loaded, malformed_insert, unresolved, outOfRange⟩

end Listing

/-! ### Sources -/

theorem ofSource_of_shows {lines : List (List Char)} {source : String}
    (shown : Text.Shows lines source.toList) :
    Listing.ofSource source = Listing.ofLines (lines.map Line.read) 1 := by
  rw [Listing.ofSource, shown.lines_eq]

/-- A line that is no statement raises the numbers of the lines behind it in what is reported, and is
reported itself if it says something. Nothing else comes of it. And whatever is changed around the
body of a statement, its blanks, its number and its comment, nothing comes of that. -/
theorem assemble_layout (front back : List (List Char)) (line : List Char) (source edited : String) :
    (Text.Shows (front ++ back) source.toList → Text.Shows (front ++ line :: back) edited.toList →
      (∀ statement, ¬ Grammar.Derives line statement) →
      (assemble source).Inserted front.length
        (if Grammar.Remark line then [] else [front.length + 1]) (assemble edited)) ∧
    ∀ other statement, Text.Shows (front ++ line :: back) source.toList →
      Text.Shows (front ++ other :: back) edited.toList →
      Grammar.Derives line statement → Grammar.Relaid line other →
      assemble edited = assemble source := by
  constructor
  · intro shown shown_edited odd
    have idle : (Line.read line).statement? = none := by
      rw [Option.eq_none_iff_forall_ne_some]
      intro statement read
      exact odd statement (Grammar.read_eq_statement_iff.mp (statement?_eq_some_iff.mp read))
    have own : (Line.read line).isMalformed = true ↔ ¬ Grammar.Remark line := by
      rw [isMalformed_iff, Grammar.read_eq_malformed_iff]
      exact and_iff_left odd
    have inserted := @Listing.image_insert (front.map Line.read) (back.map Line.read) _ idle
    simp only [own, List.length_map, ← List.map_append, ← List.map_cons, ite_not] at inserted
    rw [assemble, assemble, ofSource_of_shows shown, ofSource_of_shows shown_edited]
    exact inserted
  · intro other statement shown shown_edited derived relaid
    have before := Grammar.read_eq_statement_iff.mpr derived
    have after := Grammar.read_eq_statement_iff.mpr (derived.relaid relaid)
    rw [assemble, assemble, ofSource_of_shows shown, ofSource_of_shows shown_edited, List.map_append,
      List.map_append, List.map_cons, List.map_cons, before, after]

/-- A malformed line that is put in is reported and changes the numbers behind it, and a line number
does not show. -/
theorem assemble_layout_loop :
    let source := "loop, dec\nbr lop # loop?\n??\nbr Loop"
    let longer := "loop, dec\r\nlda, ld\r\nbr lop # loop?\r\n??\r\nbr Loop\r\n"
    let numbered := "loop, dec\n12.\tbr lop # loop?\n??\nbr Loop"
    (assemble source).Inserted 1 [2] (assemble longer) ∧ assemble numbered = assemble source ∧
      (assemble longer).report.skipped = [2, 4] ∧
      (assemble longer).report.unresolved = [(3, "lop")] := by
  intro source longer numbered
  let front := ["loop, dec".toList]
  let line := "br lop # loop?".toList
  let back := ["??".toList, "br Loop".toList]
  have shown : Text.Shows (front ++ line :: back) source.toList :=
    Text.shows_iff.mpr (by decide +kernel)
  have shown_longer : Text.Shows (front ++ "lda, ld".toList :: line :: back) longer.toList :=
    Text.shows_iff.mpr (by decide +kernel)
  have shown_numbered : Text.Shows (front ++ ("12.\t".toList ++ line) :: back) numbered.toList :=
    Text.shows_iff.mpr (by decide +kernel)
  have malformed : Line.read "lda, ld".toList = .malformed := by decide +kernel
  obtain ⟨inked, odd⟩ := Grammar.read_eq_malformed_iff.mp malformed
  have derived : Grammar.Derives line ⟨none, .br, some "lop"⟩ :=
    Grammar.read_eq_statement_iff.mp (by decide +kernel)
  have argument : Grammar.Argument " lop".toList (some "lop") :=
    @Grammar.Argument.present [' '] "lop".toList (by decide) (by decide) (.name (by decide))
  have content : Grammar.Body "br lop ".toList ⟨none, .br, some "lop"⟩ :=
    @Grammar.Body.body [] "br".toList " lop".toList [' '] none (some "lop") .br .absent (by decide)
      argument (by decide)
  have number : Grammar.Number "12.\t".toList :=
    @Grammar.Number.present "12".toList ['\t'] (by decide) (by decide +kernel) (by decide)
  have relaid : Grammar.Relaid line ("12.\t".toList ++ line) :=
    @Grammar.Relaid.number [] [] _ "br lop ".toList "# loop?".toList _ rfl .absent number content
      (.present _)
  obtain ⟨inserts, -⟩ := assemble_layout front (line :: back) "lda, ld".toList source longer
  have inserted := inserts shown shown_longer odd
  rw [if_neg inked] at inserted
  obtain ⟨-, changes⟩ := assemble_layout front back line source numbered
  have same := changes _ _ shown shown_numbered derived relaid
  have skipped := inserted.skipped
  have unresolved := inserted.unresolved
  exact ⟨inserted, same, skipped.trans (by decide +kernel), unresolved.trans (by decide +kernel)⟩

end Accumulator
