import Accumulator.Statement
import Accumulator.Proofs.Characters
import Accumulator.Proofs.Fields

/-!
# The grammar of lines

A line is, in this order: blanks, a line number, a label, a mnemonic, an argument, blanks and a
comment, where only the mnemonic has to be there. `Derives` puts a line together from such pieces;
`Line.read` takes a line apart into fields. Main statement: `read_eq_statement_iff`, the two agree,
so a line has at most one statement (`Derives.unique`).

The proof goes through the reader from the inside out: what it takes for a mnemonic with an
argument, for these behind a label, and for the code behind a line number.
-/
namespace Accumulator

namespace Text

theorem isNamePart_of_isName {s : List Char} (named : isName s = true) :
    ∀ c ∈ s, isNamePart c = true := by
  cases s with
  | nil => cases named
  | cons first rest =>
    simp only [isName, Bool.and_eq_true, List.all_eq_true] at named
    intro c member
    rcases List.mem_cons.mp member with rfl | later
    · simp [isNamePart, named.1]
    · exact named.2 c later

theorem not_mem_of_isName {s : List Char} {c : Char} (named : isName s = true)
    (other : isNamePart c = false) : c ∉ s := by
  intro member
  rw [isNamePart_of_isName named c member] at other
  cases other

theorem isField_of_isName {s : List Char} (named : isName s = true) : IsField s :=
  ⟨by rintro rfl; simp [isName] at named,
    fun c member => isBlank_of_isNamePart (isNamePart_of_isName named c member)⟩

end Text

namespace Grammar

/-- The mnemonic of an operation, in any ASCII case. -/
def Spells (chars : List Char) (opcode : Opcode) : Prop :=
  chars.map Char.toLower = opcode.mnemonic.toList

instance (chars : List Char) (opcode : Opcode) : Decidable (Spells chars opcode) :=
  inferInstanceAs (Decidable (_ = _))

/-- Decimal digits with a period behind them, and blanks. -/
inductive Number : List Char → Prop where
  | absent : Number []
  | present {digits blanks : List Char} (nonempty : digits ≠ [])
      (decimal : digits.all Text.isDigit = true) (blank : blanks.all Text.isBlank = true) :
      Number (digits ++ '.' :: blanks)

/-- A name with a comma behind it, and at least one blank. -/
inductive Label : List Char → Option String → Prop where
  | absent : Label [] none
  | present {name blanks : List Char} (named : Text.isName name = true) (nonempty : blanks ≠ [])
      (blank : blanks.all Text.isBlank = true) :
      Label (name ++ ',' :: blanks) (some (String.ofList name))

inductive Token : List Char → Prop where
  | digits {chars : List Char} (nonempty : chars ≠ []) (decimal : chars.all Text.isDigit = true) :
      Token chars
  | name {chars : List Char} (named : Text.isName chars = true) : Token chars

/-- At least one blank, and a token. -/
inductive Argument : List Char → Option String → Prop where
  | absent : Argument [] none
  | present {blanks chars : List Char} (nonempty : blanks ≠ [])
      (blank : blanks.all Text.isBlank = true) (token : Token chars) :
      Argument (blanks ++ chars) (some (String.ofList chars))

inductive Comment : List Char → Prop where
  | absent : Comment []
  | present (text : List Char) : Comment ('#' :: text)

/-- What the fields behind the line number are read from. -/
inductive Body : List Char → Statement → Prop where
  | body {label mnemonic argument after : List Char} {name token : Option String} {opcode : Opcode}
      (labelled : Label label name) (spells : Spells mnemonic opcode)
      (argued : Argument argument token) (blank : after.all Text.isBlank = true) :
      Body (label ++ mnemonic ++ argument ++ after) ⟨name, opcode, token⟩

/-- The line is one for this statement. -/
inductive Derives : List Char → Statement → Prop where
  | line {before number body comment : List Char} {statement : Statement}
      (blank : before.all Text.isBlank = true) (numbered : Number number)
      (content : Body body statement) (commented : Comment comment) :
      Derives (before ++ number ++ body ++ comment) statement

/-! ### Mnemonics and tokens -/

theorem ofMnemonic?_eq_some_iff {chars : List Char} {opcode : Opcode} :
    Opcode.ofMnemonic? (String.ofList chars) = some opcode ↔ Spells chars opcode := by
  have lowered : Text.lowercase opcode.mnemonic = opcode.mnemonic := by
    cases opcode <;> decide +kernel
  constructor
  · intro found
    have same := List.find?_some found
    rw [beq_iff_eq] at same
    rw [Spells, same, Text.toList_lowercase, String.toList_ofList]
  · intro spells
    have same : Text.lowercase (String.ofList chars) = opcode.mnemonic := by
      rw [Text.lowercase, String.toList_ofList, spells, String.ofList_toList]
    rw [← Opcode.ofMnemonic?_mnemonic opcode]
    simp only [Opcode.ofMnemonic?, same, lowered]

theorem isNameStart_of_spells {chars : List Char} {opcode : Opcode}
    (spells : Spells chars opcode) : ∀ c ∈ chars, Text.isNameStart c = true := by
  intro c member
  have lower : c.toLower.isAlpha = true := by
    have letters : opcode.mnemonic.toList.all Char.isAlpha = true := by
      cases opcode <;> decide +kernel
    apply List.all_eq_true.mp letters
    rw [← spells]
    exact List.mem_map_of_mem member
  rw [Char.isAlpha_toLower_eq_isAlpha] at lower
  simp [Text.isNameStart, lower]

/-- A mnemonic has the form of a name. -/
theorem isName_of_spells {chars : List Char} {opcode : Opcode} (spells : Spells chars opcode) :
    Text.isName chars = true := by
  have starts := isNameStart_of_spells spells
  cases chars with
  | nil => cases opcode <;> exact absurd spells (by decide +kernel)
  | cons first rest =>
    simp only [Text.isName, Bool.and_eq_true, List.all_eq_true]
    refine ⟨starts first List.mem_cons_self, fun c member => ?_⟩
    simp [Text.isNamePart, starts c (List.mem_cons_of_mem _ member)]

theorem isToken_iff {chars : List Char} : Statement.isToken chars = true ↔ Token chars := by
  constructor
  · intro written
    simp only [Statement.isToken, Bool.or_eq_true, Bool.and_eq_true, Bool.not_eq_true',
      List.isEmpty_eq_false_iff] at written
    rcases written with ⟨nonempty, decimal⟩ | named
    · exact .digits nonempty decimal
    · exact .name named
  · intro written
    cases written with
    | digits nonempty decimal => simp [Statement.isToken, nonempty, decimal]
    | name named => simp [Statement.isToken, named]

theorem isField_of_token {chars : List Char} (token : Token chars) : Text.IsField chars := by
  cases token with
  | digits nonempty decimal =>
    exact ⟨nonempty, fun c member => Text.isBlank_of_isDigit (List.all_eq_true.mp decimal c member)⟩
  | name named => exact Text.isField_of_isName named

theorem labelName?_eq_some_iff {field name : List Char} :
    Statement.labelName? field = some name ↔ field = name ++ [','] ∧ Text.isName name = true := by
  unfold Statement.labelName?
  constructor
  · intro found
    split at found
    next shape =>
      simp only [Bool.and_eq_true, decide_eq_true_eq] at shape
      obtain rfl := Option.some.inj found
      exact ⟨(List.dropLast_append_getLast? _ shape.1).symm, shape.2⟩
    · cases found
  · rintro ⟨rfl, named⟩
    simp [named]

/-- A mnemonic has no comma, so it is not taken for a label. -/
theorem labelName?_of_spells {mnemonic : List Char} {opcode : Opcode}
    (spells : Spells mnemonic opcode) : Statement.labelName? mnemonic = none := by
  rw [Option.eq_none_iff_forall_ne_some]
  intro name found
  obtain ⟨rfl, -⟩ := labelName?_eq_some_iff.mp found
  have comma := isNameStart_of_spells spells ',' (by simp)
  revert comma
  decide

theorem isField_append_comma {name : List Char} (named : Text.isName name = true) :
    Text.IsField (name ++ [',']) := by
  refine ⟨by simp, fun c member => ?_⟩
  rcases List.mem_append.mp member with inside | comma
  · exact (Text.isField_of_isName named).2 c inside
  · obtain rfl := List.mem_singleton.mp comma
    decide

/-! ### From the fields back to the text -/

/-- Behind a field something stands apart, so blanks come before the next field. -/
theorem blanks_ne_nil {blanks field rest : List Char} (solid : Text.IsField field)
    (apart : (blanks ++ field ++ rest).head?.all Text.isBlank = true) : blanks ≠ [] := by
  rintro rfl
  cases field with
  | nil => exact solid.1 rfl
  | cons c field =>
    have blank : Text.isBlank c = true := by simpa using apart
    simp [solid.2 c List.mem_cons_self] at blank

theorem head?_blanks_append {blanks : List Char} (nonempty : blanks ≠ [])
    (blank : blanks.all Text.isBlank = true) (rest : List Char) :
    (blanks ++ rest).head?.all Text.isBlank = true := by
  obtain ⟨c, gap, rfl⟩ := List.exists_cons_of_ne_nil nonempty
  simpa using Text.head?_all_of_all blank

theorem head?_argument_append {argument after : List Char} {token : Option String}
    (argued : Argument argument token) (ending : after.all Text.isBlank = true) :
    (argument ++ after).head?.all Text.isBlank = true := by
  cases argued with
  | absent => exact Text.head?_all_of_all ending
  | present nonempty spaced _ =>
    rw [List.append_assoc]
    exact head?_blanks_append nonempty spaced _

theorem fields_mnemonic_append {mnemonic argument after : List Char} {token : Option String}
    {opcode : Opcode} (spells : Spells mnemonic opcode) (argued : Argument argument token)
    (ending : after.all Text.isBlank = true) :
    Text.fields (mnemonic ++ (argument ++ after)) = mnemonic :: Text.fields (argument ++ after) :=
  Text.fields_field_append (Text.isField_of_isName (isName_of_spells spells))
    (head?_argument_append argued ending)

theorem command?_eq_some_iff {label : Option String} {text : List Char} {statement : Statement} :
    Statement.command? label (Text.fields text) = some statement ↔
      statement.label = label ∧ ∃ blanks mnemonic argument after,
        text = blanks ++ mnemonic ++ argument ++ after ∧ blanks.all Text.isBlank = true ∧
        Spells mnemonic statement.opcode ∧ Argument argument statement.token ∧
        after.all Text.isBlank = true := by
  constructor
  · -- One or two fields can be a command; both are followed back to where they stand in the text.
    intro found
    cases split : Text.fields text with
    | nil => simp [split, Statement.command?] at found
    | cons mnemonic others =>
      obtain ⟨blanks, rest, rfl, blank, -, apart, rfl⟩ := Text.fields_eq_cons_iff.mp split
      rw [split] at found
      cases behind : Text.fields rest with
      | nil =>
        simp only [behind, Statement.command?, Option.map_eq_some_iff] at found
        obtain ⟨opcode, named, rfl⟩ := found
        exact ⟨rfl, blanks, mnemonic, [], rest, by simp, blank, ofMnemonic?_eq_some_iff.mp named,
          .absent, Text.fields_eq_nil_iff.mp behind⟩
      | cons token others =>
        obtain ⟨gap, after, rfl, spaced, solid, -, last⟩ := Text.fields_eq_cons_iff.mp behind
        cases others with
        | cons _ _ =>
          rw [behind] at found
          simp [Statement.command?] at found
        | nil =>
          simp only [behind, Statement.command?, Option.ite_none_right_eq_some,
            Option.map_eq_some_iff] at found
          obtain ⟨written, opcode, named, rfl⟩ := found
          refine ⟨rfl, blanks, mnemonic, gap ++ token, after, by simp, blank,
            ofMnemonic?_eq_some_iff.mp named, ?_, Text.fields_eq_nil_iff.mp last⟩
          exact .present (blanks_ne_nil solid apart) spaced (isToken_iff.mp written)
  · rintro ⟨rfl, blanks, mnemonic, argument, after, rfl, blank, spells, argued, ending⟩
    obtain ⟨label, opcode, token⟩ := statement
    rw [List.append_assoc, List.append_assoc, Text.fields_blanks_append blank,
      fields_mnemonic_append spells argued ending]
    have operation := ofMnemonic?_eq_some_iff.mpr spells
    cases argued with
    | absent => simp [Text.fields_of_blanks ending, Statement.command?, operation]
    | present nonempty spaced written =>
      rw [List.append_assoc, Text.fields_blanks_append spaced,
        Text.fields_field_append (isField_of_token written) (Text.head?_all_of_all ending),
        Text.fields_of_blanks ending]
      simp [Statement.command?, isToken_iff.mpr written, operation]

theorem ofFields?_eq_some_iff {text : List Char} {statement : Statement} :
    Statement.ofFields? (Text.fields text) = some statement ↔
      ∃ blanks body, text = blanks ++ body ∧ blanks.all Text.isBlank = true ∧
        Body body statement := by
  constructor
  · intro found
    cases split : Text.fields text with
    | nil => simp [split, Statement.ofFields?] at found
    | cons first others =>
      rw [split, Statement.ofFields?] at found
      cases labelled : Statement.labelName? first with
      | none =>
        -- The reader goes on with all fields, so the text is a command as it stands.
        simp only [labelled, ← split] at found
        obtain ⟨unlabelled, blanks, mnemonic, argument, after, rfl, blank, spells, argued, ending⟩ :=
          command?_eq_some_iff.mp found
        refine ⟨blanks, mnemonic ++ argument ++ after, by simp, blank, ?_⟩
        obtain ⟨label, opcode, token⟩ := statement
        obtain rfl : label = none := unlabelled
        exact .body .absent spells argued ending
      | some name =>
        obtain ⟨rfl, named⟩ := labelName?_eq_some_iff.mp labelled
        obtain ⟨blanks, rest, rfl, blank, -, apart, rfl⟩ := Text.fields_eq_cons_iff.mp split
        simp only [labelled] at found
        obtain ⟨same, gap, mnemonic, argument, after, rfl, spaced, spells, argued, ending⟩ :=
          command?_eq_some_iff.mp found
        refine ⟨blanks, name ++ ',' :: gap ++ mnemonic ++ argument ++ after, by simp, blank, ?_⟩
        obtain ⟨label, opcode, token⟩ := statement
        obtain rfl : label = some (String.ofList name) := same
        have solid := Text.isField_of_isName (isName_of_spells spells)
        have nonempty : gap ≠ [] := by
          exact @blanks_ne_nil gap mnemonic (argument ++ after) solid (by simpa using apart)
        exact .body (.present named nonempty spaced) spells argued ending
  · rintro ⟨blanks, body, rfl, blank, content⟩
    rw [Text.fields_blanks_append blank]
    obtain ⟨labelled, spells, argued, ending⟩ := content
    rename_i label mnemonic argument after name token opcode
    have command (gap : List Char) (spaced : gap.all Text.isBlank = true) :
        Statement.command? name (Text.fields (gap ++ mnemonic ++ argument ++ after)) =
          some ⟨name, opcode, token⟩ :=
      command?_eq_some_iff.mpr
        ⟨rfl, gap, mnemonic, argument, after, rfl, spaced, spells, argued, ending⟩
    cases labelled with
    | absent =>
      have unlabelled := labelName?_of_spells spells
      have first := fields_mnemonic_append spells argued ending
      have read := command [] rfl
      simp only [List.nil_append, List.append_assoc] at read ⊢
      rw [first] at read ⊢
      simpa only [Statement.ofFields?, unlabelled] using read
    | @present name gap named nonempty spaced =>
      have apart := head?_blanks_append nonempty spaced (mnemonic ++ (argument ++ after))
      have first := Text.fields_field_append (isField_append_comma named) apart
      simp only [List.append_assoc, List.cons_append, List.nil_append] at first ⊢
      rw [first]
      have found := labelName?_eq_some_iff.mpr ⟨rfl, named⟩
      have read := command gap spaced
      simp only [List.append_assoc] at read
      simpa only [Statement.ofFields?, found] using read

/-! ### Line numbers and comments -/

theorem exists_cons_of_body {body : List Char} {statement : Statement}
    (content : Body body statement) :
    ∃ c rest, body = c :: rest ∧ Text.isNameStart c = true := by
  obtain ⟨labelled, spells, -, -⟩ := content
  cases labelled with
  | absent =>
    obtain ⟨c, rest, rfl⟩ := List.exists_cons_of_ne_nil (Text.isField_of_isName (isName_of_spells spells)).1
    exact ⟨c, _, rfl, isNameStart_of_spells spells c List.mem_cons_self⟩
  | @present name gap named _ _ =>
    obtain ⟨c, rest, rfl⟩ := List.exists_cons_of_ne_nil (Text.isField_of_isName named).1
    simp only [Text.isName, Bool.and_eq_true] at named
    exact ⟨c, _, rfl, named.1⟩

theorem dropNumber_number {before digits : List Char} (blank : before.all Text.isBlank = true)
    (nonempty : digits ≠ []) (decimal : digits.all Text.isDigit = true) (rest : List Char) :
    Statement.dropNumber (before ++ digits ++ '.' :: rest) = rest := by
  obtain ⟨d, digits, rfl⟩ := List.exists_cons_of_ne_nil nonempty
  have inked : Text.isBlank d = false :=
    Text.isBlank_of_isDigit (List.all_eq_true.mp decimal d List.mem_cons_self)
  have start : (before ++ d :: digits ++ '.' :: rest).dropWhile Text.isBlank =
      d :: digits ++ '.' :: rest := by
    rw [List.append_assoc, List.dropWhile_append_of_pos (List.all_eq_true.mp blank)]
    simp [inked]
  have period : Text.isDigit '.' = false := by decide +kernel
  -- The digits end at the period, which is none of them itself.
  unfold Statement.dropNumber
  simp only [start, List.takeWhile_append_of_pos (List.all_eq_true.mp decimal),
    List.dropWhile_append_of_pos (List.all_eq_true.mp decimal)]
  simp [period]

theorem dropNumber_body {before body : List Char} {statement : Statement}
    (blank : before.all Text.isBlank = true) (content : Body body statement) :
    Statement.dropNumber (before ++ body) = before ++ body := by
  obtain ⟨c, rest, rfl, start⟩ := exists_cons_of_body content
  have inked : Text.isBlank c = false := Text.isBlank_of_isNamePart (by simp [Text.isNamePart, start])
  unfold Statement.dropNumber
  rw [List.dropWhile_append_of_pos (List.all_eq_true.mp blank)]
  simp [inked, Text.isDigit_of_isNameStart start]

/-- What is left of a line without its number tells what the number was. -/
theorem exists_number {code blanks body : List Char} (left : Statement.dropNumber code = blanks ++ body)
    (blank : blanks.all Text.isBlank = true) :
    ∃ before number, code = before ++ number ++ body ∧ before.all Text.isBlank = true ∧
      Number number := by
  simp only [Statement.dropNumber] at left
  split at left
  next d digits rest taken dropped =>
    have start : code.dropWhile Text.isBlank = (d :: digits) ++ '.' :: rest := by
      rw [← taken, ← dropped, List.takeWhile_append_dropWhile]
    have decimal : (d :: digits).all Text.isDigit = true := taken ▸ List.all_takeWhile
    subst left
    refine ⟨code.takeWhile Text.isBlank, (d :: digits) ++ '.' :: blanks, ?_, List.all_takeWhile,
      .present (by simp) decimal blank⟩
    rw [List.append_assoc]
    have whole := (List.takeWhile_append_dropWhile (p := Text.isBlank) (l := code)).symm
    rw [start] at whole
    simpa using whole
  · -- Without a number the reader keeps the code whole.
    subst left
    exact ⟨blanks, [], by simp, blank, .absent⟩

theorem not_mem_of_all {p : Char → Bool} {s : List Char} {c : Char} (all : s.all p = true)
    (other : p c = false) : c ∉ s := by
  intro member
  simp [List.all_eq_true.mp all c member] at other

theorem sharp_not_mem_blanks {s : List Char} (blank : s.all Text.isBlank = true) : '#' ∉ s :=
  not_mem_of_all blank (by decide)

theorem sharp_not_mem_digits {s : List Char} (decimal : s.all Text.isDigit = true) : '#' ∉ s :=
  not_mem_of_all decimal (by decide +kernel)

theorem sharp_not_mem_name {s : List Char} (named : Text.isName s = true) : '#' ∉ s :=
  Text.not_mem_of_isName named (by decide)

theorem sharp_not_mem_token {s : List Char} (token : Token s) : '#' ∉ s := by
  cases token with
  | digits _ decimal => exact sharp_not_mem_digits decimal
  | name named => exact sharp_not_mem_name named

theorem sharp_not_mem_number {number : List Char} (numbered : Number number) : '#' ∉ number := by
  cases numbered with
  | absent => simp
  | present nonempty decimal blank =>
    simp [sharp_not_mem_digits decimal, sharp_not_mem_blanks blank]

theorem sharp_not_mem_body {body : List Char} {statement : Statement}
    (content : Body body statement) : '#' ∉ body := by
  obtain ⟨labelled, spells, argued, ending⟩ := content
  have mnemonic := sharp_not_mem_name (isName_of_spells spells)
  have after := sharp_not_mem_blanks ending
  simp only [List.mem_append, not_or]
  refine ⟨⟨⟨?_, mnemonic⟩, ?_⟩, after⟩
  · cases labelled with
    | absent => simp
    | present named _ blank =>
      simp [sharp_not_mem_name named, sharp_not_mem_blanks blank]
  · cases argued with
    | absent => simp
    | present _ blank token =>
      simp [sharp_not_mem_blanks blank, sharp_not_mem_token token]

theorem code_append {text comment : List Char} (free : '#' ∉ text) (commented : Comment comment) :
    Line.code (text ++ comment) = text := by
  have kept : ∀ c ∈ text, (c != '#') = true := by
    intro c member
    simp only [bne_iff_ne, ne_eq]
    rintro rfl
    exact free member
  rw [Line.code, List.takeWhile_append_of_pos kept]
  cases commented with
  | absent => simp
  | present text => simp

theorem exists_comment (line : List Char) :
    ∃ comment, line = Line.code line ++ comment ∧ Comment comment := by
  refine ⟨line.dropWhile (· != '#'), List.takeWhile_append_dropWhile.symm, ?_⟩
  have stopped := List.head?_dropWhile_not (· != '#') line
  cases rest : line.dropWhile (· != '#') with
  | nil => exact .absent
  | cons c text =>
    obtain rfl : c = '#' := by simpa [rest] using stopped
    exact .present text

/-! ### The reader and the grammar -/

/-- Nothing but a comment, or not even that. -/
inductive Remark : List Char → Prop where
  | remark {blanks comment : List Char} (blank : blanks.all Text.isBlank = true)
      (commented : Comment comment) : Remark (blanks ++ comment)

theorem all_isBlank_code_iff {line : List Char} :
    (Line.code line).all Text.isBlank = true ↔ Remark line := by
  constructor
  · intro blank
    obtain ⟨comment, shape, commented⟩ := exists_comment line
    rw [shape]
    exact .remark blank commented
  · rintro ⟨blank, commented⟩
    rwa [code_append (sharp_not_mem_blanks blank) commented]

instance (line : List Char) : Decidable (Remark line) := decidable_of_iff _ all_isBlank_code_iff

theorem code_of_derives {before number body comment : List Char} {statement : Statement}
    (blank : before.all Text.isBlank = true) (numbered : Number number)
    (content : Body body statement) (commented : Comment comment) :
    Line.code (before ++ number ++ body ++ comment) = before ++ number ++ body := by
  apply code_append _ commented
  simp [sharp_not_mem_blanks blank, sharp_not_mem_number numbered, sharp_not_mem_body content]

/-- A line of the grammar says more than a comment does. -/
theorem not_remark_of_derives {line : List Char} {statement : Statement}
    (derived : Derives line statement) : ¬ Remark line := by
  rw [← all_isBlank_code_iff]
  intro blank
  obtain ⟨before, numbered, content, commented⟩ := derived
  rw [code_of_derives before numbered content commented] at blank
  obtain ⟨c, rest, rfl, start⟩ := exists_cons_of_body content
  have inked : Text.isBlank c = false := Text.isBlank_of_isNamePart (by simp [Text.isNamePart, start])
  simp [inked] at blank

theorem read_eq_statement_iff {line : List Char} {statement : Statement} :
    Line.read line = .statement statement ↔ Derives line statement := by
  constructor
  · intro read
    unfold Line.read at read
    split at read
    · cases read
    · split at read
      next found =>
        -- From the fields to the body, from there to the code, and from there to the line.
        obtain rfl := Line.statement.inj read
        obtain ⟨blanks, body, left, blank, content⟩ := ofFields?_eq_some_iff.mp found
        obtain ⟨before, number, shape, spaced, numbered⟩ := exists_number left blank
        obtain ⟨comment, whole, commented⟩ := exists_comment line
        rw [whole, shape]
        exact .line spaced numbered content commented
      · cases read
  · -- The same way back; the code of a line that is derived cannot be blank.
    intro derived
    have inked : ¬ (Line.code line).all Text.isBlank = true :=
      fun blank => not_remark_of_derives derived (all_isBlank_code_iff.mp blank)
    rw [Line.read, if_neg inked]
    obtain ⟨blank, numbered, content, commented⟩ := derived
    rw [code_of_derives blank numbered content commented]
    rename_i before number body comment
    have found : Statement.ofFields? (Text.fields (Statement.dropNumber (before ++ number ++ body))) =
        some statement := by
      apply ofFields?_eq_some_iff.mpr
      cases numbered with
      | absent => exact ⟨before, body, by rw [List.append_nil, dropNumber_body blank content], blank, content⟩
      | @present digits blanks nonempty decimal spaced =>
        refine ⟨blanks, body, ?_, spaced, content⟩
        have dropped := dropNumber_number blank nonempty decimal (blanks ++ body)
        simpa using dropped
    rw [found]

theorem read_eq_blank_iff {line : List Char} : Line.read line = .blank ↔ Remark line := by
  rw [← all_isBlank_code_iff, Line.read]
  split
  next blank => simp [blank]
  next inked => split <;> simp [inked]

theorem read_eq_malformed_iff {line : List Char} :
    Line.read line = .malformed ↔ ¬ Remark line ∧ ∀ statement, ¬ Derives line statement := by
  simp only [← read_eq_blank_iff, ← read_eq_statement_iff]
  cases Line.read line <;> simp

/-- A line is one for at most one statement. -/
theorem Derives.unique {line : List Char} {left right : Statement} (first : Derives line left)
    (second : Derives line right) : left = right := by
  have read := read_eq_statement_iff.mpr first
  rw [read_eq_statement_iff.mpr second] at read
  exact (Line.statement.inj read).symm

end Grammar

end Accumulator
