import Accumulator.Proofs.Assembly
import Accumulator.Proofs.Lines

/-!
# Disassembly

The instructions of a program, written one on a line, are a source for the same program. Main
statement: `assemble_disassembly`.

The labels of the first source are gone from the second: an operand that named one is an address by
now. So every operand of an assembled program is `Settled`: written out, it is a token that stands
for the same operand under no labels but the two of the console. For an address this needs that it
is small enough to be read back, which is where the length of the source comes in.
-/
namespace Accumulator

/-- The words at the addresses from 1 to `count`, each on a line of its own. -/
def Memory.disassembly (memory : Memory) (count : Nat) : String :=
  String.join ((List.range' 1 count).map fun address => (memory.get address).render ++ "\n")

/-- The address of the statement on a line. -/
def Listing.addressOf (listing : Listing) (line : Nat) : Nat :=
  (listing.statements.map Prod.fst).idxOf line + 1

/-- An operand that is read back from what is written for it. -/
def Operand.Settled : Operand → Prop
  | .literal address => address < addressLimit
  | .label name =>
    Grammar.Token name.toList ∧ Text.isNumeral name.toList = false ∧
      SymbolTable.initial.get? name = none
  | .outOfRange digits =>
    Text.isNumeral digits.toList = true ∧ addressLimit ≤ Nat.ofDigitChars 10 digits.toList 0

/-- The statement that an instruction is written as. -/
def Instruction.statement (code : Instruction) : Statement :=
  ⟨none, code.opcode, code.operand.map Operand.render⟩

/-! ### Written instructions -/

namespace Grammar

theorem token_of_isNumeral {s : List Char} (numeral : Text.isNumeral s = true) : Token s := by
  simp only [Text.isNumeral, Bool.and_eq_true, Bool.not_eq_true', List.isEmpty_eq_false_iff] at numeral
  apply Token.digits numeral.1
  exact List.all_eq_true.mpr fun c member =>
    Text.isDigit_of_char_isDigit (List.all_eq_true.mp numeral.2 c member)

theorem token_of_derives {line : List Char} {statement : Statement} {token : String}
    (derived : Derives line statement) (written : statement.token = some token) :
    Token token.toList := by
  obtain ⟨-, -, content, -⟩ := derived
  obtain ⟨-, -, argued, -⟩ := content
  cases argued with
  | absent => cases written
  | present _ _ spelled =>
    obtain rfl := Option.some.inj written
    simpa using spelled

end Grammar

theorem isNumeral_toString (n : Nat) : Text.isNumeral (toString n).toList = true := by
  have digits := Text.natural?_toDigits n
  rw [Text.natural?, Option.ite_none_right_eq_some] at digits
  simpa [Nat.toString_eq_repr] using digits.1

namespace Operand

theorem token_render {operand : Operand} (settled : operand.Settled) :
    Grammar.Token operand.render.toList := by
  cases operand with
  | literal address => exact Grammar.token_of_isNumeral (isNumeral_toString address)
  | label name => exact settled.1
  | outOfRange digits => exact Grammar.token_of_isNumeral settled.1

theorem ofToken_render {operand : Operand} (settled : operand.Settled) :
    ofToken .initial operand.render = operand := by
  cases operand with
  | literal address =>
    have small : address < addressLimit := settled
    have value : Text.natural? (toString address).toList = some address := by
      simpa [Nat.toString_eq_repr] using Text.natural?_toDigits address
    simp only [render, ofToken, value, small, if_true]
  | label name =>
    obtain ⟨-, name, missing⟩ := settled
    simp only [render, ofToken, natural?_eq_none name, missing]
  | outOfRange digits =>
    obtain ⟨numeral, large⟩ := settled
    simp only [render, ofToken, natural?_eq_of_isNumeral numeral, Nat.not_lt.mpr large, if_false]

end Operand

namespace Instruction

/-- An instruction with an operand that is read back. -/
def Settled (code : Instruction) : Prop := ∀ operand, code.operand = some operand → operand.Settled

theorem ofStatement_statement {code : Instruction} (settled : code.Settled) :
    ofStatement .initial code.statement = code := by
  obtain ⟨opcode, operand⟩ := code
  cases operand with
  | none => rfl
  | some operand =>
    have same := Operand.ofToken_render (settled operand rfl)
    simp only [ofStatement, statement, Option.map_some, same]

theorem argument_render {code : Instruction} (settled : code.Settled) :
    ∃ argument, code.render.toList = code.opcode.mnemonic.toList ++ argument ∧
      Grammar.Argument argument (code.operand.map Operand.render) := by
  obtain ⟨opcode, operand⟩ := code
  cases operand with
  | none => exact ⟨[], by simp [render], .absent⟩
  | some operand =>
    have token := Operand.token_render (settled operand rfl)
    have argued : Grammar.Argument ([' '] ++ operand.render.toList) _ :=
      .present (by simp) (by decide) token
    rw [String.ofList_toList] at argued
    exact ⟨[' '] ++ operand.render.toList, by simp [render], argued⟩

/-- What is written for an instruction is a line of the grammar. -/
theorem derives_render {code : Instruction} (settled : code.Settled) :
    Grammar.Derives code.render.toList code.statement := by
  obtain ⟨argument, written, argued⟩ := argument_render settled
  have spells : Grammar.Spells code.opcode.mnemonic.toList code.opcode := by
    cases code.opcode <;> decide +kernel
  have line : Grammar.Derives ([] ++ [] ++ ([] ++ code.opcode.mnemonic.toList ++ argument ++ []) ++ [])
      code.statement :=
    .line rfl .absent (.body .absent spells argued rfl) .absent
  rw [written]
  simpa using line

/-- The only blank in a written instruction is the space in front of its operand. -/
theorem not_mem_render {code : Instruction} (settled : code.Settled) {c : Char}
    (blank : Text.isBlank c = true) (other : c ≠ ' ') : c ∉ code.render.toList := by
  have absent {s : List Char} (solid : Text.IsField s) : c ∉ s := by
    intro member
    rw [solid.2 c member] at blank
    cases blank
  obtain ⟨opcode, operand⟩ := code
  have mnemonic : c ∉ opcode.mnemonic.toList := by
    apply absent
    apply Text.isField_of_isName
    cases opcode <;> decide +kernel
  cases operand with
  | none => simpa [render] using mnemonic
  | some operand =>
    have token := absent (Grammar.isField_of_token (Operand.token_render (settled operand rfl)))
    simpa [render, other] using ⟨mnemonic, token⟩

theorem read_render {code : Instruction} (settled : code.Settled) :
    Line.read code.render.toList = .statement code.statement :=
  Grammar.read_eq_statement_iff.mpr (derives_render settled)

end Instruction

namespace Listing

/-! ### Operands of an assembled program -/

/-- A label is looked up in the table of before or names one of the statements. -/
theorem get?_defineLabels_cases (statements : List (Nat × Statement)) (address : Nat)
    (table : SymbolTable) (name : String) :
    (defineLabels statements address table).get? name = table.get? name ∨
      ∃ k < statements.length,
        (defineLabels statements address table).get? name = some (address + k) := by
  induction statements generalizing address table with
  | nil => exact .inl rfl
  | cons entry rest ih =>
    rw [defineLabels_cons]
    rcases ih (address + 1) _ with kept | ⟨k, inside, found⟩
    · rw [kept, get?_of_statement]
      split
      · exact .inr ⟨0, Nat.succ_pos _, rfl⟩
      · exact .inl rfl
    · exact .inr ⟨k + 1, Nat.succ_lt_succ inside, by rw [found]; congr 1; omega⟩

theorem get?_symbols_le {listing : Listing} {name : String} {address : Nat}
    (found : listing.symbols.get? name = some address) : address ≤ listing.statements.length := by
  rcases get?_defineLabels_cases listing.statements 1 .initial name with kept | ⟨k, inside, named⟩
  · -- Of the table of before only the console is left, at address 0.
    have console : SymbolTable.initial.get? name = some address := kept ▸ found
    simp only [SymbolTable.get?, SymbolTable.initial, SymbolTable.lookup_cons_eq_if,
      List.lookup_nil] at console
    have zero : address = 0 := by
      split at console
      · exact (Option.some.inj console).symm
      · split at console
        · exact (Option.some.inj console).symm
        · cases console
    omega
  · rw [symbols, named] at found
    have := Option.some.inj found
    omega

/-- No program takes the names of the console away. -/
theorem get?_initial_of_symbols {listing : Listing} {name : String}
    (missing : listing.symbols.get? name = none) : SymbolTable.initial.get? name = none := by
  rcases get?_defineLabels_cases listing.statements 1 .initial name with kept | ⟨k, _, named⟩
  · exact kept ▸ missing
  · rw [symbols, named] at missing
    cases missing

theorem length_statements_le (source : String) :
    (ofSource source).statements.length ≤ source.length := by
  calc (ofSource source).statements.length
      ≤ (((Text.lines source.toList).map Line.read).zipIdx 1).length := List.length_filterMap_le _ _
    _ = (Text.lines source.toList).length := by simp
    _ ≤ source.toList.length := Text.length_lines_le _
    _ = source.length := String.length_toList

theorem settled_of_denotes {symbols : SymbolTable} {token : String} {operand : Operand}
    (spelled : Grammar.Token token.toList)
    (small : ∀ address, symbols.get? token = some address → address < addressLimit)
    (console : symbols.get? token = none → SymbolTable.initial.get? token = none)
    (denotes : Denotes symbols (some token) (some operand)) : operand.Settled := by
  cases denotes with
  | address _ fits => exact fits
  | outOfRange numeral large => exact ⟨numeral, large⟩
  | defined _ found => exact small _ found
  | undefined name missing => exact ⟨spelled, name, console missing⟩

theorem settled_code {source : String} (short : source.length < addressLimit) :
    ∀ entry ∈ (ofSource source).code, entry.2.Settled := by
  intro entry member
  obtain ⟨⟨number, statement⟩, listed, rfl⟩ := List.mem_map.mp member
  obtain ⟨line, -, derived⟩ := ((lists_ofSource source).mem_iff number statement).mp listed
  intro operand written
  obtain ⟨token, tokenWritten, rfl⟩ := Option.map_eq_some_iff.mp written
  refine settled_of_denotes (Grammar.token_of_derives derived tokenWritten) ?_
    get?_initial_of_symbols (denotes_ofToken _ (some token))
  -- A label stands for an address of the program, which is no longer than its source.
  intro address found
  have bound := get?_symbols_le found
  have length := length_statements_le source
  omega

/-! ### Assembling what was written -/

theorem defineLabels_of_unlabelled {statements : List (Nat × Statement)}
    (unlabelled : ∀ entry ∈ statements, entry.2.label = none) (address : Nat)
    (table : SymbolTable) : defineLabels statements address table = table := by
  induction statements generalizing address with
  | nil => rfl
  | cons entry rest ih =>
    rw [defineLabels_cons, unlabelled entry List.mem_cons_self]
    exact ih (fun later member => unlabelled later (List.mem_cons_of_mem _ member)) _

theorem ofLines_statements (instructions : List Instruction) :
    ofLines (instructions.map fun code => .statement code.statement) 1 =
      ⟨(instructions.zipIdx 1).map fun (code, number) => (number, code.statement), []⟩ := by
  rw [ofLines, List.zipIdx_map, List.filterMap_map, List.filterMap_map, Listing.mk.injEq]
  constructor
  · rw [← List.filterMap_eq_map]
    rfl
  · rw [List.filterMap_eq_nil_iff]
    rintro ⟨code, number⟩ -
    rfl

theorem toList_disassembly (code : Code) :
    (code.memory.disassembly code.length).toList =
      (code.map fun entry => entry.2.render.toList).flatMap fun text => text ++ ['\n'] := by
  have cells : (List.range' 1 code.length).map code.memory.get =
      code.map fun entry => .instruction entry.2 := by
    apply List.ext_getElem (by simp)
    intro k inside _
    have position : k < code.length := by simpa using inside
    rw [List.getElem_map, List.getElem_map, List.getElem_range', Nat.one_mul, Nat.add_comm,
      Code.get_memory_succ, List.getElem?_eq_getElem position]
    rfl
  calc (code.memory.disassembly code.length).toList
      = ((List.range' 1 code.length).map code.memory.get).flatMap fun word =>
          word.render.toList ++ ['\n'] := by
        simp [Memory.disassembly, List.flatMap_map]
    _ = (code.map fun entry => entry.2.render.toList).flatMap fun text => text ++ ['\n'] := by
        rw [cells, List.flatMap_map, List.flatMap_map]
        rfl

theorem ofSource_disassembly {code : Code} (settled : ∀ entry ∈ code, entry.2.Settled) :
    ofSource (code.memory.disassembly code.length) =
      ⟨((code.map Prod.snd).zipIdx 1).map fun (code, number) => (number, code.statement), []⟩ := by
  -- Neither line feed nor carriage return is in a written instruction, so the lines are kept apart.
  have single : ∀ text ∈ code.map fun entry => entry.2.render.toList, '\n' ∉ text ∧ '\r' ∉ text := by
    intro text member
    obtain ⟨entry, present, rfl⟩ := List.mem_map.mp member
    exact ⟨Instruction.not_mem_render (settled entry present) (by decide) (by decide),
      Instruction.not_mem_render (settled entry present) (by decide) (by decide)⟩
  have read : (code.map fun entry => entry.2.render.toList).map Line.read =
      (code.map Prod.snd).map fun code => .statement code.statement := by
    rw [List.map_map, List.map_map]
    apply List.map_congr_left
    intro entry present
    exact Instruction.read_render (settled entry present)
  rw [ofSource, toList_disassembly, Text.lines_flatMap single, read, ofLines_statements]

theorem symbols_of_written (instructions : List Instruction) (malformed : List Nat) :
    Listing.symbols ⟨(instructions.zipIdx 1).map fun (code, number) => (number, code.statement),
      malformed⟩ = .initial := by
  apply defineLabels_of_unlabelled
  intro entry member
  obtain ⟨_, _, rfl⟩ := List.mem_map.mp member
  rfl

theorem code_of_written {instructions : List Instruction}
    (settled : ∀ code ∈ instructions, code.Settled) (malformed : List Nat) :
    Listing.code ⟨(instructions.zipIdx 1).map fun (code, number) => (number, code.statement),
      malformed⟩ = (instructions.zipIdx 1).map fun (code, number) => (number, code) := by
  rw [code, symbols_of_written, List.map_map]
  apply List.map_congr_left
  rintro ⟨code, number⟩ member
  have present : code ∈ instructions := List.fst_mem_of_mem_zipIdx member
  simp only [Function.comp_apply, Instruction.ofStatement_statement (settled code present)]

theorem addressOf_statement {source : String} {k : Nat}
    (inside : k < (ofSource source).statements.length) :
    (ofSource source).addressOf (ofSource source).statements[k].1 = k + 1 := by
  have distinct : ((ofSource source).statements.map Prod.fst).Nodup := by
    rw [List.Nodup, List.pairwise_map]
    exact (lists_ofSource source).ascending.imp fun order => Nat.ne_of_lt order
  have position := distinct.idxOf_getElem k (by simpa using inside)
  rw [List.getElem_map] at position
  rw [addressOf, position]

/-- The second program is the first one, with addresses in the place of line numbers. -/
theorem code_disassembly {source : String} (short : source.length < addressLimit) :
    (ofSource ((ofSource source).code.memory.disassembly (ofSource source).code.length)).code =
      (ofSource source).code.map fun (line, code) => ((ofSource source).addressOf line, code) := by
  have settled := settled_code short
  have instructions : ∀ code ∈ (ofSource source).code.map Prod.snd, code.Settled := by
    intro code member
    obtain ⟨entry, present, rfl⟩ := List.mem_map.mp member
    exact settled entry present
  rw [ofSource_disassembly settled, code_of_written instructions]
  apply List.ext_getElem (by simp)
  intro k inside inside'
  have position : k < (ofSource source).statements.length := by simpa [length_code] using inside
  have listed : k < (ofSource source).code.length := by rwa [length_code]
  have line : (ofSource source).code[k].1 = (ofSource source).statements[k].1 := by
    simp [code]
  simp only [List.getElem_map, List.getElem_zipIdx, line, addressOf_statement position,
    Nat.add_comm]

end Listing

theorem Code.unresolved_map (address : Nat → Nat) (code : Code) :
    Code.unresolved (code.map fun (line, code) => (address line, code)) =
      (Code.unresolved code).map fun (line, name) => (address line, name) := by
  rw [unresolved, unresolved, List.filterMap_map, List.map_filterMap]
  apply List.filterMap_congr
  rintro ⟨line, opcode, operand⟩ -
  rcases operand with _ | (_ | _ | _) <;> rfl

theorem Code.outOfRange_map (address : Nat → Nat) (code : Code) :
    Code.outOfRange (code.map fun (line, code) => (address line, code)) =
      (Code.outOfRange code).map fun (line, digits) => (address line, digits) := by
  rw [outOfRange, outOfRange, List.filterMap_map, List.map_filterMap]
  apply List.filterMap_congr
  rintro ⟨line, opcode, operand⟩ -
  rcases operand with _ | (_ | _ | _) <;> rfl

theorem Memory.ext_toList {left right : Memory} (same : left.cells.toList = right.cells.toList) :
    left = right := by
  cases left
  cases right
  simpa [Array.toList_inj] using same

/-- Other line numbers change nothing but the report. -/
theorem Listing.image_of_code {listing again : Listing} {address : Nat → Nat}
    (renumbered : again.code = listing.code.map fun (line, code) => (address line, code)) :
    again.image.memory = listing.image.memory ∧
      again.image.report.loaded = listing.image.report.loaded ∧
      again.image.report.unresolved =
        listing.image.report.unresolved.map (fun (line, name) => (address line, name)) ∧
      again.image.report.outOfRange =
        listing.image.report.outOfRange.map (fun (line, digits) => (address line, digits)) := by
  refine ⟨?_, ?_, ?_, ?_⟩
  · apply Memory.ext_toList
    change again.code.memory.cells.toList = listing.code.memory.cells.toList
    rw [renumbered, Code.toList_memory, Code.toList_memory, List.map_map]
    rfl
  · change again.statements.length = listing.statements.length
    rw [← length_code, ← length_code, renumbered, List.length_map]
  · change again.code.unresolved = listing.code.unresolved.map _
    rw [renumbered, Code.unresolved_map]
  · change again.code.outOfRange = listing.code.outOfRange.map _
    rw [renumbered, Code.outOfRange_map]

/-- A program that is written out and assembled again is the same program. Its labels are gone, and
what was left open is reported by address. -/
theorem assemble_disassembly (source : String) (short : source.length < addressLimit) :
    let image := assemble source
    let again := assemble (image.memory.disassembly image.report.loaded)
    let addressOf := (Listing.ofSource source).addressOf
    again.memory = image.memory ∧ again.symbols = .initial ∧
      again.report.skipped = [] ∧ again.report.loaded = image.report.loaded ∧
      again.report.unresolved =
        image.report.unresolved.map (fun (line, name) => (addressOf line, name)) ∧
      again.report.outOfRange =
        image.report.outOfRange.map (fun (line, digits) => (addressOf line, digits)) := by
  intro image again addressOf
  -- The second assembly is one of written instructions, in two forms: `listing` tells its statements
  -- and `code_disassembly` its code.
  have written : again =
      (Listing.ofSource ((Listing.ofSource source).code.memory.disassembly
        (Listing.ofSource source).code.length)).image := by
    rw [Listing.length_code]
    rfl
  have listing := Listing.ofSource_disassembly (Listing.settled_code short)
  have symbols : again.symbols = .initial := by
    rw [written, listing, Listing.image_eq]
    dsimp only
    rw [Listing.symbols_of_written]
  have skipped : again.report.skipped = [] := by
    rw [written, listing]
    rfl
  obtain ⟨memory, loaded, unresolved, outOfRange⟩ :=
    Listing.image_of_code (Listing.code_disassembly short)
  rw [← written] at memory loaded unresolved outOfRange
  exact ⟨memory, symbols, skipped, loaded, unresolved, outOfRange⟩

theorem assemble_disassembly_echo :
    let source := "# echo\nloop, LDA stdin\nsta stdout\nbrz nowhere\nbr Loop\n"
    let again := assemble "lda 0\nsta 0\nbrz nowhere\nbr 1\n"
    source.length < addressLimit ∧ again.memory = (assemble source).memory ∧
      again.symbols = .initial ∧ (assemble source).report.unresolved = [(4, "nowhere")] ∧
      again.report.unresolved = [(3, "nowhere")] := by
  intro source again
  have short : source.length < addressLimit := by decide +kernel
  have text : (assemble source).memory.disassembly (assemble source).report.loaded =
      "lda 0\nsta 0\nbrz nowhere\nbr 1\n" := by decide +kernel
  obtain ⟨memory, symbols, -, -, unresolved, -⟩ := assemble_disassembly source short
  rw [text] at memory symbols unresolved
  refine ⟨short, memory, symbols, by decide +kernel, ?_⟩
  rw [unresolved]
  decide +kernel

end Accumulator
