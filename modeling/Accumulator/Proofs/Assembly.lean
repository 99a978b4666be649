import Accumulator.Machine.Basic
import Accumulator.Proofs.Grammar

/-!
# What a source assembles to

`Lists` says which statements a source has, line by line and from the grammar alone; `Assembled`
says what memory, labels and report have to be for these statements. Main statement:
`load_assembled`, every load meets both, whatever the machine held before.

Both passes go over one list of statements, and statement `k` of it has address `k + 1` in either:
the label pass is followed by induction on the list (`get?_defineLabels_of_last`), the emitted cells
by one equation for the whole memory (`toList_memory`).
-/
namespace Accumulator

/-- Does the statement define this name, in any letter case? -/
def Statement.defines (statement : Statement) (name : String) : Bool :=
  statement.label.any fun label => Text.lowercase label == Text.lowercase name

/-- The line of a source with this number, counted from 1. -/
def LineAt (source : String) (number : Nat) (line : List Char) : Prop :=
  0 < number ∧ (Text.lines source.toList)[number - 1]? = some line

/-- The statements of a source with their line numbers, in order. -/
structure Lists (source : String) (statements : List (Nat × Statement)) : Prop where
  ascending : statements.Pairwise fun earlier later => earlier.1 < later.1
  mem_iff : ∀ number statement, (number, statement) ∈ statements ↔
    ∃ line, LineAt source number line ∧ Grammar.Derives line statement

/-- The numbers of the lines that say something and are not of the grammar, in order. -/
structure Skips (source : String) (numbers : List Nat) : Prop where
  ascending : numbers.Pairwise (· < ·)
  mem_iff : ∀ number, number ∈ numbers ↔
    ∃ line, LineAt source number line ∧ ¬ Grammar.Remark line ∧
      ∀ statement, ¬ Grammar.Derives line statement

/-- The operand that a token becomes under these labels. -/
inductive Denotes (symbols : SymbolTable) : Option String → Option Operand → Prop where
  | absent : Denotes symbols none none
  | address {token : String} (numeral : Text.isNumeral token.toList = true)
      (small : Nat.ofDigitChars 10 token.toList 0 < 2 ^ 64) :
      Denotes symbols (some token) (some (.literal (Nat.ofDigitChars 10 token.toList 0)))
  | outOfRange {token : String} (numeral : Text.isNumeral token.toList = true)
      (large : 2 ^ 64 ≤ Nat.ofDigitChars 10 token.toList 0) :
      Denotes symbols (some token) (some (.outOfRange token))
  | defined {token : String} {address : Nat} (name : Text.isNumeral token.toList = false)
      (found : symbols.get? token = some address) :
      Denotes symbols (some token) (some (.literal address))
  | undefined {token : String} (name : Text.isNumeral token.toList = false)
      (missing : symbols.get? token = none) : Denotes symbols (some token) (some (.label token))

/-- The operand of the instruction at an address. -/
def Memory.operandAt (memory : Memory) (address : Nat) : Option Operand :=
  match memory.get address with
  | .instruction code => code.operand
  | _ => none

/-- What a machine and a report have to be once these statements are assembled. Statement `k` of the
list goes to address `k + 1`. -/
structure Assembled (statements : List (Nat × Statement)) (machine : Machine) (report : Report) :
    Prop where
  size : machine.memory.size = statements.length + 1
  placeholder : machine.memory.get 0 = .unset
  instruction : ∀ k entry, statements[k]? = some entry →
    ∃ operand, machine.memory.get (k + 1) = .instruction ⟨entry.2.opcode, operand⟩ ∧
      Denotes machine.symbols entry.2.token operand
  lastDefinition : ∀ k entry name, statements[k]? = some entry → entry.2.defines name = true →
    (∀ j later, k < j → statements[j]? = some later → later.2.defines name = false) →
    machine.symbols.get? name = some (k + 1)
  noDefinition : ∀ name, (∀ entry ∈ statements, entry.2.defines name = false) →
    machine.symbols.get? name =
      if Text.lowercase name = "stdin" ∨ Text.lowercase name = "stdout" then some 0 else none
  loaded : report.loaded = statements.length
  unresolved : report.unresolved = (statements.zipIdx 1).filterMap fun (entry, address) =>
    match machine.memory.operandAt address with
    | some (.label name) => some (entry.1, name)
    | _ => none
  outOfRange : report.outOfRange = (statements.zipIdx 1).filterMap fun (entry, address) =>
    match machine.memory.operandAt address with
    | some (.outOfRange digits) => some (entry.1, digits)
    | _ => none

/-- The line with its statement changed. -/
def Line.map (change : Statement → Statement) : Line → Line
  | .blank => .blank
  | .statement content => .statement (change content)
  | .malformed => .malformed

/-- The listing with each of its statements changed. -/
def Listing.map (change : Statement → Statement) (listing : Listing) : Listing where
  statements := listing.statements.map fun (line, statement) => (line, change statement)
  malformed := listing.malformed

theorem Lists.unique {source : String} {left right : List (Nat × Statement)}
    (first : Lists source left) (second : Lists source right) : left = right := by
  have irreflexive : Std.Irrefl fun earlier later : Nat × Statement => earlier.1 < later.1 :=
    ⟨fun entry => Nat.lt_irrefl entry.1⟩
  have antisymmetric : Std.Antisymm fun earlier later : Nat × Statement => earlier.1 < later.1 :=
    ⟨fun earlier later order reverse => absurd order (Nat.lt_asymm reverse)⟩
  apply first.ascending.eq_of_mem_iff second.ascending
  rintro ⟨number, statement⟩
  rw [first.mem_iff, second.mem_iff]

/-! ### Lines and their numbers -/

theorem pairwise_zipIdx {α : Type} (xs : List α) (start : Nat) :
    (xs.zipIdx start).Pairwise fun earlier later => earlier.2 < later.2 := by
  rw [← List.pairwise_map (f := Prod.snd) (R := (· < ·)), List.zipIdx_map_snd]
  exact List.pairwise_lt_range'

theorem statement?_eq_some_iff {line : Line} {statement : Statement} :
    line.statement? = some statement ↔ line = .statement statement := by
  cases line <;> simp [Line.statement?]

theorem isMalformed_iff {line : Line} : line.isMalformed = true ↔ line = .malformed := by
  cases line <;> simp [Line.isMalformed]

namespace Listing

theorem mem_statements_iff {lines : List Line} {start number : Nat} {statement : Statement} :
    (number, statement) ∈ (ofLines lines start).statements ↔
      start ≤ number ∧ lines[number - start]? = some (.statement statement) := by
  simp only [ofLines, List.mem_filterMap, Prod.exists, List.mk_mem_zipIdx_iff_le_and_getElem?_sub,
    Option.map_eq_some_iff, statement?_eq_some_iff]
  constructor
  · rintro ⟨line, number, ⟨from_start, found⟩, content, rfl, same⟩
    cases same
    exact ⟨from_start, found⟩
  · rintro ⟨from_start, found⟩
    exact ⟨_, number, ⟨from_start, found⟩, statement, rfl, rfl⟩

theorem mem_malformed_iff {lines : List Line} {start number : Nat} :
    number ∈ (ofLines lines start).malformed ↔
      start ≤ number ∧ lines[number - start]? = some .malformed := by
  simp only [ofLines, List.mem_filterMap, Prod.exists, List.mk_mem_zipIdx_iff_le_and_getElem?_sub,
    Option.ite_none_right_eq_some, isMalformed_iff, Option.some.injEq]
  constructor
  · rintro ⟨line, number, ⟨from_start, found⟩, rfl, rfl⟩
    exact ⟨from_start, found⟩
  · rintro ⟨from_start, found⟩
    exact ⟨_, number, ⟨from_start, found⟩, rfl, rfl⟩

theorem ascending_statements (lines : List Line) (start : Nat) :
    (ofLines lines start).statements.Pairwise fun earlier later => earlier.1 < later.1 := by
  rw [ofLines, List.pairwise_filterMap]
  refine (pairwise_zipIdx lines start).imp ?_
  rintro ⟨_, number⟩ ⟨_, later⟩ order entry found entry' found'
  obtain ⟨_, _, rfl⟩ := Option.map_eq_some_iff.mp found
  obtain ⟨_, _, rfl⟩ := Option.map_eq_some_iff.mp found'
  exact order

theorem ascending_malformed (lines : List Line) (start : Nat) :
    (ofLines lines start).malformed.Pairwise (· < ·) := by
  rw [ofLines, List.pairwise_filterMap]
  refine (pairwise_zipIdx lines start).imp ?_
  rintro ⟨_, number⟩ ⟨_, later⟩ order entry found entry' found'
  obtain ⟨-, same⟩ := Option.ite_none_right_eq_some.mp found
  obtain ⟨-, same'⟩ := Option.ite_none_right_eq_some.mp found'
  rwa [← Option.some.inj same, ← Option.some.inj same']

theorem ofLines_map (change : Statement → Statement) (lines : List Line) (number : Nat) :
    ofLines (lines.map (Line.map change)) number = (ofLines lines number).map change := by
  rw [ofLines, List.zipIdx_map, List.filterMap_map, List.filterMap_map, map, ofLines,
    List.map_filterMap, Listing.mk.injEq]
  constructor
  · apply List.filterMap_congr
    rintro ⟨line, number⟩ -
    cases line <;> rfl
  · apply List.filterMap_congr
    rintro ⟨line, number⟩ -
    cases line <;> rfl

theorem lists_ofSource (source : String) : Lists source (ofSource source).statements where
  ascending := ascending_statements _ 1
  mem_iff number statement := by
    rw [ofSource, mem_statements_iff, List.getElem?_map, Option.map_eq_some_iff]
    simp only [Grammar.read_eq_statement_iff, LineAt]
    constructor
    · rintro ⟨positive, line, found, derived⟩
      exact ⟨line, ⟨positive, found⟩, derived⟩
    · rintro ⟨line, ⟨positive, found⟩, derived⟩
      exact ⟨positive, line, found, derived⟩

theorem skips_ofSource (source : String) : Skips source (ofSource source).malformed where
  ascending := ascending_malformed _ 1
  mem_iff number := by
    rw [ofSource, mem_malformed_iff, List.getElem?_map, Option.map_eq_some_iff]
    simp only [Grammar.read_eq_malformed_iff, LineAt]
    constructor
    · rintro ⟨positive, line, found, odd⟩
      exact ⟨line, ⟨positive, found⟩, odd⟩
    · rintro ⟨line, ⟨positive, found⟩, odd⟩
      exact ⟨positive, line, found, odd⟩

/-! ### The label pass -/

theorem defineLabels_cons (entry : Nat × Statement) (rest : List (Nat × Statement)) (address : Nat)
    (table : SymbolTable) :
    defineLabels (entry :: rest) address table =
      defineLabels rest (address + 1)
        (match entry.2.label with
        | some name => table.define name address
        | none => table) := rfl

/-- One statement of the label pass. -/
theorem get?_of_statement (statement : Statement) (address : Nat) (table : SymbolTable)
    (name : String) :
    (match statement.label with
      | some label => table.define label address
      | none => table).get? name =
      if statement.defines name then some address else table.get? name := by
  unfold Statement.defines
  cases statement.label with
  | none => rfl
  | some label =>
    rw [SymbolTable.get?_define]
    simp only [Option.any_some, beq_iff_eq, eq_comm (a := Text.lowercase name)]

theorem get?_defineLabels_of_none {statements : List (Nat × Statement)} {name : String}
    (absent : ∀ entry ∈ statements, entry.2.defines name = false) (address : Nat)
    (table : SymbolTable) :
    (defineLabels statements address table).get? name = table.get? name := by
  induction statements generalizing address table with
  | nil => rfl
  | cons entry rest ih =>
    have here := absent entry List.mem_cons_self
    have later := fun entry member => absent entry (List.mem_cons_of_mem _ member)
    rw [defineLabels_cons, ih later, get?_of_statement, here]
    rfl

theorem get?_defineLabels_of_last {statements : List (Nat × Statement)} {name : String} {k : Nat}
    {entry : Nat × Statement} (found : statements[k]? = some entry)
    (defines : entry.2.defines name = true)
    (last : ∀ j later, k < j → statements[j]? = some later → later.2.defines name = false)
    (address : Nat) (table : SymbolTable) :
    (defineLabels statements address table).get? name = some (address + k) := by
  -- The table changes on the way to statement `k` and once more there; none behind it touches the
  -- name, so only the address that was reached counts.
  induction statements generalizing k address table with
  | nil => simp at found
  | cons first rest ih =>
    rw [defineLabels_cons]
    cases k with
    | zero =>
      obtain rfl : first = entry := by simpa using found
      have others : ∀ later ∈ rest, later.2.defines name = false := by
        intro later member
        obtain ⟨j, position⟩ := List.mem_iff_getElem?.mp member
        exact last (j + 1) later (Nat.succ_pos j) (by simpa using position)
      rw [get?_defineLabels_of_none others, get?_of_statement, defines]
      rfl
    | succ k =>
      have beyond : ∀ j later, k < j → rest[j]? = some later → later.2.defines name = false := by
        intro j later order position
        exact last (j + 1) later (Nat.succ_lt_succ order) (by simpa using position)
      rw [ih (by simpa using found) beyond]
      congr 1
      omega

theorem get?_symbols_of_none {listing : Listing} {name : String}
    (absent : ∀ entry ∈ listing.statements, entry.2.defines name = false) :
    listing.symbols.get? name =
      if Text.lowercase name = "stdin" ∨ Text.lowercase name = "stdout" then some 0 else none := by
  rw [symbols, get?_defineLabels_of_none absent, SymbolTable.get?, SymbolTable.initial]
  simp only [SymbolTable.lookup_cons_eq_if, List.lookup_nil]
  by_cases input : Text.lowercase name = "stdin"
  · simp [input]
  · simp [input]

end Listing

/-! ### The emitted cells -/

theorem Memory.get_eq_getD_toList (memory : Memory) (address : Nat) :
    memory.get address = memory.cells.toList[address]?.getD .unset := by
  rw [Memory.get, Array.getD_eq_getD_getElem?, Array.getElem?_toList]

namespace Code

/-- The whole memory of a program: the placeholder and its instructions in order. -/
theorem toList_memory (code : Code) :
    code.memory.cells.toList = .unset :: code.map fun entry => .instruction entry.2 := by
  -- The fold starts from any memory here, as its first push already leaves the empty one.
  have grown (memory : Memory) :
      (code.foldl (fun memory entry => memory.push (.instruction entry.2)) memory).cells.toList =
        memory.cells.toList ++ code.map fun entry => .instruction entry.2 := by
    induction code generalizing memory with
    | nil => simp
    | cons entry rest ih =>
      rw [List.foldl_cons, ih]
      simp [Memory.push]
  exact grown .empty

theorem size_memory (code : Code) : code.memory.size = code.length + 1 := by
  rw [Memory.size, ← Array.length_toList, toList_memory, List.length_cons, List.length_map]

theorem get_memory_zero (code : Code) : code.memory.get 0 = .unset := by
  rw [Memory.get_eq_getD_toList, toList_memory]
  rfl

theorem get_memory_succ (code : Code) (k : Nat) :
    code.memory.get (k + 1) = ((code[k]?).map fun entry => .instruction entry.2).getD .unset := by
  rw [Memory.get_eq_getD_toList, toList_memory, List.getElem?_cons_succ, List.getElem?_map]

end Code

theorem natural?_eq_of_isNumeral {token : String} (numeral : Text.isNumeral token.toList = true) :
    Text.natural? token.toList = some (Nat.ofDigitChars 10 token.toList 0) := by
  rw [Text.natural?, if_pos numeral]

theorem natural?_eq_none {token : String} (name : Text.isNumeral token.toList = false) :
    Text.natural? token.toList = none := by
  simp [Text.natural?, name]

theorem denotes_ofToken (symbols : SymbolTable) (token : Option String) :
    Denotes symbols token (token.map (Operand.ofToken symbols)) := by
  cases token with
  | none => exact .absent
  | some token =>
    rw [Option.map_some]
    cases numeral : Text.isNumeral token.toList with
    | true =>
      rw [Operand.ofToken, natural?_eq_of_isNumeral numeral]
      by_cases small : Nat.ofDigitChars 10 token.toList 0 < addressLimit
      · simp only [small, if_true]
        exact .address numeral small
      · simp only [small, if_false]
        exact .outOfRange numeral (Nat.le_of_not_lt small)
    | false =>
      rw [Operand.ofToken, natural?_eq_none numeral]
      cases found : symbols.get? token with
      | none => exact .undefined numeral found
      | some address => exact .defined numeral found

namespace Listing

theorem getElem?_code (listing : Listing) (k : Nat) :
    listing.code[k]? = (listing.statements[k]?).map fun entry =>
      (entry.1, Instruction.ofStatement listing.symbols entry.2) := by
  rw [code, List.getElem?_map]

theorem get_memory_of_statement {listing : Listing} {k : Nat} {entry : Nat × Statement}
    (found : listing.statements[k]? = some entry) :
    listing.code.memory.get (k + 1) =
      .instruction (Instruction.ofStatement listing.symbols entry.2) := by
  rw [Code.get_memory_succ, getElem?_code, found]
  rfl

/-- What a report selects by operand is found again in the cells of the memory. -/
theorem filterMap_code {β : Type} (listing : Listing) (select : Nat → Option Operand → Option β) :
    listing.code.filterMap (fun entry => select entry.1 entry.2.operand) =
      (listing.statements.zipIdx 1).filterMap fun (entry, address) =>
        select entry.1 (listing.code.memory.operandAt address) := by
  have cells : ∀ numbered ∈ listing.statements.zipIdx 1,
      listing.code.memory.operandAt numbered.2 =
        (Instruction.ofStatement listing.symbols numbered.1.2).operand := by
    rintro ⟨entry, address⟩ member
    obtain ⟨positive, found⟩ := List.mk_mem_zipIdx_iff_le_and_getElem?_sub.mp member
    -- Addresses and positions are one apart.
    obtain ⟨k, rfl⟩ : ∃ k, address = k + 1 := ⟨address - 1, by omega⟩
    rw [Memory.operandAt, get_memory_of_statement (by simpa using found)]
  calc listing.code.filterMap (fun entry => select entry.1 entry.2.operand)
      = listing.statements.filterMap fun entry =>
          select entry.1 (Instruction.ofStatement listing.symbols entry.2).operand := by
        rw [code, List.filterMap_map]
        rfl
    _ = ((listing.statements.zipIdx 1).map Prod.fst).filterMap fun entry =>
          select entry.1 (Instruction.ofStatement listing.symbols entry.2).operand := by
        rw [List.zipIdx_map_fst]
    _ = (listing.statements.zipIdx 1).filterMap fun (entry, address) =>
          select entry.1 (listing.code.memory.operandAt address) := by
        rw [List.filterMap_map]
        apply List.filterMap_congr
        intro numbered member
        exact congrArg (select numbered.1.1) (cells numbered member).symm

theorem length_code (listing : Listing) : listing.code.length = listing.statements.length := by
  rw [code, List.length_map]

theorem assembled_image (listing : Listing) (registers : Registers) :
    Assembled listing.statements ⟨listing.code.memory, listing.symbols, registers⟩
      listing.image.report where
  size := by rw [Code.size_memory, length_code]
  placeholder := Code.get_memory_zero _
  instruction k entry found := ⟨_, get_memory_of_statement found, denotes_ofToken _ _⟩
  lastDefinition k entry name found defines last := by
    have address := get?_defineLabels_of_last found defines last 1 .initial
    rwa [Nat.add_comm] at address
  noDefinition name absent := get?_symbols_of_none absent
  loaded := rfl
  unresolved := listing.filterMap_code fun line operand =>
    match operand with
    | some (.label name) => some (line, name)
    | _ => none
  outOfRange := listing.filterMap_code fun line operand =>
    match operand with
    | some (.outOfRange digits) => some (line, digits)
    | _ => none

end Listing

theorem Machine.load_eq (machine : Machine) (source : String) :
    machine.load source =
      (⟨(Listing.ofSource source).code.memory, (Listing.ofSource source).symbols,
        machine.registers⟩, (Listing.ofSource source).image.report) := by
  simp only [load_eq_assemble, assemble, Listing.image_eq]

/-- Loading assembles the source, whatever the machine held before. -/
theorem load_assembled (machine : Machine) (source : String) :
    ∃ statements, Lists source statements ∧
      (∀ others, Lists source others → others = statements) ∧
      Assembled statements (machine.load source).1 (machine.load source).2 ∧
      Skips source (machine.load source).2.skipped ∧
      (machine.load source).1.registers = machine.registers := by
  have listed := Listing.lists_ofSource source
  have skipped := Listing.skips_ofSource source
  rw [Machine.load_eq]
  refine ⟨_, listed, fun others other => other.unique listed, ?_, skipped, rfl⟩
  exact (Listing.ofSource source).assembled_image machine.registers

end Accumulator
