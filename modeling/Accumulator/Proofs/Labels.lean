import Accumulator.Proofs.Disassembly

/-!
# Labels and the names of the console

A name stands for the statement that defines it last, if one does, and otherwise for what it stood
for before any definition (`DefinedLast.get?_defineLabels`, `get?_symbols_of_none`). The two names of
the console are in every table, but they are no exception to this: a program that defines one of
them takes it away from the console. Main statement: `console_names`.
-/
namespace Accumulator

/-- The names that the statements define, in lower case. -/
def labelsOf (statements : List (Nat × Statement)) : List String :=
  statements.filterMap fun entry => entry.2.label.map Text.lowercase

/-- Is this the index of the last statement that defines the name? -/
structure DefinedLast (statements : List (Nat × Statement)) (name : String) (k : Nat) : Prop where
  defined : ∃ entry, statements[k]? = some entry ∧ entry.2.defines name = true
  last : ∀ j later, k < j → statements[j]? = some later → later.2.defines name = false

/-- Is this one of the two names of the console, in any letter case? -/
def IsConsoleName (name : String) : Prop :=
  Text.lowercase name = "stdin" ∨ Text.lowercase name = "stdout"

instance (name : String) : Decidable (IsConsoleName name) := inferInstanceAs (Decidable (_ ∨ _))

/-- Do the names of the console mean the console, as labels and wherever they are operands? -/
structure NamesConsole (statements : List (Nat × Statement)) (machine : Machine) : Prop where
  symbol : ∀ name, IsConsoleName name → machine.symbols.get? name = some 0
  operand : ∀ k entry token, statements[k]? = some entry → entry.2.token = some token →
    IsConsoleName token → machine.memory.operandAt (k + 1) = some (.literal 0)

@[simp] theorem Text.lowercase_lowercase (s : String) :
    Text.lowercase (Text.lowercase s) = Text.lowercase s := by
  rw [← String.toList_inj, toList_lowercase, toList_lowercase, List.map_map]
  apply List.map_congr_left
  exact fun c _ => Char.toLower_toLower_eq_toLower c

/-! ### Defined names -/

theorem Statement.defines_iff {statement : Statement} {name : String} :
    statement.defines name = true ↔
      statement.label.map Text.lowercase = some (Text.lowercase name) := by
  unfold defines
  cases statement.label <;> simp

theorem mem_labelsOf_iff {statements : List (Nat × Statement)} {name : String} :
    Text.lowercase name ∈ labelsOf statements ↔
      ∃ entry ∈ statements, entry.2.defines name = true := by
  simp only [labelsOf, List.mem_filterMap, Statement.defines_iff]

theorem not_mem_labelsOf_iff {statements : List (Nat × Statement)} {name : String} :
    Text.lowercase name ∉ labelsOf statements ↔
      ∀ entry ∈ statements, entry.2.defines name = false := by
  simp only [mem_labelsOf_iff, not_exists, not_and, Bool.not_eq_true]

theorem exists_of_mem_labelsOf {statements : List (Nat × Statement)} {key : String}
    (defined : key ∈ labelsOf statements) :
    ∃ entry ∈ statements, ∃ label, entry.2.label = some label ∧ Text.lowercase label = key := by
  obtain ⟨entry, member, lowered⟩ := List.mem_filterMap.mp defined
  obtain ⟨label, written, same⟩ := Option.map_eq_some_iff.mp lowered
  exact ⟨entry, member, label, written, same⟩

theorem Grammar.isName_of_derives {line : List Char} {statement : Statement} {label : String}
    (derived : Derives line statement) (written : statement.label = some label) :
    Text.isName label.toList = true := by
  obtain ⟨-, -, content, -⟩ := derived
  obtain ⟨labelled, -, -, -⟩ := content
  cases labelled with
  | absent => cases written
  | present named =>
    obtain rfl := Option.some.inj written
    simpa using named

/-- Only names are defined, so no numeral is taken for a label. -/
theorem Lists.isName_of_mem {source : String} {statements : List (Nat × Statement)}
    (listed : Lists source statements) {name : String}
    (defined : Text.lowercase name ∈ labelsOf statements) : Text.isName name.toList = true := by
  obtain ⟨⟨number, statement⟩, member, label, written, same⟩ := exists_of_mem_labelsOf defined
  obtain ⟨line, -, derived⟩ := (listed.mem_iff number statement).mp member
  have named := Grammar.isName_of_derives derived written
  rw [← Text.isName_map_toLower, ← Text.toList_lowercase] at named ⊢
  rwa [← same]

/-! ### What names stand for -/

theorem exists_definedLast {statements : List (Nat × Statement)} {name : String}
    (defined : Text.lowercase name ∈ labelsOf statements) :
    ∃ k, DefinedLast statements name k := by
  rw [mem_labelsOf_iff] at defined
  -- By induction on the list: if the rest of it defines the name, that is where the last definition
  -- is, and if not, it is the first statement.
  induction statements with
  | nil => simp at defined
  | cons first rest ih =>
    by_cases later : ∃ entry ∈ rest, entry.2.defines name = true
    · obtain ⟨k, defined, last⟩ := ih later
      refine ⟨k + 1, by simpa using defined, fun j other beyond position => ?_⟩
      obtain ⟨j, rfl⟩ : ∃ i, j = i + 1 := ⟨j - 1, by omega⟩
      exact last j other (by omega) (by simpa using position)
    · have here : first.2.defines name = true := by
        obtain ⟨entry, member, defines⟩ := defined
        rcases List.mem_cons.mp member with rfl | member
        · exact defines
        · exact absurd ⟨entry, member, defines⟩ later
      refine ⟨0, ⟨first, rfl, here⟩, fun j other beyond position => ?_⟩
      obtain ⟨j, rfl⟩ : ∃ i, j = i + 1 := ⟨j - 1, by omega⟩
      have member : other ∈ rest := List.mem_of_getElem? (by simpa using position)
      exact not_mem_labelsOf_iff.mp (mt mem_labelsOf_iff.mp later) other member

/-- The last definition of a name counts, whatever was in the table before. -/
theorem DefinedLast.get?_defineLabels {statements : List (Nat × Statement)} {name : String} {k : Nat}
    (definition : DefinedLast statements name k) (address : Nat) (table : SymbolTable) :
    (Listing.defineLabels statements address table).get? name = some (address + k) := by
  obtain ⟨⟨entry, found, defines⟩, last⟩ := definition
  exact Listing.get?_defineLabels_of_last found defines last address table

namespace Listing

/-- The label pass looks at labels in lower case only. -/
theorem defineLabels_congr {statements others : List (Nat × Statement)}
    (same : (statements.map fun entry => entry.2.label.map Text.lowercase) =
      others.map fun entry => entry.2.label.map Text.lowercase) (address : Nat)
    (table : SymbolTable) :
    defineLabels statements address table = defineLabels others address table := by
  induction statements generalizing others address table with
  | nil =>
    cases others with
    | nil => rfl
    | cons => cases same
  | cons entry rest ih =>
    cases others with
    | nil => cases same
    | cons other others =>
      obtain ⟨labels, rest_same⟩ := List.cons.inj same
      rw [defineLabels_cons, defineLabels_cons, ih rest_same]
      congr 1
      -- Labels with one spelling in lower case make the same entry.
      replace labels : entry.2.label.map Text.lowercase = other.2.label.map Text.lowercase := labels
      cases own : entry.2.label with
      | none =>
        rw [own, Option.map_none, eq_comm, Option.map_eq_none_iff] at labels
        rw [labels]
      | some name =>
        rw [own, Option.map_some, eq_comm, Option.map_eq_some_iff] at labels
        obtain ⟨twin, written, lowered⟩ := labels
        simp only [written, SymbolTable.define, lowered]

/-- A name that is defined stands for an address of the program, never for the console. -/
theorem get?_symbols_of_definedLast {listing : Listing} {name : String} {k : Nat}
    (definition : DefinedLast listing.statements name k) :
    listing.symbols.get? name = some (k + 1) := by
  have found := definition.get?_defineLabels 1 .initial
  rwa [Nat.add_comm] at found

theorem get?_symbols_of_not_mem {listing : Listing} {name : String}
    (free : Text.lowercase name ∉ labelsOf listing.statements) :
    listing.symbols.get? name = if IsConsoleName name then some 0 else none :=
  get?_symbols_of_none (not_mem_labelsOf_iff.mp free)

theorem operandAt_of_statement {listing : Listing} {k : Nat} {entry : Nat × Statement}
    (found : listing.statements[k]? = some entry) :
    listing.code.memory.operandAt (k + 1) = entry.2.token.map (Operand.ofToken listing.symbols) := by
  rw [Memory.operandAt, get_memory_of_statement found, Instruction.ofStatement]

end Listing

/-! ### The names of the console -/

theorem IsConsoleName.isName {name : String} (console : IsConsoleName name) :
    Text.isName name.toList = true := by
  rw [← Text.isName_map_toLower, ← Text.toList_lowercase]
  rcases console with same | same
  · rw [same]
    decide
  · rw [same]
    decide

/-- The names of the console are no numerals, so they are always looked up. -/
theorem IsConsoleName.ofToken {name : String} (console : IsConsoleName name) {symbols : SymbolTable}
    {address : Nat} (found : symbols.get? name = some address) :
    Operand.ofToken symbols name = .literal address := by
  rw [Operand.ofToken, natural?_eq_none (Text.isNumeral_of_isName console.isName), found]

namespace Listing

/-- Every table has both names of the console. They are 0 in it as long as they are not defined. -/
theorem exists_get?_symbols (listing : Listing) {name : String} (console : IsConsoleName name) :
    ∃ address, listing.symbols.get? name = some address ∧
      (address = 0 ↔ Text.lowercase name ∉ labelsOf listing.statements) ∧
      ∀ k, DefinedLast listing.statements name k → address = k + 1 := by
  by_cases defined : Text.lowercase name ∈ labelsOf listing.statements
  · obtain ⟨k, definition⟩ := exists_definedLast defined
    have found := get?_symbols_of_definedLast definition
    refine ⟨k + 1, found, by simp [defined], fun j other => ?_⟩
    exact Option.some.inj (found.symm.trans (get?_symbols_of_definedLast other))
  · have free : listing.symbols.get? name = some 0 := by
      rw [get?_symbols_of_not_mem defined, if_pos console]
    refine ⟨0, free, by simp [defined], fun j other => ?_⟩
    exact Option.some.inj (free.symm.trans (get?_symbols_of_definedLast other))

theorem operandAt_of_isConsoleName {listing : Listing} {name : String} (console : IsConsoleName name)
    {address : Nat} (found : listing.symbols.get? name = some address) {k : Nat}
    {entry : Nat × Statement} {token : String} (position : listing.statements[k]? = some entry)
    (written : entry.2.token = some token) (same : Text.lowercase token = Text.lowercase name) :
    listing.code.memory.operandAt (k + 1) = some (.literal address) := by
  -- The token is the same name as far as the table is concerned.
  have spelled : IsConsoleName token := by rwa [IsConsoleName, same]
  have looked_up : listing.symbols.get? token = some address := by rwa [SymbolTable.get?, same]
  rw [operandAt_of_statement position, written, Option.map_some, spelled.ofToken looked_up]

theorem namesConsole_iff {listing : Listing} {machine : Machine}
    (symbols : machine.symbols = listing.symbols) (memory : machine.memory = listing.code.memory) :
    NamesConsole listing.statements machine ↔
      ∀ name, IsConsoleName name → Text.lowercase name ∉ labelsOf listing.statements := by
  constructor
  · intro means name console
    obtain ⟨address, found, zero, -⟩ := listing.exists_get?_symbols console
    have looked_up := means.symbol name console
    rw [symbols, found] at looked_up
    exact zero.mp (Option.some.inj looked_up)
  · intro free
    have zero : ∀ name, IsConsoleName name → listing.symbols.get? name = some 0 := by
      intro name console
      rw [get?_symbols_of_not_mem (free name console), if_pos console]
    constructor
    case symbol => rwa [symbols]
    case operand =>
      intro k entry token position written console
      rw [memory]
      exact operandAt_of_isConsoleName console (zero token console) position written rfl

end Listing

/-- The names of the console mean the console after exactly those loads whose source defines neither
of them, whatever was loaded before. One that is defined stands for the last statement that defines
it, also where it is an operand. -/
theorem console_names (machine : Machine) (source : String) :
    ∃ statements, Lists source statements ∧
      (NamesConsole statements (machine.load source).1 ↔
        ∀ name, IsConsoleName name → Text.lowercase name ∉ labelsOf statements) ∧
      ∀ name, IsConsoleName name → ∃ address,
        (machine.load source).1.symbols.get? name = some address ∧
        (address = 0 ↔ Text.lowercase name ∉ labelsOf statements) ∧
        (∀ k, DefinedLast statements name k → address = k + 1) ∧
        ∀ k entry token, statements[k]? = some entry → entry.2.token = some token →
          Text.lowercase token = Text.lowercase name →
          (machine.load source).1.memory.operandAt (k + 1) = some (.literal address) := by
  rw [Machine.load_eq]
  have listed := Listing.lists_ofSource source
  generalize Listing.ofSource source = listing at listed
  refine ⟨listing.statements, listed, Listing.namesConsole_iff rfl rfl, fun name console => ?_⟩
  obtain ⟨address, found, zero, last⟩ := listing.exists_get?_symbols console
  refine ⟨address, found, zero, last, ?_⟩
  intro k entry token position written same
  exact Listing.operandAt_of_isConsoleName console found position written same

/-- A label takes the name of the input away from the console. -/
theorem console_names_redefined :
    let source := "stdin, lda STDIN\nhlt\n"
    let machine := (Machine.ofSource source).1
    machine.symbols.get? "stdin" = some 1 ∧ machine.memory.operandAt 1 = some (.literal 1) ∧
      ∃ statements, Lists source statements ∧ ¬ NamesConsole statements machine := by
  intro source machine
  have symbol : machine.symbols.get? "stdin" = some 1 := by decide +kernel
  refine ⟨symbol, by decide +kernel, _, Listing.lists_ofSource source, fun means => ?_⟩
  have console := means.symbol "stdin" (by decide)
  rw [symbol] at console
  cases console

end Accumulator
