import Accumulator.Proofs.Labels
import Accumulator.Proofs.Provenance

/-!
# Operands written in digits

The grammar takes a row of decimal digits of any script for an operand, but only the ASCII digits
have a value. A row of these is an address or out of range. Any other row of digits is looked up
like a name, and as no program can define it, it is left over as one (`get?_symbols_of_isDigits`).
Main statement: `digit_operands`.
-/
namespace Accumulator

/-- Is the text one or more decimal digits, of whichever script? -/
def Text.isDigits (s : List Char) : Bool := !s.isEmpty && s.all Text.isDigit

/-- What ASCII digits stand for: their value, if it is an address. -/
def Operand.ofNumeral (digits : String) : Operand :=
  let value := Nat.ofDigitChars 10 digits.toList 0
  if value < 2 ^ 64 then .literal value else .outOfRange digits

/-- Is no row of digits taken for a name, neither in memory nor in the report? -/
structure KeepsDigits (statements : List (Nat × Statement)) (loaded : Machine × Report) : Prop where
  operand : ∀ k entry token, statements[k]? = some entry → entry.2.token = some token →
    Text.isDigits token.toList = true →
    ∀ name, loaded.1.memory.operandAt (k + 1) ≠ some (.label name)
  unresolved : ∀ entry ∈ statements, ∀ token, entry.2.token = some token →
    Text.isDigits token.toList = true → ∀ line, (line, token) ∉ loaded.2.unresolved
  label : ∀ address name, loaded.1.memory.operandAt address = some (.label name) →
    Text.isName name.toList = true

theorem Text.isDigits_of_isName {s : List Char} (named : Text.isName s = true) :
    Text.isDigits s = false := by
  rw [Text.isDigits, Text.isDigit_of_isName named, Bool.and_false]

/-! ### What a token stands for -/

namespace Operand

theorem ofToken_of_isNumeral {token : String} (numeral : Text.isNumeral token.toList = true)
    (symbols : SymbolTable) : ofToken symbols token = .ofNumeral token := by
  rw [ofToken, natural?_eq_of_isNumeral numeral]
  rfl

theorem ofNumeral_ne_label (digits name : String) : ofNumeral digits ≠ .label name := by
  unfold ofNumeral
  dsimp only
  split <;> nofun

/-- What is left over as a name is the token itself, which is no numeral and names no label. -/
theorem ofToken_eq_label_iff {symbols : SymbolTable} {token name : String} :
    ofToken symbols token = .label name ↔
      token = name ∧ Text.isNumeral token.toList = false ∧ symbols.get? token = none := by
  cases numeral : Text.isNumeral token.toList with
  | true =>
    rw [ofToken_of_isNumeral numeral]
    simp [ofNumeral_ne_label]
  | false =>
    rw [ofToken, natural?_eq_none numeral]
    cases found : symbols.get? token <;> simp

end Operand

namespace Listing

/-- The report lists the tokens that are left over as names. -/
theorem mem_unresolved_iff {listing : Listing} {line : Nat} {name : String} :
    (line, name) ∈ listing.code.unresolved ↔
      ∃ statement, (line, statement) ∈ listing.statements ∧ statement.token = some name ∧
        Text.isNumeral name.toList = false ∧ listing.symbols.get? name = none := by
  rw [Code.mem_unresolved_iff]
  constructor
  · rintro ⟨instruction, member, operand⟩
    obtain ⟨⟨number, statement⟩, listed, same⟩ := List.mem_map.mp member
    cases same
    obtain ⟨token, written, label⟩ := Option.map_eq_some_iff.mp operand
    obtain ⟨rfl, letters, missing⟩ := Operand.ofToken_eq_label_iff.mp label
    exact ⟨statement, listed, written, letters, missing⟩
  · rintro ⟨statement, listed, written, letters, missing⟩
    refine ⟨_, List.mem_map.mpr ⟨(line, statement), listed, rfl⟩, ?_⟩
    rw [Instruction.ofStatement, written, Option.map_some,
      Operand.ofToken_eq_label_iff.mpr ⟨rfl, letters, missing⟩]

/-- A name in memory is reported. -/
theorem mem_unresolved_of_operandAt {listing : Listing} {address : Nat} {name : String}
    (left : listing.code.memory.operandAt address = some (.label name)) :
    ∃ line, (line, name) ∈ listing.code.unresolved := by
  unfold Memory.operandAt at left
  split at left
  next code found =>
    obtain ⟨-, -, line, member⟩ := Code.mem_of_get_memory found
    exact ⟨line, Code.mem_unresolved_iff.mpr ⟨code, member, left⟩⟩
  next => cases left

/-- No program can define a row of digits, and the names of the console are none. -/
theorem get?_symbols_of_isDigits {source : String} {listing : Listing}
    (listed : Lists source listing.statements) {token : String}
    (digits : Text.isDigits token.toList = true) : listing.symbols.get? token = none := by
  have free : Text.lowercase token ∉ labelsOf listing.statements := by
    intro defined
    rw [Text.isDigits_of_isName (listed.isName_of_mem defined)] at digits
    cases digits
  have other : ¬ IsConsoleName token := by
    intro console
    rw [Text.isDigits_of_isName console.isName] at digits
    cases digits
  rw [get?_symbols_of_not_mem free, if_neg other]

/-- A row of digits is emitted as its value, or left over as a name if it has none. -/
theorem operandAt_of_isDigits {source : String} {listing : Listing}
    (listed : Lists source listing.statements) {k : Nat} {entry : Nat × Statement} {token : String}
    (position : listing.statements[k]? = some entry) (written : entry.2.token = some token)
    (digits : Text.isDigits token.toList = true) :
    if Text.isNumeral token.toList then
      listing.code.memory.operandAt (k + 1) = some (.ofNumeral token) ∧
        ∀ line, (line, token) ∉ listing.code.unresolved
    else
      listing.code.memory.operandAt (k + 1) = some (.label token) ∧
        (entry.1, token) ∈ listing.code.unresolved := by
  rw [operandAt_of_statement position, written, Option.map_some]
  split
  next numeral =>
    refine ⟨congrArg some (Operand.ofToken_of_isNumeral numeral _), fun line reported => ?_⟩
    obtain ⟨-, -, -, letters, -⟩ := mem_unresolved_iff.mp reported
    rw [numeral] at letters
    cases letters
  next other =>
    have valueless : Text.isNumeral token.toList = false := Bool.eq_false_iff.mpr other
    have missing := get?_symbols_of_isDigits listed digits
    exact ⟨congrArg some (Operand.ofToken_eq_label_iff.mpr ⟨rfl, valueless, missing⟩),
      mem_unresolved_iff.mpr
        ⟨entry.2, List.mem_of_getElem? position, written, valueless, missing⟩⟩

/-- A name that is left over is a token of some statement, and no numeral. -/
theorem token_of_operandAt {source : String} {listing : Listing}
    (listed : Lists source listing.statements) {address : Nat} {name : String}
    (left : listing.code.memory.operandAt address = some (.label name)) :
    (∃ entry ∈ listing.statements, entry.2.token = some name) ∧
      (Text.isName name.toList = true ∨
        Text.isDigits name.toList = true ∧ Text.isNumeral name.toList = false) := by
  obtain ⟨number, reported⟩ := mem_unresolved_of_operandAt left
  obtain ⟨statement, member, written, letters, -⟩ := mem_unresolved_iff.mp reported
  refine ⟨⟨_, member, written⟩, ?_⟩
  obtain ⟨line, -, derived⟩ := (listed.mem_iff number statement).mp member
  cases Grammar.token_of_derives derived written with
  | digits nonempty decimal => exact .inr ⟨by simp [Text.isDigits, nonempty, decimal], letters⟩
  | name named => exact .inl named

/-- Digits and names are kept apart if all digits have a value, and only then. -/
theorem keepsDigits_iff {source : String} {listing : Listing}
    (listed : Lists source listing.statements) {loaded : Machine × Report}
    (memory : loaded.1.memory = listing.code.memory)
    (unresolved : loaded.2.unresolved = listing.code.unresolved) :
    KeepsDigits listing.statements loaded ↔
      ∀ entry ∈ listing.statements, ∀ token, entry.2.token = some token →
        Text.isDigits token.toList = true → Text.isNumeral token.toList = true := by
  constructor
  · intro keeps entry member token written digits
    obtain ⟨k, position⟩ := List.mem_iff_getElem?.mp member
    have operand := operandAt_of_isDigits listed position written digits
    split at operand
    next numeral => exact numeral
    next =>
      rw [← memory] at operand
      exact absurd operand.1 (keeps.operand k entry token position written digits token)
  · intro numerals
    have valued : ∀ k entry token, listing.statements[k]? = some entry →
        entry.2.token = some token → Text.isDigits token.toList = true →
        listing.code.memory.operandAt (k + 1) = some (.ofNumeral token) ∧
          ∀ line, (line, token) ∉ listing.code.unresolved := by
      intro k entry token position written digits
      have operand := operandAt_of_isDigits listed position written digits
      rwa [if_pos (numerals entry (List.mem_of_getElem? position) token written digits)] at operand
    constructor
    case operand =>
      intro k entry token position written digits name label
      rw [memory, (valued k entry token position written digits).1] at label
      exact Operand.ofNumeral_ne_label token name (Option.some.inj label)
    case unresolved =>
      intro entry member token written digits
      obtain ⟨k, position⟩ := List.mem_iff_getElem?.mp member
      rw [unresolved]
      exact (valued k entry token position written digits).2
    case label =>
      intro address name left
      rw [memory] at left
      obtain ⟨⟨entry, member, written⟩, named | ⟨digits, valueless⟩⟩ :=
        token_of_operandAt listed left
      · exact named
      · rw [numerals entry member name written digits] at valueless
        cases valueless

end Listing

/-! ### Loads -/

/-- Rows of ASCII digits stand for their value, as far as it is an address. All other rows of digits
are left over as names, so a load keeps digits and names apart if the source has no such row. -/
theorem digit_operands (machine : Machine) (source : String) :
    let loaded := machine.load source
    ∃ statements, Lists source statements ∧
      (KeepsDigits statements loaded ↔
        ∀ entry ∈ statements, ∀ token, entry.2.token = some token →
          Text.isDigits token.toList = true → Text.isNumeral token.toList = true) ∧
      (∀ k entry token, statements[k]? = some entry → entry.2.token = some token →
        Text.isDigits token.toList = true →
        if Text.isNumeral token.toList then
          loaded.1.memory.operandAt (k + 1) = some (.ofNumeral token) ∧
            ∀ line, (line, token) ∉ loaded.2.unresolved
        else
          loaded.1.memory.operandAt (k + 1) = some (.label token) ∧
            (entry.1, token) ∈ loaded.2.unresolved) ∧
      ∀ address name, loaded.1.memory.operandAt address = some (.label name) →
        Text.isName name.toList = true ∨
          Text.isDigits name.toList = true ∧ Text.isNumeral name.toList = false := by
  intro loaded
  have listed := Listing.lists_ofSource source
  have unfolded : loaded = _ := Machine.load_eq machine source
  rw [unfolded]
  generalize Listing.ofSource source = listing at listed
  refine ⟨listing.statements, listed, Listing.keepsDigits_iff listed rfl rfl, ?_, ?_⟩
  · intro k entry token position written digits
    exact Listing.operandAt_of_isDigits listed position written digits
  · intro address name left
    exact (Listing.token_of_operandAt listed left).2

/-- An Arabic-Indic digit three is taken for a name. -/
theorem digit_operands_arabic :
    let loaded := Machine.ofSource "lda \u0663\n"
    loaded.1.memory.operandAt 1 = some (.label "\u0663") ∧
      loaded.2.unresolved = [(1, "\u0663")] ∧
      ∃ statements, Lists "lda \u0663\n" statements ∧ ¬ KeepsDigits statements loaded := by
  intro loaded
  have operand : loaded.1.memory.operandAt 1 = some (.label "\u0663") := by decide +kernel
  refine ⟨operand, by decide +kernel, _, Listing.lists_ofSource _, fun keeps => ?_⟩
  have named := keeps.label 1 _ operand
  revert named
  decide

end Accumulator
