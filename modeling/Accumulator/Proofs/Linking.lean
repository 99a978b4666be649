import Accumulator.Proofs.Labels
import Accumulator.Proofs.Lines

/-!
# Sources put together

Two sources that do not use each other's labels can be assembled apart and put together afterwards.
The lines of the second come behind those of the first and its statements behind those of the first,
so its line numbers and its addresses are raised, each by an amount of their own. An operand moves
only if it is a label of the second source: a literal stays where it is, and so does the console.
Main statement: `assemble_append`.
-/
namespace Accumulator

/-- The operands of the statements as they are written, in lower case. -/
def tokensOf (statements : List (Nat × Statement)) : List String :=
  statements.filterMap fun entry => entry.2.token.map Text.lowercase

/-- Does neither list of statements use a name that the other one defines? -/
structure Apart (first second : List (Nat × Statement)) : Prop where
  ofFirst : ∀ name ∈ labelsOf first, name ∉ labelsOf second ∧ name ∉ tokensOf second
  ofSecond : ∀ name ∈ labelsOf second, name ∉ labelsOf first ∧ name ∉ tokensOf first

/-- Is the operand of the statement one of these names? -/
def Statement.RefersTo (statement : Statement) (names : List String) : Prop :=
  ∃ token, statement.token = some token ∧ Text.lowercase token ∈ names

/-- What the image of two sources has to be. The second has these statements, and the first has this
many lines. -/
structure Linked (statements : List (Nat × Statement)) (lines : Nat) (first second whole : Image) :
    Prop where
  loaded : whole.report.loaded = first.report.loaded + second.report.loaded
  skipped : whole.report.skipped = first.report.skipped ++ second.report.skipped.map (· + lines)
  unresolved : whole.report.unresolved = first.report.unresolved ++
    second.report.unresolved.map fun (line, name) => (line + lines, name)
  outOfRange : whole.report.outOfRange = first.report.outOfRange ++
    second.report.outOfRange.map fun (line, digits) => (line + lines, digits)
  size : whole.memory.size = first.memory.size + second.report.loaded
  front : ∀ address < first.memory.size, whole.memory.get address = first.memory.get address
  moved : ∀ k entry, statements[k]? = some entry → entry.2.RefersTo (labelsOf statements) →
    ∃ opcode address, second.memory.get (k + 1) = .instruction ⟨opcode, some (.literal address)⟩ ∧
      whole.memory.get (first.report.loaded + (k + 1)) =
        .instruction ⟨opcode, some (.literal (address + first.report.loaded))⟩
  kept : ∀ k entry, statements[k]? = some entry → ¬ entry.2.RefersTo (labelsOf statements) →
    whole.memory.get (first.report.loaded + (k + 1)) = second.memory.get (k + 1)
  label : ∀ name, Text.lowercase name ∈ labelsOf statements →
    ∃ address, second.symbols.get? name = some address ∧
      whole.symbols.get? name = some (address + first.report.loaded)
  other : ∀ name, Text.lowercase name ∉ labelsOf statements →
    whole.symbols.get? name = first.symbols.get? name

theorem mem_tokensOf {statements : List (Nat × Statement)} {entry : Nat × Statement}
    {token : String} (member : entry ∈ statements) (written : entry.2.token = some token) :
    Text.lowercase token ∈ tokensOf statements :=
  List.mem_filterMap.mpr ⟨entry, member, by rw [written, Option.map_some]⟩

/-! ### What the reports select -/

/-- The name that was left over for the operand, if one was. -/
def Operand.name? : Operand → Option String
  | .label name => some name
  | _ => none

/-- The digits of an operand that is too large. -/
def Operand.digits? : Operand → Option String
  | .outOfRange digits => some digits
  | _ => none

namespace Code

/-- What a function of operands selects from an instruction, with its line. -/
def selected (select : Operand → Option String) (entry : Nat × Instruction) :
    Option (Nat × String) :=
  (entry.2.operand.bind select).map (Prod.mk entry.1)

theorem unresolved_eq (code : Code) : code.unresolved = code.filterMap (selected Operand.name?) := by
  apply List.filterMap_congr
  rintro ⟨line, opcode, operand⟩ -
  rcases operand with _ | (_ | _ | _) <;> rfl

theorem outOfRange_eq (code : Code) :
    code.outOfRange = code.filterMap (selected Operand.digits?) := by
  apply List.filterMap_congr
  rintro ⟨line, opcode, operand⟩ -
  rcases operand with _ | (_ | _ | _) <;> rfl

end Code

/-! ### Listings put together -/

theorem zipIdx_add {α : Type} (xs : List α) (start amount : Nat) :
    xs.zipIdx (start + amount) = (xs.zipIdx start).map fun (x, k) => (x, k + amount) := by
  induction xs generalizing start with
  | nil => rfl
  | cons x xs ih =>
    have next : start + amount + 1 = start + 1 + amount := by omega
    rw [List.zipIdx_cons, List.zipIdx_cons, List.map_cons, next, ih]

namespace Listing

/-- The listing with its line numbers raised. -/
def raise (listing : Listing) (amount : Nat) : Listing where
  statements := listing.statements.map fun (line, statement) => (line + amount, statement)
  malformed := listing.malformed.map (· + amount)

/-- One listing behind another. -/
def append (first second : Listing) : Listing where
  statements := first.statements ++ second.statements
  malformed := first.malformed ++ second.malformed

theorem ofLines_add (lines : List Line) (number amount : Nat) :
    ofLines lines (number + amount) = (ofLines lines number).raise amount := by
  rw [ofLines, zipIdx_add, List.filterMap_map, List.filterMap_map, raise, ofLines,
    List.map_filterMap, List.map_filterMap, Listing.mk.injEq]
  constructor
  · apply List.filterMap_congr
    rintro ⟨line, number⟩ -
    cases line <;> rfl
  · apply List.filterMap_congr
    rintro ⟨line, number⟩ -
    cases line <;> rfl

theorem ofLines_append_number (first second : List Line) (number : Nat) :
    ofLines (first ++ second) number =
      (ofLines first number).append (ofLines second (number + first.length)) := by
  rw [ofLines, List.zipIdx_append, List.filterMap_append, List.filterMap_append]
  rfl

theorem ofLines_append (first second : List Line) (number : Nat) :
    ofLines (first ++ second) number =
      (ofLines first number).append ((ofLines second number).raise first.length) := by
  rw [ofLines_append_number, ofLines_add]

/-- A line in front raises the numbers of the others. -/
theorem ofLines_cons (line : Line) (lines : List Line) (number : Nat) :
    ofLines (line :: lines) number =
      (ofLines [line] number).append ((ofLines lines number).raise 1) :=
  ofLines_append [line] lines number

/-- A line feed, or nothing, in front of the second source keeps its first line apart. -/
theorem ofSource_append {first second : String}
    (ended : first = "" ∨ first.toList.getLast? = some '\n') :
    ofSource (first ++ second) =
      (ofSource first).append ((ofSource second).raise (Text.lines first.toList).length) := by
  have terminated : first.toList = [] ∨ first.toList.getLast? = some '\n' :=
    ended.imp_left fun empty => by rw [empty]; rfl
  rw [ofSource, String.toList_append, Text.lines_append terminated, List.map_append, ofLines_append,
    List.length_map]
  rfl

/-! ### The labels of both -/

theorem defineLabels_append (first second : List (Nat × Statement)) (address : Nat)
    (table : SymbolTable) :
    defineLabels (first ++ second) address table =
      defineLabels second (address + first.length) (defineLabels first address table) := by
  rw [defineLabels, List.zipIdx_append, List.foldl_append]
  rfl

theorem defineLabels_raise (listing : Listing) (amount address : Nat) (table : SymbolTable) :
    defineLabels (listing.raise amount).statements address table =
      defineLabels listing.statements address table := by
  apply defineLabels_congr
  rw [raise, List.map_map]
  rfl

theorem symbols_append (first second : Listing) (amount : Nat) :
    (first.append (second.raise amount)).symbols =
      defineLabels second.statements (1 + first.statements.length) first.symbols := by
  rw [symbols, append, defineLabels_append, defineLabels_raise]
  rfl

/-- A label of the second listing is raised by the statements of the first. -/
theorem get?_symbols_append_of_mem (first : Listing) {second : Listing} (amount : Nat)
    {name : String} (defined : Text.lowercase name ∈ labelsOf second.statements) :
    ∃ address, second.symbols.get? name = some address ∧
      (first.append (second.raise amount)).symbols.get? name =
        some (address + first.statements.length) := by
  obtain ⟨k, definition⟩ := exists_definedLast defined
  refine ⟨k + 1, get?_symbols_of_definedLast definition, ?_⟩
  rw [symbols_append, definition.get?_defineLabels]
  congr 1
  omega

theorem get?_symbols_append_of_not_mem (first : Listing) {second : Listing} (amount : Nat)
    {name : String} (free : Text.lowercase name ∉ labelsOf second.statements) :
    (first.append (second.raise amount)).symbols.get? name = first.symbols.get? name := by
  rw [symbols_append, get?_defineLabels_of_none (not_mem_labelsOf_iff.mp free)]

/-! ### The instructions of both -/

variable {first second : Listing} (amount : Nat)

theorem get_memory_append_second {k : Nat} {entry : Nat × Statement}
    (position : second.statements[k]? = some entry) :
    (first.append (second.raise amount)).code.memory.get (first.statements.length + (k + 1)) =
      .instruction (Instruction.ofStatement (first.append (second.raise amount)).symbols entry.2) := by
  have behind : (first.append (second.raise amount)).statements[first.statements.length + k]? =
      some (entry.1 + amount, entry.2) := by
    rw [append, List.getElem?_append_right (Nat.le_add_right _ _), Nat.add_sub_cancel_left, raise,
      List.getElem?_map, position, Option.map_some]
  exact (get_memory_of_statement behind).trans rfl

variable (apart : Apart first.statements second.statements)

include apart

theorem ofStatement_append_first {entry : Nat × Statement} (member : entry ∈ first.statements) :
    Instruction.ofStatement (first.append (second.raise amount)).symbols entry.2 =
      Instruction.ofStatement first.symbols entry.2 := by
  rw [Instruction.ofStatement, Instruction.ofStatement, Instruction.mk.injEq]
  refine ⟨rfl, Option.map_congr fun token written => ?_⟩
  have free : Text.lowercase token ∉ labelsOf second.statements := fun defined =>
    (apart.ofSecond _ defined).2 (mem_tokensOf member written)
  rw [Operand.ofToken, get?_symbols_append_of_not_mem first amount free, Operand.ofToken]

/-- An operand of the second listing is one of its labels, or it means the same without the first. -/
theorem ofToken_append_second {source : String} (listed : Lists source second.statements)
    {entry : Nat × Statement} (member : entry ∈ second.statements) {token : String}
    (written : entry.2.token = some token) :
    (Text.lowercase token ∈ labelsOf second.statements ∧
        ∃ address, Operand.ofToken second.symbols token = .literal address ∧
          Operand.ofToken (first.append (second.raise amount)).symbols token =
            .literal (address + first.statements.length)) ∨
      Text.lowercase token ∉ labelsOf second.statements ∧
        Operand.ofToken (first.append (second.raise amount)).symbols token =
          Operand.ofToken second.symbols token := by
  by_cases defined : Text.lowercase token ∈ labelsOf second.statements
  · obtain ⟨address, own, raised⟩ := get?_symbols_append_of_mem first amount defined
    have letters := natural?_eq_none (Text.isNumeral_of_isName (listed.isName_of_mem defined))
    refine .inl ⟨defined, address, ?_, ?_⟩
    · rw [Operand.ofToken, letters, own]
    · rw [Operand.ofToken, letters, raised]
  · -- Neither listing defines the name, so it is looked up among those of the console in both.
    have free : Text.lowercase token ∉ labelsOf first.statements := fun other =>
      (apart.ofFirst _ other).2 (mem_tokensOf member written)
    refine .inr ⟨defined, ?_⟩
    rw [Operand.ofToken, get?_symbols_append_of_not_mem first amount defined,
      get?_symbols_of_not_mem free, Operand.ofToken, get?_symbols_of_not_mem defined]

theorem code_append :
    (first.append (second.raise amount)).code = first.code ++ second.statements.map fun entry =>
      (entry.1 + amount,
        Instruction.ofStatement (first.append (second.raise amount)).symbols entry.2) := by
  have front : first.code = first.statements.map fun entry =>
      (entry.1, Instruction.ofStatement (first.append (second.raise amount)).symbols entry.2) :=
    List.map_congr_left fun entry member => by
      rw [ofStatement_append_first amount apart member]
  rw [front, code]
  simp only [append, raise, List.map_append, List.map_map]
  rfl

/-- What a report selects by operand moves with its lines, if it does not look at addresses. -/
theorem filterMap_code_append {source : String} (listed : Lists source second.statements)
    (select : Operand → Option String) (blind : ∀ address, select (.literal address) = none) :
    (first.append (second.raise amount)).code.filterMap (Code.selected select) =
      first.code.filterMap (Code.selected select) ++
        (second.code.filterMap (Code.selected select)).map
          fun (line, found) => (line + amount, found) := by
  have own : second.code = second.statements.map fun entry =>
      (entry.1, Instruction.ofStatement second.symbols entry.2) := rfl
  rw [code_append amount apart, List.filterMap_append, List.filterMap_map, List.map_filterMap, own,
    List.filterMap_map]
  congr 1
  -- In the second part a statement selects what it selected alone: an operand that is another one
  -- now was, and is, a literal, and literals are not selected.
  apply List.filterMap_congr
  rintro ⟨line, statement⟩ member
  simp only [Function.comp_apply, Code.selected, Instruction.ofStatement]
  cases written : statement.token with
  | none => rfl
  | some token =>
    rcases ofToken_append_second amount apart listed member written with
      ⟨-, address, own, raised⟩ | ⟨-, same⟩
    · simp only [Option.map_some, Option.bind_some, own, raised, blind, Option.map_none]
    · simp only [Option.map_some, Option.bind_some, same, Option.map_map]
      rfl

theorem unresolved_append {source : String} (listed : Lists source second.statements) :
    (first.append (second.raise amount)).code.unresolved = first.code.unresolved ++
      second.code.unresolved.map fun (line, name) => (line + amount, name) := by
  rw [Code.unresolved_eq, Code.unresolved_eq, Code.unresolved_eq]
  exact filterMap_code_append amount apart listed Operand.name? fun _ => rfl

theorem outOfRange_append {source : String} (listed : Lists source second.statements) :
    (first.append (second.raise amount)).code.outOfRange = first.code.outOfRange ++
      second.code.outOfRange.map fun (line, digits) => (line + amount, digits) := by
  rw [Code.outOfRange_eq, Code.outOfRange_eq, Code.outOfRange_eq]
  exact filterMap_code_append amount apart listed Operand.digits? fun _ => rfl

theorem get_memory_append_first {address : Nat} (inside : address < first.code.memory.size) :
    (first.append (second.raise amount)).code.memory.get address =
      first.code.memory.get address := by
  rw [Code.size_memory] at inside
  cases address with
  | zero => rw [Code.get_memory_zero, Code.get_memory_zero]
  | succ k =>
    rw [Code.get_memory_succ, Code.get_memory_succ, code_append amount apart,
      List.getElem?_append_left (by omega)]

end Listing

/-- Sources that do not use each other's labels assemble apart: put together they give the image of
the first and, behind it, the image of the second with its lines and its own labels raised. -/
theorem assemble_append {first second : String}
    (ended : first = "" ∨ first.toList.getLast? = some '\n')
    (apart : Apart (Listing.ofSource first).statements (Listing.ofSource second).statements) :
    Linked (Listing.ofSource second).statements (Text.lines first.toList).length
      (assemble first) (assemble second) (assemble (first ++ second)) := by
  have listed := Listing.lists_ofSource second
  rw [assemble, assemble, assemble, Listing.ofSource_append ended]
  generalize Listing.ofSource first = front at apart
  generalize Listing.ofSource second = back at apart listed
  generalize (Text.lines first.toList).length = lines
  simp only [Listing.image_eq]
  constructor
  case loaded => simp [Listing.append, Listing.raise]
  case skipped => rfl
  case unresolved => exact Listing.unresolved_append lines apart listed
  case outOfRange => exact Listing.outOfRange_append lines apart listed
  case size =>
    rw [Code.size_memory, Code.size_memory, Listing.length_code, Listing.length_code]
    simp only [Listing.append, Listing.raise, List.length_append, List.length_map]
    omega
  case front => exact fun address inside => Listing.get_memory_append_first lines apart inside
  case moved =>
    rintro k entry position ⟨token, written, own⟩
    have member := List.mem_of_getElem? position
    rw [Listing.get_memory_append_second lines position,
      Listing.get_memory_of_statement position, Instruction.ofStatement, Instruction.ofStatement,
      written, Option.map_some, Option.map_some]
    rcases Listing.ofToken_append_second lines apart listed member written with
      ⟨-, address, before, after⟩ | ⟨free, -⟩
    · exact ⟨entry.2.opcode, address, by rw [before], by rw [after]⟩
    · exact absurd own free
  case kept =>
    intro k entry position free
    have member := List.mem_of_getElem? position
    rw [Listing.get_memory_append_second lines position,
      Listing.get_memory_of_statement position, Instruction.ofStatement, Instruction.ofStatement]
    cases written : entry.2.token with
    | none => rfl
    | some token =>
      rcases Listing.ofToken_append_second lines apart listed member written with
        ⟨own, -⟩ | ⟨-, same⟩
      · exact absurd ⟨token, written, own⟩ free
      · rw [Option.map_some, Option.map_some, same]
  case label => exact fun name defined => Listing.get?_symbols_append_of_mem front lines defined
  case other => exact fun name free => Listing.get?_symbols_append_of_not_mem front lines free

/-- A loop and a malformed line, and behind them a literal, the console, a label of its own and a
name that is left over. -/
theorem assemble_append_loops :
    let first := "again, dec\n?\nbrp AGAIN\n"
    let second := "next, lda STDIN\nadd 5\nbrz Next\nset other"
    let whole := assemble (first ++ second)
    Linked (Listing.ofSource second).statements 3 (assemble first) (assemble second) whole ∧
      whole.report = ⟨6, [2], [(7, "other")], []⟩ ∧
      whole.symbols.get? "again" = some 1 ∧ whole.symbols.get? "next" = some 3 ∧
      whole.memory.get 3 = .instruction ⟨.lda, some (.literal 0)⟩ ∧
      whole.memory.get 4 = .instruction ⟨.add, some (.literal 5)⟩ ∧
      whole.memory.get 5 = .instruction ⟨.brz, some (.literal 3)⟩ := by
  intro first second whole
  have ended : first = "" ∨ first.toList.getLast? = some '\n' := by decide
  have apart : Apart (Listing.ofSource first).statements (Listing.ofSource second).statements :=
    ⟨by decide +kernel, by decide +kernel⟩
  have lines : (Text.lines first.toList).length = 3 := by decide
  have linked := assemble_append ended apart
  rw [lines] at linked
  exact ⟨linked, by decide +kernel⟩

end Accumulator
