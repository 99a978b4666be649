import Accumulator.Console.Script
import Accumulator.Proofs.Assembly
import Accumulator.Proofs.Causes
import Accumulator.Proofs.History

/-!
# Where code and text come from

A cycle moves words between cells and registers and makes integers; nothing else reaches them but
the lines of the console and the names that stand as operands of `set`. A program may copy its own
code anywhere, so what is said of one cell has to be said of all cells and registers together
(`Machine.Hold`). `perform_hold` goes through the actions once, for every property that a machine
passes on (`Inherited`). Main statement: `after_genuine`.
-/
namespace Accumulator

/-- A property of words that a machine passes on, lines of the console apart. -/
structure Inherited (property : Word → Prop) : Prop where
  unset : property .unset
  integer : ∀ value, property (.integer value)
  label : ∀ code name, property (.instruction code) → code.operand = some (.label name) →
    property (.text name)

structure Registers.Hold (property : Word → Prop) (registers : Registers) : Prop where
  acc : property registers.acc
  ir : property registers.ir
  b : registers.b = .unset ∨ ∃ value, registers.b = .integer value

/-- All words that a machine could copy have the property, and B is no such word. -/
structure Machine.Hold (property : Word → Prop) (machine : Machine) : Prop where
  cell : ∀ address, property (machine.memory.get address)
  registers : machine.registers.Hold property

variable {κ : Type} {property : Word → Prop}

/-! ### Registers -/

namespace Registers

theorem hold_initial (inherited : Inherited property) : Hold property {} :=
  ⟨inherited.unset, inherited.unset, .inl rfl⟩

theorem accept_hold (inherited : Inherited property) {registers : Registers}
    (hold : registers.Hold property) (result : Except Cause Integer) :
    (registers.accept result).1.Hold property := by
  cases result with
  | error cause => exact hold
  | ok value => exact ⟨inherited.integer value, hold.ir, hold.b⟩

theorem combine_hold (inherited : Inherited property) {registers : Registers}
    (hold : registers.Hold property) (op : Arithmetic) (word : Word) :
    (registers.combine op word).1.Hold property := by
  unfold combine
  split
  · exact hold
  next b found =>
    have kept : Hold property { registers with b := .integer b } :=
      ⟨hold.acc, hold.ir, .inr ⟨b, rfl⟩⟩
    dsimp only
    split
    · exact kept
    · exact accept_hold inherited kept _

theorem adjust_hold (inherited : Inherited property) {registers : Registers}
    (hold : registers.Hold property) (op : Adjustment) :
    (registers.adjust op).1.Hold property := by
  unfold adjust
  split
  · exact hold
  · exact accept_hold inherited hold _

theorem goTo_hold {registers : Registers} (hold : registers.Hold property) (word : Word) :
    (registers.goTo word).1.Hold property := by
  unfold goTo
  split
  · exact hold
  · split
    · exact hold
    · exact ⟨hold.acc, hold.ir, hold.b⟩

end Registers

/-! ### Actions -/

theorem Answer.word_hold {memory : Memory} {source : Nat} {answer : Option Answer} {word : Word}
    (cell : property (memory.get source))
    (lines : ∀ line, Answer.heard answer = some line → property (.text line))
    (received : Answer.word memory source answer = .ok word) : property word := by
  unfold Answer.word at received
  split at received
  next line =>
    cases received
    exact lines line rfl
  next => cases received
  next => cases received
  next =>
    cases received
    exact cell
  next =>
    cases received
    exact cell

theorem Instruction.decode_assign {code : Instruction} {symbols : SymbolTable} {acc word : Word}
    (decoded : code.decode symbols acc = .ok (.assign word)) :
    (∃ value, word = .integer value) ∨
      ∃ name, code.operand = some (.label name) ∧ word = .text name := by
  cases decode_eq_ok_iff.mp decoded with
  | set _ found =>
    obtain ⟨opcode, operand⟩ := code
    rcases operand with _ | (address | name | digits)
    · cases found
    · obtain ⟨value, _, rfl⟩ := exists_of_map_eq_ok found
      exact .inl ⟨value, rfl⟩
    · cases found
      exact .inr ⟨name, rfl, rfl⟩
    · cases found

namespace Machine

theorem Hold.aim {machine : Machine} (hold : machine.Hold property) (address : Nat) :
    (machine.aim address).Hold property :=
  ⟨hold.cell, hold.registers.acc, hold.registers.ir, hold.registers.b⟩

theorem Hold.put {machine : Machine} (hold : machine.Hold property) (target : Nat) {word : Word}
    (has : property word) (address : Nat) : property ((machine.memory.put target word).get address) := by
  rw [Memory.get_put]
  split
  · exact has
  · exact hold.cell address

theorem Hold.settle {machine : Machine} (hold : machine.Hold property) (console : κ)
    (heard : Option String) {outcome : Registers × Option Cause}
    (registers : outcome.1.Hold property) :
    (machine.settle console heard outcome).machine.Hold property :=
  ⟨hold.cell, registers⟩

theorem enter_hold (inherited : Inherited property) {machine : Machine}
    (hold : machine.Hold property) (console : κ) (target : Nat) :
    (machine.enter console target).machine.Hold property := by
  unfold enter
  split
  · exact hold
  · split
    · exact hold
    · exact hold
    next back _ _ =>
      -- The only word written is the return address, an integer.
      exact ⟨hold.put target (inherited.integer back), hold.registers.acc, hold.registers.ir,
        hold.registers.b⟩

variable [Console κ]

theorem send_hold {machine : Machine} (hold : machine.Hold property) (console : κ) (target : Nat) :
    (machine.send console target).machine.Hold property := by
  by_cases console_cell : target = 0
  · subst console_cell
    rw [send_zero]
    exact hold
  · rw [send_of_ne_zero _ _ console_cell]
    split
    · exact hold
    · exact ⟨hold.put target hold.registers.acc, hold.registers⟩

theorem perform_hold (inherited : Inherited property) {machine : Machine}
    (hold : machine.Hold property) (console : κ) {action : Action}
    (assigned : ∀ word, action = .assign word → property word)
    (lines : ∀ line, (machine.perform console action).heard = some line → property (.text line)) :
    (machine.perform console action).machine.Hold property := by
  -- What was heard is what the console answered, in whichever way the action ends.
  rw [(perform_traffic machine console action).2] at lines
  cases action with
  | combine op source =>
    simp only [perform, receive_eq]
    split
    · exact hold.aim source
    · exact (hold.aim source).settle _ _
        (Registers.combine_hold inherited (hold.aim source).registers op _)
  | load source =>
    simp only [perform, receive_eq]
    split
    · exact hold.aim source
    next word received =>
      -- The one place where a line of the console gets into the accumulator.
      have has : property word := Answer.word_hold (hold.cell source) lines received
      exact (hold.aim source).settle _ _ ⟨has, hold.registers.ir, hold.registers.b⟩
  | store target => exact send_hold (hold.aim target) console target
  | call target => exact enter_hold inherited hold console target
  | adjust op =>
    exact hold.settle _ _ (Registers.adjust_hold inherited hold.registers op)
  | assign word =>
    exact hold.settle _ _ ⟨assigned word rfl, hold.registers.ir, hold.registers.b⟩
  | jump target =>
    exact hold.settle _ _ ⟨hold.registers.acc, hold.registers.ir, hold.registers.b⟩
  | jumpThrough cell =>
    exact (hold.aim cell).settle _ _ (Registers.goTo_hold (hold.aim cell).registers _)
  | skip => exact hold

/-! ### Cycles -/

theorem Hold.fetch {machine : Machine} (hold : machine.Hold property) :
    machine.fetch.Hold property :=
  ⟨hold.cell, hold.registers.acc, hold.cell machine.registers.pc, hold.registers.b⟩

theorem Hold.advance {machine : Machine} (hold : machine.Hold property) :
    machine.advance.Hold property :=
  ⟨hold.cell, hold.registers.acc, hold.registers.ir, hold.registers.b⟩

theorem Hold.halt {machine : Machine} (hold : machine.Hold property) :
    Hold property { machine with registers := { machine.registers with pc := 0 } } :=
  ⟨hold.cell, hold.registers.acc, hold.registers.ir, hold.registers.b⟩

/-- The words that a decoded instruction can put into the accumulator by itself. -/
theorem assigned_hold (inherited : Inherited property) {machine : Machine}
    (hold : machine.Hold property) {word : Word} (decided : machine.action? = .ok (.assign word)) :
    property word := by
  unfold action? at decided
  split at decided
  next code found =>
    rcases Instruction.decode_assign decided with ⟨value, rfl⟩ | ⟨name, operand, rfl⟩
    · exact inherited.integer value
    · exact inherited.label code name (found ▸ hold.cell machine.registers.pc) operand
  next => cases decided

theorem step_hold (inherited : Inherited property) {machine : Machine}
    (hold : machine.Hold property) (console : κ)
    (lines : ∀ line, (machine.step console).heard = some line → property (.text line)) :
    (machine.step console).machine.Hold property := by
  cases state : machine.isHalted with
  | true =>
    rw [step_of_halted state]
    exact hold
  | false =>
    cases decision : machine.action? with
    | error cause =>
      rw [step_of_error state decision]
      exact hold.fetch.halt
    | ok action =>
      rw [step_of_action state decision, Effect.finish_heard] at lines
      rw [step_of_action state decision]
      -- A fault after the action still leaves the words that the action moved.
      have kept := perform_hold inherited hold.fetch.advance console
        (fun word assign => assigned_hold inherited hold (assign ▸ decision)) lines
      cases failure : (machine.fetch.advance.perform console action).failure with
      | none =>
        rw [Effect.finish_of_success failure]
        exact kept
      | some cause =>
        rw [Effect.finish_of_failure failure]
        exact kept.halt

theorem Hold.imp {other : Word → Prop} {machine : Machine} (hold : machine.Hold property)
    (weaker : ∀ word, property word → other word) : machine.Hold other :=
  ⟨fun address => weaker _ (hold.cell address), weaker _ hold.registers.acc,
    weaker _ hold.registers.ir, hold.registers.b⟩

theorem Hold.poke {machine poked : Machine} (hold : machine.Hold property) {address : Nat}
    {word : Word} (has : property word) (written : machine.poke address word = .ok poked) :
    poked.Hold property := by
  obtain ⟨-, rfl⟩ := poke_eq_ok_iff.mp written
  exact ⟨hold.put address has, hold.registers.acc, hold.registers.ir, hold.registers.b⟩

theorem Hold.restart (inherited : Inherited property) {machine : Machine}
    (hold : machine.Hold property) : machine.restart.Hold property :=
  ⟨hold.cell, Registers.hold_initial inherited⟩

end Machine

/-! ### Loaded programs -/

/-- Words that a program got from its load or from the lines returned since, and words that need no
origin. -/
inductive Word.Genuine (program : Machine × Report) (returned : List String) : Word → Prop where
  | unset : Genuine program returned .unset
  | integer (value : Integer) : Genuine program returned (.integer value)
  | emitted {code : Instruction} {address : Nat} (positive : 0 < address)
      (inside : address ≤ program.2.loaded)
      (found : program.1.memory.get address = .instruction code) :
      Genuine program returned (.instruction code)
  | line {content : String} (member : content ∈ returned) : Genuine program returned (.text content)
  | name {content : String} {number : Nat} (unknown : (number, content) ∈ program.2.unresolved) :
      Genuine program returned (.text content)

/-- Is this a step, a run or a poke of an integer? -/
def Operation.SparesCode : Operation → Prop
  | .load _ => False
  | .poke _ word => ∃ value, word = .integer value
  | @step _ _ _ | @run _ _ _ _ => True

theorem Word.Genuine.of_subset {program : Machine × Report} {returned more : List String}
    {word : Word} (subset : returned ⊆ more) (genuine : word.Genuine program returned) :
    word.Genuine program more := by
  cases genuine with
  | unset => exact .unset
  | integer value => exact .integer value
  | emitted positive inside found => exact .emitted positive inside found
  | line member => exact .line (subset member)
  | name unknown => exact .name unknown

namespace Code

theorem mem_unresolved_iff {code : Code} {line : Nat} {name : String} :
    (line, name) ∈ code.unresolved ↔
      ∃ instruction, (line, instruction) ∈ code ∧ instruction.operand = some (.label name) := by
  simp only [unresolved, List.mem_filterMap, Prod.exists]
  constructor
  · rintro ⟨line, instruction, member, found⟩
    split at found
    next operand =>
      cases found
      exact ⟨instruction, member, operand⟩
    next => cases found
  · rintro ⟨instruction, member, operand⟩
    exact ⟨line, instruction, member, by rw [operand]⟩

/-- Every instruction in memory stands for a line of the program. -/
theorem mem_of_get_memory {code : Code} {address : Nat} {instruction : Instruction}
    (found : code.memory.get address = .instruction instruction) :
    0 < address ∧ address ≤ code.length ∧ ∃ line, (line, instruction) ∈ code := by
  cases address with
  | zero =>
    rw [get_memory_zero] at found
    cases found
  | succ k =>
    rw [get_memory_succ] at found
    cases listed : code[k]? with
    | none =>
      rw [listed] at found
      cases found
    | some entry =>
      rw [listed] at found
      obtain ⟨inside, _⟩ := List.getElem?_eq_some_iff.mp listed
      cases found
      exact ⟨Nat.succ_pos k, inside, entry.1, List.mem_of_getElem? listed⟩

theorem get_memory_cases (code : Code) (address : Nat) :
    code.memory.get address = .unset ∨
      ∃ instruction, code.memory.get address = .instruction instruction := by
  cases address with
  | zero => exact .inl code.get_memory_zero
  | succ k =>
    rw [get_memory_succ]
    cases code[k]? with
    | none => exact .inl rfl
    | some entry => exact .inr ⟨entry.2, rfl⟩

end Code

namespace Machine

theorem memory_ofSource (source : String) :
    (ofSource source).1.memory = (Listing.ofSource source).code.memory := by
  rw [ofSource, load_eq]

theorem loaded_ofSource (source : String) :
    (ofSource source).2.loaded = (Listing.ofSource source).code.length := by
  rw [ofSource, load_eq, Listing.length_code, Listing.image_eq]

theorem unresolved_ofSource (source : String) :
    (ofSource source).2.unresolved = (Listing.ofSource source).code.unresolved := by
  rw [ofSource, load_eq, Listing.image_eq]

theorem genuine_inherited (source : String) (returned : List String) :
    Inherited (Word.Genuine (ofSource source) returned) where
  unset := .unset
  integer := .integer
  label code name genuine operand := by
    cases genuine with
    | emitted _ _ found =>
      rw [memory_ofSource] at found
      obtain ⟨_, _, line, member⟩ := Code.mem_of_get_memory found
      have unknown := Code.mem_unresolved_iff.mpr ⟨code, member, operand⟩
      rw [← unresolved_ofSource] at unknown
      exact .name unknown

theorem ofSource_hold (source : String) :
    (ofSource source).1.Hold (Word.Genuine (ofSource source) []) where
  cell address := by
    rcases (Listing.ofSource source).code.get_memory_cases address with empty | ⟨code, found⟩
    · rw [memory_ofSource, empty]
      exact .unset
    · obtain ⟨positive, inside, _⟩ := Code.mem_of_get_memory found
      rw [← loaded_ofSource] at inside
      rw [← memory_ofSource] at found
      rw [found]
      exact .emitted positive inside found
  registers := Registers.hold_initial (genuine_inherited source [])

theorem genuine_preserved (source : String) :
    Preserved Operation.SparesCode fun returned machine =>
      machine.Hold (Word.Genuine (ofSource source) returned) where
  -- A second load would bring code of another program.
  load _ _ _ reload := reload.elim
  poke returned machine address word poked integral written hold := by
    obtain ⟨value, rfl⟩ := integral
    exact hold.poke (.integer value) written
  restart returned machine hold := hold.restart (genuine_inherited source returned)
  step returned machine console hold := by
    -- The lines heard in this step count as returned for all words at once.
    apply step_hold (genuine_inherited source _)
    · exact hold.imp fun word => Word.Genuine.of_subset (List.subset_append_left _ _)
    · intro line heard
      rw [heard]
      exact .line (List.mem_append_right _ (List.mem_singleton_self line))

/-- Code and text are never forged: after steps, runs and pokes of integers in any order, code is
code that was loaded, and text was read from a console or stands as an unknown name in the program. -/
theorem after_genuine (source : String) (operations : List Operation)
    (permitted : ∀ operation ∈ operations, operation.SparesCode) :
    ((ofSource source).1.after operations).Hold
      (Word.Genuine (ofSource source) ((ofSource source).1.returned operations)) :=
  (genuine_preserved source).after operations permitted _ (ofSource_hold source)

/-- A program that copies its first instruction, keeps an unknown name and reads a line. -/
theorem after_genuine_copy :
    let source := "lda 1\nsta 20\nset hello\nsta 21\nlda stdin\nhlt"
    let operations : List Operation :=
      [.poke 30 (.integer 3), .run 10 ({ input := ["7"] } : Script), .step ({} : Script)]
    let machine := (ofSource source).1.after operations
    let returned := (ofSource source).1.returned operations
    machine.memory.get 20 = .instruction ⟨.lda, some (.literal 1)⟩ ∧
      machine.memory.get 21 = .text "hello" ∧ machine.registers.acc = .text "7" ∧
      returned = ["7"] ∧ machine.Hold (Word.Genuine (ofSource source) returned) := by
  refine ⟨by decide +kernel, by decide +kernel, by decide +kernel, by decide +kernel,
    after_genuine _ _ ?_⟩
  simp [Operation.SparesCode]

end Machine

end Accumulator
