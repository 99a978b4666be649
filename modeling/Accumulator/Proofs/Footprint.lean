import Accumulator.Proofs.Subroutines

/-!
# The cells that a cycle reads and writes

A cycle reads the cell that it fetches from and at most one more, and it writes to at most one cell.
What is in the cells that it reads is all that it learns of the memory, so the same cycle takes place
on every memory with the same words there, and the same word is written in the end
(`step_withMemory`). In a row of cycles, a cell that one cycle has written may be read by the later
ones. So two machines go through the same row if they agree on the cells that are read before they
are written. Main statement: `Agree.sameCycle`.
-/
namespace Accumulator

variable {κ : Type}

/-- The operations that read the cell that their operand stands for. -/
def Opcode.readers : List Opcode := [.lda, .add, .sub, .mlt, .div, .bri]

/-- The operations that write to the cell that their operand stands for. -/
def Opcode.writers : List Opcode := [.sta, .brs]

namespace Action

/-- The cell that the action reads. Where data is moved, address 0 is no cell but the console. -/
def source? : Action → Option Nat
  | .combine _ source | .load source => if source = 0 then none else some source
  | .jumpThrough cell => some cell
  | .adjust _ | .assign _ | .store _ | .jump _ | .call _ | .skip => none

/-- The word that the action writes and the cell that it writes it to, given the accumulator and the
address of the next instruction. -/
def write? (acc : Word) (next : Nat) : Action → Option (Nat × Word)
  | .store target =>
    if target = 0 ∨ (Memory.refusal? target).isSome then none else some (target, acc)
  | .call target =>
    if target = 0 then none
    else
      match narrow next, Memory.refusal? target with
      | .ok back, none => some (target, .integer back)
      | _, _ => none
  | .combine _ _ | .adjust _ | .assign _ | .load _ | .jump _ | .jumpThrough _ | .skip => none

end Action

/-! ### Memories -/

namespace Memory

/-- The memory with a word written to a cell, if there is one to write. -/
def commit (memory : Memory) : Option (Nat × Word) → Memory
  | none => memory
  | some (target, word) => memory.put target word

theorem get_commit_congr {left right : Memory} {write : Option (Nat × Word)} {address : Nat}
    (known : right.get address = left.get address ∨ ∃ word, write = some (address, word)) :
    (right.commit write).get address = (left.commit write).get address := by
  cases write with
  | none =>
    rcases known with same | ⟨word, written⟩
    · exact same
    · cases written
  | some entry =>
    simp only [commit, get_put]
    split
    · rfl
    next elsewhere =>
      rcases known with same | ⟨word, written⟩
      · exact same
      · cases written
        exact absurd rfl elsewhere

theorem size_commit_congr {left right : Memory} (same : right.size = left.size)
    (write : Option (Nat × Word)) : (right.commit write).size = (left.commit write).size := by
  cases write with
  | none => exact same
  | some entry => rw [commit, commit, size_put, size_put, same]

theorem ext_get {left right : Memory} (sizes : left.size = right.size)
    (cells : ∀ address, left.get address = right.get address) : left = right := by
  have same : left.cells = right.cells := by
    refine Array.ext sizes fun address inside_left inside_right => ?_
    simpa [get, inside_left, inside_right] using cells address
  cases left
  cases right
  cases same
  rfl

end Memory

/-! ### Other memories -/

/-- The machine with another memory. -/
def Machine.withMemory (machine : Machine) (memory : Memory) : Machine := { machine with memory }

@[simp] theorem Machine.memory_withMemory (machine : Machine) (memory : Memory) :
    (machine.withMemory memory).memory = memory := rfl

@[simp] theorem Machine.symbols_withMemory (machine : Machine) (memory : Memory) :
    (machine.withMemory memory).symbols = machine.symbols := rfl

@[simp] theorem Machine.registers_withMemory (machine : Machine) (memory : Memory) :
    (machine.withMemory memory).registers = machine.registers := rfl

@[simp] theorem Machine.isHalted_withMemory (machine : Machine) (memory : Memory) :
    (machine.withMemory memory).isHalted = machine.isHalted := rfl

def Effect.withMemory (effect : Effect κ) (memory : Memory) : Effect κ :=
  { effect with machine := effect.machine.withMemory memory }

def Cycle.withMemory (cycle : Cycle κ) (memory : Memory) : Cycle κ :=
  { cycle with machine := cycle.machine.withMemory memory }

theorem Effect.finish_withMemory (effect : Effect κ) (memory : Memory) (address : Nat) :
    (effect.withMemory memory).finish address = (effect.finish address).withMemory memory := by
  obtain ⟨machine, console, heard, failure⟩ := effect
  cases failure <;> rfl

namespace Machine

theorem enter_withMemory (machine : Machine) (console : κ) (target : Nat) (memory : Memory) :
    (machine.withMemory memory).enter console target =
      (machine.enter console target).withMemory
        (memory.commit ((Action.call target).write? machine.registers.acc
          machine.registers.pc)) := by
  by_cases console_cell : target = 0
  · simp only [enter, Action.write?, if_pos console_cell]
    rfl
  · simp only [enter, Action.write?, if_neg console_cell, registers_withMemory]
    cases narrow machine.registers.pc with
    | error cause => rfl
    | ok back => cases Memory.refusal? target <;> rfl

variable [Console κ]

theorem send_withMemory (machine : Machine) (console : κ) (target : Nat) (memory : Memory) :
    (machine.withMemory memory).send console target =
      (machine.send console target).withMemory
        (memory.commit ((Action.store target).write? machine.registers.acc
          machine.registers.pc)) := by
  by_cases console_cell : target = 0
  · subst console_cell
    rw [send_zero, send_zero]
    rfl
  · rw [send_of_ne_zero _ _ console_cell, send_of_ne_zero _ _ console_cell, Action.write?]
    cases Memory.refusal? target with
    | none => simp [console_cell]; rfl
    | some cause => simp [console_cell]; rfl

theorem receive_congr {memory other : Memory} {source : Nat}
    (seen : source ≠ 0 → other.get source = memory.get source) (console : κ) :
    receive other console source = receive memory console source := by
  by_cases console_cell : source = 0
  · simp only [receive, if_pos console_cell]
  · simp only [receive, if_neg console_cell, seen console_cell]

/-- An action that finds the same word in the cell that it reads does the same. -/
theorem perform_withMemory (machine : Machine) (console : κ) {action : Action} {memory : Memory}
    (seen : ∀ cell, action.source? = some cell → memory.get cell = machine.memory.get cell) :
    (machine.withMemory memory).perform console action =
      (machine.perform console action).withMemory
        (memory.commit (action.write? machine.registers.acc machine.registers.pc)) := by
  cases action with
  | combine op source =>
    have received : receive memory console source = receive machine.memory console source :=
      receive_congr (fun cell => seen source (if_neg cell)) console
    simp only [perform, memory_withMemory, received]
    split <;> rfl
  | load source =>
    have received : receive memory console source = receive machine.memory console source :=
      receive_congr (fun cell => seen source (if_neg cell)) console
    simp only [perform, memory_withMemory, received]
    split <;> rfl
  | store target => exact send_withMemory (machine.aim target) console target memory
  | call target => exact enter_withMemory machine console target memory
  | jumpThrough cell =>
    have word : ((machine.withMemory memory).aim cell).memory.get cell =
        (machine.aim cell).memory.get cell := seen cell rfl
    simp only [perform, word]
    rfl
  | adjust | assign | jump | skip => rfl

/-- An action that is to write to a cell and does not fail writes there. -/
theorem exists_write_of_success {machine : Machine} {console : κ} {action : Action} {cell : Nat}
    (positive : 1 ≤ cell) (writes : action.target? = some cell)
    (done : (machine.perform console action).failure = none) :
    ∃ word, action.write? machine.registers.acc machine.registers.pc = some (cell, word) := by
  have inside : cell ≠ 0 := by omega
  cases action with
  | store target =>
    cases writes
    rw [perform, send_of_ne_zero _ _ inside] at done
    cases accepted : Memory.refusal? cell with
    | some cause => simp [accepted] at done
    | none => exact ⟨_, by simp [Action.write?, inside, accepted]; rfl⟩
  | call target =>
    cases writes
    rw [perform, enter, if_neg inside] at done
    cases narrowed : narrow machine.registers.pc with
    | error cause => simp [narrowed] at done
    | ok back =>
      cases accepted : Memory.refusal? cell with
      | some cause => simp [narrowed, accepted] at done
      | none => exact ⟨_, by simp [Action.write?, inside, narrowed, accepted]; rfl⟩
  | combine | adjust | assign | load | jump | jumpThrough | skip => cases writes

end Machine

/-! ### Reads and writes of a cycle -/

/-- Only six operations read a cell that their operand stands for. -/
theorem Instruction.reader_of_source {symbols : SymbolTable} {code : Instruction} {acc : Word}
    {action : Action} {cell : Nat} (decoded : code.decode symbols acc = .ok action)
    (reads : action.source? = some cell) :
    code.opcode ∈ Opcode.readers ∧ code.resolve symbols = .ok cell := by
  cases decode_eq_ok_iff.mp decoded with
  | @combine op source opcode resolved =>
    obtain ⟨-, same⟩ := Option.ite_none_left_eq_some.mp reads
    cases same
    exact ⟨by rw [opcode]; cases op <;> decide, resolved⟩
  | lda opcode resolved =>
    obtain ⟨-, same⟩ := Option.ite_none_left_eq_some.mp reads
    cases same
    exact ⟨by rw [opcode]; decide, resolved⟩
  | bri opcode resolved =>
    cases reads
    exact ⟨by rw [opcode]; decide, resolved⟩
  | adjust | set | sta | br | brp | brpSkip | brz | brzSkip | brs | hlt | noop => cases reads

namespace Machine

/-- Does the next cycle fetch from this cell or read it for its operand? -/
def Reads (machine : Machine) (cell : Nat) : Prop :=
  machine.isHalted = false ∧
    (machine.registers.pc = cell ∨ ∃ opcode ∈ Opcode.readers, machine.Executes opcode cell)

instance (machine : Machine) (cell : Nat) : Decidable (machine.Reads cell) :=
  inferInstanceAs (Decidable (_ ∧ _))

/-- The word that the next cycle writes and the cell that it writes it to. -/
def write? (machine : Machine) : Option (Nat × Word) :=
  if machine.isHalted then none
  else
    match machine.action? with
    | .ok action => action.write? machine.registers.acc (machine.registers.pc + 1)
    | .error _ => none

theorem write?_of_action {machine : Machine} {action : Action} (running : machine.isHalted = false)
    (decided : machine.action? = .ok action) :
    machine.write? = action.write? machine.registers.acc (machine.registers.pc + 1) := by
  simp [write?, running, decided]

theorem reads_of_source {machine : Machine} {action : Action} {cell : Nat}
    (running : machine.isHalted = false) (decided : machine.action? = .ok action)
    (reads : action.source? = some cell) : machine.Reads cell := by
  obtain ⟨code, found, decoded⟩ := action?_eq_ok_iff.mp decided
  obtain ⟨reader, resolved⟩ := Instruction.reader_of_source decoded reads
  exact ⟨running, .inr ⟨code.opcode, reader, running, code, fetched?_eq_some_iff.mpr found, rfl,
    resolved⟩⟩

theorem action?_withMemory {machine : Machine} {memory : Memory}
    (fetched : memory.get machine.registers.pc = machine.memory.get machine.registers.pc) :
    (machine.withMemory memory).action? = machine.action? := by
  unfold action?
  rw [← fetched]
  rfl

theorem call?_withMemory {machine : Machine} {memory : Memory}
    (seen : ∀ cell, machine.Reads cell → memory.get cell = machine.memory.get cell) :
    (machine.withMemory memory).call? = machine.call? := by
  have halt := machine.isHalted_withMemory memory
  cases state : machine.isHalted with
  | true => rw [call?_of_halted (halt.trans state), call?_of_halted state]
  | false =>
    have decision := action?_withMemory (seen _ ⟨state, .inl rfl⟩)
    cases decided : machine.action? with
    | error cause => rw [call?_of_error (decision.trans decided), call?_of_error decided]
    | ok action =>
      rw [call?_of_action (halt.trans state) (decision.trans decided), call?_of_action state decided]
      rfl

variable [Console κ]

theorem step_withMemory {machine : Machine} {memory : Memory}
    (seen : ∀ cell, machine.Reads cell → memory.get cell = machine.memory.get cell)
    (console : κ) :
    (machine.withMemory memory).step console =
      (machine.step console).withMemory (memory.commit machine.write?) := by
  have halt := machine.isHalted_withMemory memory
  cases state : machine.isHalted with
  | true =>
    rw [step_of_halted (halt.trans state), step_of_halted state, write?, if_pos state]
    rfl
  | false =>
    -- What is fetched is the same word, so it is decoded to the same action or refused alike.
    have fetched : memory.get machine.registers.pc = machine.memory.get machine.registers.pc :=
      seen _ ⟨state, .inl rfl⟩
    have decision := action?_withMemory fetched
    rw [write?, if_neg (by simp [state])]
    cases decided : machine.action? with
    | error cause =>
      rw [step_of_error (halt.trans state) (decision.trans decided), step_of_error state decided]
      simp [withMemory, Cycle.withMemory, Memory.commit, fetch, fetched]
    | ok action =>
      -- From here on the two machines differ in their memories only, not in their registers.
      have other : (machine.withMemory memory).fetch.advance =
          machine.fetch.advance.withMemory memory := by
        simp [withMemory, fetch, advance, fetched]
      have performed : (machine.fetch.advance.withMemory memory).perform console action =
          (machine.fetch.advance.perform console action).withMemory
            (memory.commit (action.write? machine.registers.acc (machine.registers.pc + 1))) :=
        perform_withMemory machine.fetch.advance console fun cell reads =>
          seen cell (reads_of_source state decided reads)
      rw [step_of_action (halt.trans state) (decision.trans decided), step_of_action state decided,
        other, performed, Effect.finish_withMemory]
      rfl

/-- A cycle leaves the memory as it was, up to the word that it writes. -/
theorem step_commit (machine : Machine) (console : κ) :
    (machine.step console).machine.memory = machine.memory.commit machine.write? := by
  -- The machine is itself on its own memory.
  have same : machine.step console =
      (machine.step console).withMemory (machine.memory.commit machine.write?) :=
    step_withMemory (fun _ _ => rfl) console
  exact congrArg (fun cycle => cycle.machine.memory) same

/-- Does the next cycle write to this cell? A cycle that faults does not. -/
def Writes (machine : Machine) (console : κ) (cell : Nat) : Prop :=
  (∃ opcode ∈ Opcode.writers, machine.Executes opcode cell) ∧
    (machine.step console).outcome.cause? = none

instance (machine : Machine) (console : κ) (cell : Nat) :
    Decidable (machine.Writes console cell) :=
  inferInstanceAs (Decidable (_ ∧ _))

theorem exists_write_of_writes {machine : Machine} {console : κ} {cell : Nat} (positive : 1 ≤ cell)
    (writes : machine.Writes console cell) : ∃ word, machine.write? = some (cell, word) := by
  obtain ⟨⟨opcode, writer, executes⟩, unfaulted⟩ := writes
  -- Both operations that write do so to what their operand stands for.
  obtain ⟨action, ⟨running, decided⟩, target⟩ : ∃ action,
      (machine.isHalted = false ∧ machine.action? = .ok action) ∧ action.target? = some cell := by
    have two : opcode = .sta ∨ opcode = .brs := by simpa [Opcode.writers] using writer
    rcases two with rfl | rfl
    · exact ⟨.store cell, executes_sta_iff.mp executes, rfl⟩
    · exact ⟨.call cell, executes_brs_iff.mp executes, rfl⟩
  rw [step_of_action running decided, Effect.finish_cause?] at unfaulted
  obtain ⟨word, written⟩ := exists_write_of_success positive target unfaulted
  exact ⟨word, (write?_of_action running decided).trans written⟩

end Machine

/-! ### Rows of cycles -/

/-- Do the machines differ at most in what they hold in other cells than these? -/
structure Machine.Agree (known : Nat → Prop) (left right : Machine) : Prop where
  symbols : right.symbols = left.symbols
  registers : right.registers = left.registers
  cells : ∀ cell, known cell → right.memory.get cell = left.memory.get cell

namespace Machine

variable [Console κ]

/-- Do the cycles with this number of two rows end alike, after the same traffic with the console?
They may leave different memories. -/
structure SameCycle (left right : Machine) (console : κ) (k : Nat) : Prop where
  outcome : (right.cycleAt console k).outcome = (left.cycleAt console k).outcome
  call : (right.machineAt console k).call? = (left.machineAt console k).call?
  heard : (right.cycleAt console k).heard = (left.cycleAt console k).heard
  consoles : (right.cycleAt console k).console = (left.cycleAt console k).console
  registers : (right.cycleAt console k).machine.registers = (left.cycleAt console k).machine.registers
  symbols : (right.cycleAt console k).machine.symbols = (left.cycleAt console k).machine.symbols

/-- The cells of which it is known what they hold before a cycle of a row: those of which it was
known at first, and those that were written since. -/
def KnownAt (known : Nat → Prop) (machine : Machine) (console : κ) (k cell : Nat) : Prop :=
  known cell ∨ ∃ j < k, ∃ word, (machine.machineAt console j).write? = some (cell, word)

variable {known : Nat → Prop}

theorem knownAt_zero_iff {machine : Machine} {console : κ} {cell : Nat} :
    machine.KnownAt known console 0 cell ↔ known cell := by
  simp [KnownAt]

theorem knownAt_succ_iff {machine : Machine} {console : κ} {k cell : Nat} :
    machine.KnownAt known console (k + 1) cell ↔
      machine.KnownAt known console k cell ∨
        ∃ word, (machine.machineAt console k).write? = some (cell, word) := by
  constructor
  · rintro (before | ⟨j, earlier, written⟩)
    · exact .inl (.inl before)
    · rcases Nat.lt_succ_iff_lt_or_eq.mp earlier with earlier | rfl
      · exact .inl (.inr ⟨j, earlier, written⟩)
      · exact .inr written
  · rintro ((before | ⟨j, earlier, written⟩) | written)
    · exact .inl before
    · exact .inr ⟨j, by omega, written⟩
    · exact .inr ⟨k, Nat.lt_succ_self k, written⟩

namespace Agree

variable {left right : Machine}

theorem eq_withMemory (agree : left.Agree known right) : right = left.withMemory right.memory := by
  obtain ⟨symbols, registers, -⟩ := agree
  cases left
  cases right
  cases symbols
  cases registers
  rfl

theorem step (agree : left.Agree known right) (seen : ∀ cell, left.Reads cell → known cell)
    (console : κ) :
    right.step console = (left.step console).withMemory (right.memory.commit left.write?) :=
  calc right.step console
      = (left.withMemory right.memory).step console := by rw [← agree.eq_withMemory]
    _ = (left.step console).withMemory (right.memory.commit left.write?) :=
        step_withMemory (fun cell reads => agree.cells cell (seen cell reads)) console

theorem call? (agree : left.Agree known right) (seen : ∀ cell, left.Reads cell → known cell) :
    right.call? = left.call? := by
  rw [agree.eq_withMemory]
  exact call?_withMemory fun cell reads => agree.cells cell (seen cell reads)

/-- What was written is known as well from then on. -/
theorem machineAt (agree : left.Agree known right) {console : κ} {k : Nat}
    (seen : ∀ j < k, ∀ cell, (left.machineAt console j).Reads cell →
      left.KnownAt known console j cell) :
    right.consoleAt console k = left.consoleAt console k ∧
      (left.machineAt console k).Agree (left.KnownAt known console k)
        (right.machineAt console k) := by
  -- By induction on the number of cycles, with the machines in agreement on ever more cells.
  induction k with
  | zero =>
    exact ⟨rfl, agree.symbols, agree.registers,
      fun cell reached => agree.cells cell (knownAt_zero_iff.mp reached)⟩
  | succ k ih =>
    obtain ⟨consoles, machines⟩ := ih fun j earlier => seen j (by omega)
    have cycle := machines.step (seen k (Nat.lt_succ_self k)) (left.consoleAt console k)
    rw [consoleAt, consoleAt, Machine.machineAt, Machine.machineAt, cycleAt_eq_step,
      cycleAt_eq_step, consoles, cycle]
    refine ⟨rfl, rfl, rfl, fun cell reached => ?_⟩
    -- The cycle writes the same word to both memories; elsewhere they are as they were.
    rw [step_commit]
    exact Memory.get_commit_congr ((knownAt_succ_iff.mp reached).imp_left (machines.cells cell))

/-- The cycles of the two rows are the same up to the memory that they leave. -/
theorem cycleAt (agree : left.Agree known right) {console : κ} {k : Nat}
    (seen : ∀ j ≤ k, ∀ cell, (left.machineAt console j).Reads cell →
      left.KnownAt known console j cell) :
    right.cycleAt console k = (left.cycleAt console k).withMemory
      ((right.machineAt console k).memory.commit (left.machineAt console k).write?) := by
  obtain ⟨consoles, machines⟩ := agree.machineAt fun j earlier => seen j (Nat.le_of_lt earlier)
  rw [cycleAt_eq_step, cycleAt_eq_step, consoles]
  exact machines.step (seen k (Nat.le_refl k)) _

theorem size_machineAt (agree : left.Agree known right)
    (sizes : right.memory.size = left.memory.size) {console : κ} {k : Nat}
    (seen : ∀ j < k, ∀ cell, (left.machineAt console j).Reads cell →
      left.KnownAt known console j cell) :
    (right.machineAt console k).memory.size = (left.machineAt console k).memory.size := by
  induction k with
  | zero => exact sizes
  | succ k ih =>
    have before := ih fun j earlier => seen j (by omega)
    have cycle := agree.cycleAt fun j order => seen j (Nat.lt_succ_of_le order)
    -- Both memories are written to in the same cell, if they are written to at all.
    rw [Machine.machineAt, Machine.machineAt, cycle, Machine.cycleAt_eq_step, Cycle.withMemory,
      memory_withMemory, step_commit]
    exact Memory.size_commit_congr before _

/-- A row of cycles does not depend on cells that it does not read before it writes them. -/
theorem sameCycle (agree : left.Agree known right) {console : κ} {k : Nat}
    (seen : ∀ j ≤ k, ∀ cell, (left.machineAt console j).Reads cell →
      left.KnownAt known console j cell) : left.SameCycle right console k := by
  obtain ⟨-, machines⟩ := agree.machineAt fun j earlier => seen j (Nat.le_of_lt earlier)
  have cycle := agree.cycleAt seen
  refine ⟨?_, machines.call? (seen k (Nat.le_refl k)), ?_, ?_, ?_, ?_⟩
  all_goals
    rw [cycle]
    rfl

end Agree

end Machine

end Accumulator
