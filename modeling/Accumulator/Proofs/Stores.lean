import Accumulator.Proofs.Footprint

/-!
# What a cycle stores

Nothing but `sta` and `brs` changes the memory, and these change the one cell that their operand
stands for, if a program can write to it (`write?_eq_some_iff`). A cell behind the end of the memory
makes it grow as far as that cell, with placeholders in between (`Memory.Stored`). Cell 0 and the
cells above `maxAddress` cannot be written to, so they stay what they are in every row of cycles
(`keepsOutside_machineAt`), whatever the program makes of itself. Main statement: `step_stores`.
-/
namespace Accumulator

/-- Is the later memory the earlier one with this word in this cell, grown as far as the cell? -/
structure Memory.Stored (before : Memory) (target : Nat) (word : Word) (after : Memory) : Prop where
  cell : after.get target = word
  size : after.size = max before.size (target + 1)
  gap : ∀ address, before.size ≤ address → address < target → after.get address = .unset
  others : ∀ address, address ≠ target → after.get address = before.get address

/-- Can the later machine come from the earlier one by cycles, as far as the labels, the size of the
memory and the cells that no program can write to tell? -/
structure Machine.KeepsOutside (before after : Machine) : Prop where
  symbols : after.symbols = before.symbols
  size : before.memory.size ≤ after.memory.size
  cells : ∀ address, address = 0 ∨ maxAddress < address →
    after.memory.get address = before.memory.get address

theorem Memory.stored_put (memory : Memory) (target : Nat) (word : Word) :
    memory.Stored target word (memory.put target word) where
  cell := by rw [get_put, if_pos rfl]
  size := size_put memory target word
  gap address beyond below := by
    rw [get_put, if_neg (by omega)]
    exact get_of_size_le beyond
  others address elsewhere := by rw [get_put, if_neg elsewhere]

theorem exists_toInt_iff {address : Nat} :
    (∃ value : Integer, value.toInt = address) ↔ address < integerLimit := by
  constructor
  · rintro ⟨value, stands⟩
    have high := Int64.toInt_le value
    rw [Int64.toInt_maxValue] at high
    simp only [integerLimit]
    omega
  · intro below
    obtain ⟨value, narrowed, -⟩ := Trapping.narrow_eq below
    exact ⟨value, toInt_of_narrow narrowed⟩

/-- Only two actions write, and only to a cell that a program can write to. -/
theorem Action.write?_eq_some_iff {acc word : Word} {next target : Nat} {action : Action} :
    action.write? acc next = some (target, word) ↔
      target ≠ 0 ∧ target ≤ maxAddress ∧
        (action = .store target ∧ word = acc ∨
          action = .call target ∧ ∃ back : Integer, back.toInt = next ∧ word = .integer back) := by
  rw [← Memory.refusal?_eq_none_iff]
  simp only [← narrow_eq_ok_iff]
  constructor
  · intro written
    cases action with
    | store cell =>
      rw [write?, Option.ite_none_left_eq_some, not_or, Option.not_isSome_iff_eq_none] at written
      obtain ⟨⟨inside, accepted⟩, same⟩ := written
      cases same
      exact ⟨inside, accepted, .inl ⟨rfl, rfl⟩⟩
    | call cell =>
      rw [write?, Option.ite_none_left_eq_some] at written
      obtain ⟨inside, written⟩ := written
      split at written
      next back narrowed accepted =>
        cases written
        exact ⟨inside, accepted, .inr ⟨rfl, back, narrowed, rfl⟩⟩
      next => cases written
    | combine | adjust | assign | load | jump | jumpThrough | skip => cases written
  · rintro ⟨inside, accepted, ⟨rfl, rfl⟩ | ⟨rfl, back, narrowed, rfl⟩⟩
    · simp [write?, inside, accepted]
    · simp [write?, inside, accepted, narrowed]

namespace Machine

theorem write?_eq_some_iff_action {machine : Machine} {entry : Nat × Word} :
    machine.write? = some entry ↔
      machine.isHalted = false ∧ ∃ action, machine.action? = .ok action ∧
        action.write? machine.registers.acc (machine.registers.pc + 1) = some entry := by
  cases state : machine.isHalted with
  | true => simp [write?, state]
  | false =>
    cases decision : machine.action? with
    | error cause => simp [write?, state, decision]
    | ok action => simp [write?_of_action state decision]

/-- What the next cycle writes, by what it executes. -/
theorem write?_eq_some_iff {machine : Machine} {target : Nat} {word : Word} :
    machine.write? = some (target, word) ↔
      target ≠ 0 ∧ target ≤ maxAddress ∧
        (machine.Executes .sta target ∧ word = machine.registers.acc ∨
          machine.Executes .brs target ∧
            ∃ back : Integer, back.toInt = machine.registers.pc + 1 ∧ word = .integer back) := by
  simp only [write?_eq_some_iff_action, Action.write?_eq_some_iff, executes_sta_iff,
    executes_brs_iff]
  constructor
  · rintro ⟨running, action, decided, inside, within, ⟨rfl, same⟩ | ⟨rfl, back⟩⟩
    · exact ⟨inside, within, .inl ⟨⟨running, decided⟩, same⟩⟩
    · exact ⟨inside, within, .inr ⟨⟨running, decided⟩, back⟩⟩
  · rintro ⟨inside, within, ⟨⟨running, decided⟩, same⟩ | ⟨⟨running, decided⟩, back⟩⟩
    · exact ⟨running, .store target, decided, inside, within, .inl ⟨rfl, same⟩⟩
    · exact ⟨running, .call target, decided, inside, within, .inr ⟨rfl, back⟩⟩

variable {κ : Type} [Console κ]

/-- A machine that has something to write succeeds. -/
theorem cause?_of_write? {machine : Machine} {entry : Nat × Word}
    (written : machine.write? = some entry) (console : κ) :
    (machine.step console).outcome.cause? = none := by
  obtain ⟨running, action, decided, writes⟩ := write?_eq_some_iff_action.mp written
  rw [step_of_action running decided, Effect.finish_cause?]
  -- What would make either action fail is what keeps it from writing.
  obtain ⟨inside, within, ⟨rfl, -⟩ | ⟨rfl, back, stands, -⟩⟩ :=
    Action.write?_eq_some_iff.mp writes
  · rw [perform, send_of_ne_zero _ _ inside, Memory.refusal?_eq_none_iff.mpr within]
  · have narrowed : narrow machine.fetch.advance.registers.pc = .ok back :=
      narrow_eq_ok_iff.mpr stands
    rw [perform, enter, if_neg inside, narrowed, Memory.refusal?_eq_none_iff.mpr within]

/-- To succeed in executing one of the two operations that write is to have something to write. -/
theorem writes_iff {machine : Machine} {console : κ} {target : Nat} (positive : 1 ≤ target) :
    machine.Writes console target ↔ ∃ word, machine.write? = some (target, word) := by
  constructor
  · exact exists_write_of_writes positive
  · rintro ⟨word, written⟩
    refine ⟨?_, cause?_of_write? written console⟩
    obtain ⟨-, -, ⟨stores, -⟩ | ⟨calls, -⟩⟩ := write?_eq_some_iff.mp written
    · exact ⟨.sta, by decide, stores⟩
    · exact ⟨.brs, by decide, calls⟩

/-- A call writes its return address, if that is an integer. -/
theorem write?_of_call {machine : Machine} {target : Nat} {word : Word}
    (calls : machine.Executes .brs target) (positive : 1 ≤ target) (within : target ≤ maxAddress) :
    machine.write? = some (target, word) ↔
      ∃ back : Integer, back.toInt = machine.registers.pc + 1 ∧ word = .integer back := by
  have stores : ¬ machine.Executes .sta target := fun stores => nomatch calls.unique stores
  simp [write?_eq_some_iff, calls, stores, within, Nat.one_le_iff_ne_zero.mp positive]

theorem writes_iff_of_call {machine : Machine} {console : κ} {target : Nat}
    (calls : machine.Executes .brs target) (positive : 1 ≤ target) (within : target ≤ maxAddress) :
    machine.Writes console target ↔ machine.registers.pc + 1 < integerLimit := by
  rw [writes_iff positive, ← exists_toInt_iff]
  constructor
  · rintro ⟨word, written⟩
    obtain ⟨back, stands, -⟩ := (write?_of_call calls positive within).mp written
    exact ⟨back, stands⟩
  · rintro ⟨back, stands⟩
    exact ⟨.integer back, (write?_of_call calls positive within).mpr ⟨back, stands, rfl⟩⟩

theorem exists_write_of_changed {machine : Machine} {console : κ}
    (changed : (machine.step console).machine.memory ≠ machine.memory) :
    ∃ target word, machine.write? = some (target, word) := by
  rw [step_commit] at changed
  match written : machine.write? with
  | none => exact absurd (by rw [written, Memory.commit]) changed
  | some (target, word) => exact ⟨target, word, rfl⟩

theorem stored_of_write? {machine : Machine} {target : Nat} {word : Word}
    (written : machine.write? = some (target, word)) (console : κ) :
    machine.memory.Stored target word (machine.step console).machine.memory := by
  rw [step_commit, written, Memory.commit]
  exact Memory.stored_put machine.memory target word

/-! ### Rows of cycles -/

theorem KeepsOutside.refl (machine : Machine) : machine.KeepsOutside machine :=
  ⟨rfl, Nat.le_refl _, fun _ _ => rfl⟩

theorem KeepsOutside.trans {first second third : Machine} (before : first.KeepsOutside second)
    (after : second.KeepsOutside third) : first.KeepsOutside third where
  symbols := after.symbols.trans before.symbols
  size := Nat.le_trans before.size after.size
  cells address outside := (after.cells address outside).trans (before.cells address outside)

theorem keepsOutside_step (machine : Machine) (console : κ) :
    machine.KeepsOutside (machine.step console).machine where
  symbols := machine.step_symbols console
  size := by
    rw [step_commit]
    cases machine.write? with
    | none => exact Nat.le_refl _
    | some entry =>
      rw [Memory.commit, Memory.size_put]
      exact Nat.le_max_left _ _
  cells address outside := by
    rw [step_commit]
    cases written : machine.write? with
    | none => rfl
    | some entry =>
      obtain ⟨inside, within, -⟩ := write?_eq_some_iff.mp written
      rw [Memory.commit, Memory.get_put, if_neg (by omega)]

theorem keepsOutside_machineAt (machine : Machine) (console : κ) (k : Nat) :
    machine.KeepsOutside (machine.machineAt console k) := by
  induction k with
  | zero => exact .refl machine
  | succ k ih =>
    rw [machineAt_eq_step]
    exact ih.trans (keepsOutside_step _ _)

/-- A cycle changes the memory only if it succeeds in executing `sta` or `brs` at an address that a
program can write to. Then that cell holds the accumulator or the address behind the instruction, the
memory has grown as far as the cell, and all else is as it was. An `sta` cannot fail there, and a
`brs` fails only if that address is no integer. So a run, however long, leaves the labels, cell 0 and
the cells above `maxAddress` alone. -/
theorem step_stores (machine : Machine) (console : κ) :
    let after := (machine.step console).machine
    machine.KeepsOutside after ∧
    (after.memory ≠ machine.memory →
      ∃ target, 1 ≤ target ∧ target ≤ maxAddress ∧ machine.Writes console target) ∧
    (∀ target, 1 ≤ target → target ≤ maxAddress →
      (machine.Executes .sta target → machine.Writes console target ∧
        machine.memory.Stored target machine.registers.acc after.memory) ∧
      (machine.Executes .brs target →
        (machine.Writes console target ↔ machine.registers.pc + 1 < integerLimit) ∧
        (machine.Writes console target →
          ∃ back : Integer, back.toInt = machine.registers.pc + 1 ∧
            machine.memory.Stored target (.integer back) after.memory))) ∧
    (∀ k, machine.KeepsOutside (machine.machineAt console k)) ∧
    ∀ limit, machine.KeepsOutside (machine.runFor limit console).machine := by
  refine ⟨keepsOutside_step machine console, ?_, ?_, keepsOutside_machineAt machine console, ?_⟩
  · intro changed
    obtain ⟨target, word, written⟩ := exists_write_of_changed changed
    obtain ⟨inside, within, -⟩ := write?_eq_some_iff.mp written
    have positive : 1 ≤ target := Nat.one_le_iff_ne_zero.mpr inside
    exact ⟨target, positive, within, (writes_iff positive).mpr ⟨word, written⟩⟩
  · intro target positive within
    have inside := Nat.one_le_iff_ne_zero.mp positive
    refine ⟨fun stores => ?_, fun calls =>
      ⟨writes_iff_of_call calls positive within, fun writes => ?_⟩⟩
    · have written : machine.write? = some (target, machine.registers.acc) :=
        write?_eq_some_iff.mpr ⟨inside, within, .inl ⟨stores, rfl⟩⟩
      exact ⟨(writes_iff positive).mpr ⟨_, written⟩, stored_of_write? written console⟩
    · obtain ⟨word, written⟩ := (writes_iff positive).mp writes
      obtain ⟨back, stands, rfl⟩ := (write?_of_call calls positive within).mp written
      exact ⟨back, stands, stored_of_write? written console⟩
  · intro limit
    rw [(runFor_eq_machineAt limit machine console).1]
    -- Fresh registers change nothing of what is kept.
    obtain ⟨symbols, size, cells⟩ := keepsOutside_machineAt machine.restart console limit
    exact ⟨symbols, size, cells⟩

/-- A store and a call behind the end of the memory, each of which leaves a gap. -/
theorem step_stores_grown :
    let machine := (ofSource "set six\nsta 6\nbrs 9").1
    let storing := machine.restart.machineAt ({} : Script) 1
    let calling := machine.restart.machineAt ({} : Script) 2
    let entered := machine.restart.machineAt ({} : Script) 3
    (∃ console : Script, storing.Writes console 6) ∧ (∃ console : Script, calling.Writes console 9) ∧
      storing.memory.Stored 6 (.text "six") calling.memory ∧
      calling.memory.Stored 9 (.integer 4) entered.memory ∧
      (storing.memory.size, calling.memory.size, entered.memory.size) = (4, 7, 10) ∧
      machine.KeepsOutside (machine.runFor 9 ({} : Script)).machine := by
  intro machine storing calling entered
  have stores : storing.Executes .sta 6 := by decide +kernel
  have calls : calling.Executes .brs 9 := by decide +kernel
  obtain ⟨-, -, storing_at, -⟩ := step_stores storing (machine.restart.consoleAt ({} : Script) 1)
  obtain ⟨-, -, calling_at, -⟩ := step_stores calling (machine.restart.consoleAt ({} : Script) 2)
  obtain ⟨-, -, -, -, run⟩ := step_stores machine ({} : Script)
  obtain ⟨six_written, six_stored⟩ := (storing_at 6 (by decide) (by decide)).1 stores
  obtain ⟨fits, returned⟩ := (calling_at 9 (by decide) (by decide)).2 calls
  have nine_written := fits.mpr (by decide +kernel)
  obtain ⟨back, stands, nine_stored⟩ := returned nine_written
  have pc : calling.registers.pc = 3 := by decide +kernel
  have acc : storing.registers.acc = .text "six" := by decide +kernel
  have four : back = 4 := by
    rw [pc] at stands
    exact Int64.toInt_inj.mp (stands.trans (by decide))
  have stored : calling = (storing.step (machine.restart.consoleAt ({} : Script) 1)).machine :=
    machineAt_eq_step machine.restart ({} : Script) 1
  have entering : entered = (calling.step (machine.restart.consoleAt ({} : Script) 2)).machine :=
    machineAt_eq_step machine.restart ({} : Script) 2
  have sizes : (storing.memory.size, calling.memory.size, entered.memory.size) = (4, 7, 10) := by
    decide +kernel
  rw [acc, ← stored] at six_stored
  rw [four, ← entering] at nine_stored
  exact ⟨⟨_, six_written⟩, ⟨_, nine_written⟩, six_stored, nine_stored, sizes, run 9⟩

end Machine

end Accumulator
