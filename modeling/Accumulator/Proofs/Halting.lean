import Accumulator.Proofs.StraightLine
import Accumulator.Proofs.Subroutines

/-!
# Why a run ends without a fault

A machine is halted while its program counter is 0, and `hlt` is not the only way there: a branch may
be taken to address 0, by a numeral, by a name of the console or through a cell. These are all the
ways (`step_halted_iff`), so a run that ends without a fault has executed `hlt` in its last cycle or
has branched to 0, and whatever else stops a run is a fault. Main statement: `returns_last`.
-/
namespace Accumulator

variable {κ : Type}

/-- Does the machine go to address 0 once the action is performed? -/
def Action.GoesToZero (memory : Memory) : Action → Prop
  | .jump target => target = 0
  | .jumpThrough cell => ∃ value, (memory.get cell).integer? = some value ∧ value.toInt = 0
  | .combine _ _ | .adjust _ | .assign _ | .load _ | .store _ | .call _ | .skip => False

/-- Does the next cycle execute `hlt`? -/
def Machine.ExecutesHalt (machine : Machine) : Prop :=
  machine.isHalted = false ∧ ∃ code ∈ machine.fetched?, code.opcode = .hlt

/-- Does the next cycle take a branch to address 0? -/
inductive Machine.BranchesToZero (machine : Machine) : Prop
  | always (branch : machine.Executes .br 0)
  | positive (branch : machine.Executes .brp 0) (taken : machine.registers.acc.isPositive = true)
  | zero (branch : machine.Executes .brz 0) (taken : machine.registers.acc.isZero = true)
  | through {cell : Nat} {target : Integer} (branch : machine.Executes .bri cell)
      (held : (machine.memory.get cell).integer? = some target) (zero : target.toInt = 0)

/-! ### Actions -/

theorem Registers.goTo_zero_iff (registers : Registers) (word : Word) :
    (registers.goTo word).2 = none ∧ (registers.goTo word).1.pc = 0 ↔
      ∃ value, word.integer? = some value ∧ value.toInt = 0 := by
  unfold goTo
  split
  next none => simp [none]
  next target held =>
    rw [held]
    split
    next negative =>
      have other : ¬ target.toInt = 0 := by omega
      simp [other]
    next natural =>
      have zero : target.toInt.toNat = 0 ↔ target.toInt = 0 := by omega
      constructor
      · rintro ⟨-, halted⟩
        exact ⟨target, rfl, zero.mp halted⟩
      · rintro ⟨_, same, value⟩
        cases same
        exact ⟨rfl, zero.mpr value⟩

namespace Machine

theorem enter_never_zero (machine : Machine) (console : κ) (target : Nat) :
    ¬ ((machine.enter console target).failure = none ∧
      (machine.enter console target).machine.registers.pc = 0) := by
  rintro ⟨done, halted⟩
  unfold enter at done halted
  split at done
  · cases done
  next inside =>
    rw [if_neg inside] at halted
    split at done
    · cases done
    · cases done
    next narrowed accepted =>
      -- The machine goes on behind the cell that the call has written.
      simp [narrowed, accepted] at halted

variable [Console κ]

/-- Only a jump leads to address 0, as the machine is already past the instruction. -/
theorem perform_zero_iff {machine : Machine} (past : machine.registers.pc ≠ 0) (console : κ)
    (action : Action) :
    (machine.perform console action).failure = none ∧
        (machine.perform console action).machine.registers.pc = 0 ↔
      action.GoesToZero machine.memory := by
  cases goesOn : action.goesOn with
  | true =>
    -- PC stays where it is, which is not 0.
    rw [perform_pc goesOn]
    cases action with
    | jump | jumpThrough | call => cases goesOn
    | combine | adjust | assign | load | store | skip => simp [past, Action.GoesToZero]
  | false =>
    cases action with
    | jump target => simp [perform, settle, Action.GoesToZero]
    | jumpThrough cell => exact Registers.goTo_zero_iff _ _
    | call target => exact iff_of_false (enter_never_zero machine console target) id
    | combine | adjust | assign | load | store | skip => cases goesOn

end Machine

theorem Effect.finish_halted_iff (effect : Effect κ) (address : Nat) :
    (effect.finish address).outcome = .halted ↔
      effect.failure = none ∧ effect.machine.registers.pc = 0 := by
  cases failure : effect.failure with
  | none =>
    rw [finish_of_success failure]
    by_cases stopped : effect.machine.registers.pc = 0
    · simp [Machine.isHalted, stopped]
    · simp [Machine.isHalted, stopped]
  | some cause =>
    rw [finish_of_failure failure]
    simp

/-! ### Single cycles -/

namespace Machine

/-- A branch is no `hlt`. -/
theorem BranchesToZero.opcode_ne_hlt {machine : Machine} {code : Instruction}
    (branches : machine.BranchesToZero) (fetched : machine.fetched? = some code) :
    code.opcode ≠ .hlt := by
  cases branches with
  | always branch => simp [branch.opcode_eq fetched]
  | positive branch => simp [branch.opcode_eq fetched]
  | zero branch => simp [branch.opcode_eq fetched]
  | through branch => simp [branch.opcode_eq fetched]

/-- What goes to address 0 is `hlt` or a branch that is taken to it. -/
theorem exists_action_iff {machine : Machine} (running : machine.isHalted = false) :
    (∃ action, machine.action? = .ok action ∧ action.GoesToZero machine.memory) ↔
      machine.ExecutesHalt ∨ machine.BranchesToZero := by
  constructor
  · rintro ⟨action, decided, zero⟩
    obtain ⟨code, found, decoded⟩ := action?_eq_ok_iff.mp decided
    have fetched := fetched?_eq_some_iff.mpr found
    have executes {opcode : Opcode} {address : Nat} (same : code.opcode = opcode)
        (resolved : code.resolve machine.symbols = .ok address) :
        machine.Executes opcode address := ⟨running, code, fetched, same, resolved⟩
    -- One case for each way to be decoded; only in five of them does the action lead to 0.
    cases Instruction.decode_eq_ok_iff.mp decoded with
    | hlt opcode => exact .inl ⟨running, code, fetched, opcode⟩
    | br opcode resolved =>
      cases zero
      exact .inr (.always (executes opcode resolved))
    | brp opcode taken resolved =>
      cases zero
      exact .inr (.positive (executes opcode resolved) taken)
    | brz opcode taken resolved =>
      cases zero
      exact .inr (.zero (executes opcode resolved) taken)
    | bri opcode resolved =>
      obtain ⟨target, held, zero⟩ := zero
      exact .inr (.through (executes opcode resolved) held zero)
    | combine | adjust | set | lda | sta | brpSkip | brzSkip | brs | noop => cases zero
  · rintro (⟨-, code, fetched, opcode⟩ | branches)
    · exact ⟨.jump 0, action?_eq_ok_iff.mpr ⟨code, fetched?_eq_some_iff.mp fetched,
        Instruction.decode_eq_ok_iff.mpr (.hlt opcode)⟩, rfl⟩
    · cases branches with
      | always branch => exact ⟨.jump 0, branch.action?_eq fun _ => .br, rfl⟩
      | positive branch taken =>
        exact ⟨.jump 0, branch.action?_eq fun _ opcode => .brp opcode taken, rfl⟩
      | zero branch taken =>
        exact ⟨.jump 0, branch.action?_eq fun _ opcode => .brz opcode taken, rfl⟩
      | @through cell target branch held zero =>
        exact ⟨.jumpThrough cell, (executes_bri_iff.mp branch).2, target, held, zero⟩

variable [Console κ]

/-- A running machine halts by `hlt` or by a branch to address 0, and never otherwise. -/
theorem step_halted_iff {machine : Machine} (running : machine.isHalted = false) (console : κ) :
    (machine.step console).outcome = .halted ↔
      machine.ExecutesHalt ∨ machine.BranchesToZero := by
  rw [← exists_action_iff running]
  cases decision : machine.action? with
  | error cause =>
    rw [step_of_error running decision]
    simp
  | ok action =>
    -- Once advanced, PC is not 0 unless the action takes it there.
    have past : machine.fetch.advance.registers.pc ≠ 0 := Nat.succ_ne_zero _
    rw [step_of_action running decision, Effect.finish_halted_iff, perform_zero_iff past]
    simp only [Except.ok.injEq, exists_eq_left']
    rfl

/-! ### Runs -/

/-- The last cycle of a row is one of a running machine, unless the row began on a halted one. -/
theorem isHalted_last {machine : Machine} {console : κ} {number : Nat} {outcome : Outcome}
    (stops : machine.Stops console number outcome) (running : machine.isHalted = false) :
    (machine.machineAt console (number - 1)).isHalted = false := by
  cases earlier : number - 1 with
  | zero => exact running
  | succ k =>
    have continued := stops.before k (by omega)
    rw [cycleAt_eq_step] at continued
    rw [machineAt_eq_step]
    exact isHalted_of_continued continued

theorem executesHalt_iff {machine : Machine} (running : machine.isHalted = false) :
    machine.ExecutesHalt ↔
      ∃ operand, machine.memory.get machine.registers.pc = .instruction ⟨.hlt, operand⟩ := by
  constructor
  · rintro ⟨-, ⟨opcode, operand⟩, fetched, rfl⟩
    exact ⟨operand, fetched?_eq_some_iff.mp fetched⟩
  · rintro ⟨operand, found⟩
    exact ⟨running, _, fetched?_eq_some_iff.mpr found, rfl⟩

/-- A run that returns has halted if its last cycle executed `hlt`, which IR then shows, or branched
to address 0. In every other case it has faulted. -/
theorem returns_last {machine : Machine} {console : κ} {ending : Ending} {after : Machine} {left : κ}
    (run : machine.Returns console ending after left) :
    ∃ number, 1 ≤ number ∧ after = machine.restart.machineAt console number ∧
      let last := machine.restart.machineAt console (number - 1)
      (ending = .halted number ↔ last.ExecutesHalt ∨ last.BranchesToZero) ∧
        ((∃ fault, ending = .faulted fault) ↔ ¬ (last.ExecutesHalt ∨ last.BranchesToZero)) ∧
        ((∃ operand, after.registers.ir = .instruction ⟨.hlt, operand⟩) ↔ last.ExecutesHalt) ∧
        ¬ (last.ExecutesHalt ∧ last.BranchesToZero) := by
  obtain ⟨number, outcome, stops, ends, rfl, rfl⟩ := returns_iff.mp run
  obtain ⟨k, rfl⟩ : ∃ k, number = k + 1 := ⟨number - 1, by have := stops.positive; omega⟩
  have running : (machine.restart.machineAt console k).isHalted = false := isHalted_last stops rfl
  have last : (machine.restart.cycleAt console k).outcome = outcome := stops.last
  -- The outcome of the last cycle says how the run ends.
  have halted := step_halted_iff running (machine.restart.consoleAt console k)
  rw [← cycleAt_eq_step, last] at halted
  have fetched := step_ir running (machine.restart.consoleAt console k)
  rw [← cycleAt_eq_step] at fetched
  refine ⟨k + 1, Nat.succ_pos k, rfl, ?_, ?_, ?_, ?_⟩
  · rw [Nat.add_sub_cancel, ← halted]
    cases outcome <;> cases ends <;> simp
  · rw [Nat.add_sub_cancel, ← halted]
    cases outcome <;> cases ends <;> simp
  · rw [Nat.add_sub_cancel, executesHalt_iff running, fetched]
  · rintro ⟨⟨-, code, found, opcode⟩, branches⟩
    exact branches.opcode_ne_hlt found opcode

/-- A run of two cycles that ends with `hlt`. -/
theorem returns_last_hlt :
    let machine := (ofSource "noop\nhlt").1
    let after := (machine.restart.cycleAt ({} : Script) 1).machine
    machine.Returns ({} : Script) (.halted 2) after {} ∧
      ∃ number, let last := machine.restart.machineAt ({} : Script) (number - 1)
        after = machine.restart.machineAt ({} : Script) number ∧ last.ExecutesHalt ∧
          ¬ last.BranchesToZero := by
  intro machine after
  have stops : machine.restart.Stops ({} : Script) 2 .halted :=
    ⟨by decide, by decide +kernel, by decide +kernel⟩
  have run : machine.Returns ({} : Script) (.halted 2) after {} :=
    returns_iff.mpr ⟨2, .halted, stops, rfl, rfl, rfl⟩
  have held : after.registers.ir = .instruction ⟨.hlt, none⟩ := by decide +kernel
  obtain ⟨number, -, same, -, -, halt, only⟩ := returns_last run
  have executes := halt.mp ⟨none, held⟩
  exact ⟨run, number, same, executes, fun branches => only ⟨executes, branches⟩⟩

/-- A run of one cycle that ends without a fault and without `hlt`. -/
theorem halted_without_hlt :
    let machine := (ofSource "br 0").1
    let after := (machine.restart.cycleAt ({} : Script) 0).machine
    machine.Returns ({} : Script) (.halted 1) after {} ∧
      ¬ ∃ operand, after.registers.ir = .instruction ⟨.hlt, operand⟩ := by
  intro machine after
  have stops : machine.restart.Stops ({} : Script) 1 .halted :=
    ⟨by decide, by decide +kernel, by decide +kernel⟩
  have held : after.registers.ir = .instruction ⟨.br, some (.literal 0)⟩ := by decide +kernel
  refine ⟨returns_iff.mpr ⟨1, .halted, stops, rfl, rfl, rfl⟩, ?_⟩
  rw [held]
  rintro ⟨operand, same⟩
  cases same

end Machine

end Accumulator
