import Accumulator.Proofs.Provenance
import Accumulator.Proofs.Traps

/-!
# Programs without branches

A machine whose code has no branch can only go on to the next address or halt (`step_straight`). It
may copy its code behind its end and run into the copies, but no branch comes from copying, and it
cannot write beyond `maxAddress`. So the program counter rises through cells of which there are not
more than that, and behind them there is nothing to execute. Main statement: `straight_returns`.
-/
namespace Accumulator

/-- Can the operation send the machine elsewhere? -/
def Opcode.isBranch : Opcode → Bool
  | .br | .brp | .brz | .bri | .brs => true
  | .add | .sub | .mlt | .div | .set | .neg | .inc | .dec | .lda | .sta | .hlt | .noop => false

/-- Does the machine go on behind the instruction once the action is performed? -/
def Action.goesOn : Action → Bool
  | .combine _ _ | .adjust _ | .assign _ | .load _ | .store _ | .skip => true
  | .jump _ | .jumpThrough _ | .call _ => false

namespace Word

def isBranch : Word → Bool
  | .instruction code => code.opcode.isBranch
  | .unset | .integer _ | .text _ => false

/-- Is the word, if it is an instruction, no branch? -/
def Straight (word : Word) : Prop := word.isBranch = false

instance : DecidablePred Straight := fun word => inferInstanceAs (Decidable (word.isBranch = false))

theorem straight_inherited : Inherited Straight where
  unset := rfl
  integer _ := rfl
  label _ _ _ _ := rfl

end Word

/-- Only the cells that are there can hold a branch. -/
theorem Memory.straight_of_cells {memory : Memory}
    (cells : ∀ address < memory.size, (memory.get address).Straight) (address : Nat) :
    (memory.get address).Straight := by
  rcases Nat.lt_or_ge address memory.size with inside | beyond
  · exact cells address inside
  · rw [get_of_size_le beyond]
    rfl

theorem Instruction.decode_straight {code : Instruction} {symbols : SymbolTable} {acc : Word}
    {action : Action} (straight : code.opcode.isBranch = false)
    (decoded : code.decode symbols acc = .ok action) : action.goesOn = true ∨ action = .jump 0 := by
  cases decode_eq_ok_iff.mp decoded with
  | br opcode | brp opcode | brpSkip opcode | brz opcode | brzSkip opcode | bri opcode
  | brs opcode =>
    rw [opcode] at straight
    cases straight
  | hlt => exact .inr rfl
  | combine | adjust | set | lda | sta | noop => exact .inl rfl

theorem Outcome.exists_ending? {outcome : Outcome} (stopped : outcome ≠ .continued)
    (number : Nat) : ∃ ending, outcome.ending? number = some ending := by
  cases outcome with
  | continued => exact absurd rfl stopped
  | halted => exact ⟨.halted number, rfl⟩
  | faulted fault => exact ⟨.faulted fault, rfl⟩

/-! ### The program counter and the instruction register -/

namespace Registers

theorem accept_keeps (registers : Registers) (result : Except Cause Integer) :
    (registers.accept result).1.pc = registers.pc ∧
      (registers.accept result).1.ir = registers.ir := by
  cases result <;> exact ⟨rfl, rfl⟩

theorem combine_keeps (registers : Registers) (op : Arithmetic) (word : Word) :
    (registers.combine op word).1.pc = registers.pc ∧
      (registers.combine op word).1.ir = registers.ir := by
  unfold combine
  split
  · exact ⟨rfl, rfl⟩
  · dsimp only
    split
    · exact ⟨rfl, rfl⟩
    · exact accept_keeps _ _

theorem adjust_keeps (registers : Registers) (op : Adjustment) :
    (registers.adjust op).1.pc = registers.pc ∧ (registers.adjust op).1.ir = registers.ir := by
  unfold adjust
  split
  · exact ⟨rfl, rfl⟩
  · exact accept_keeps _ _

theorem goTo_ir (registers : Registers) (word : Word) :
    (registers.goTo word).1.ir = registers.ir := by
  unfold goTo
  split
  · rfl
  · split <;> rfl

end Registers

namespace Machine

variable {κ : Type}

theorem enter_ir (machine : Machine) (console : κ) (target : Nat) :
    (machine.enter console target).machine.registers.ir = machine.registers.ir := by
  unfold enter
  split
  · rfl
  · split <;> rfl

variable [Console κ]

theorem send_registers (machine : Machine) (console : κ) (target : Nat) :
    (machine.send console target).machine.registers = machine.registers := by
  by_cases console_cell : target = 0
  · subst console_cell
    rw [send_zero]
  · rw [send_of_ne_zero _ _ console_cell]
    split <;> rfl

theorem perform_ir (machine : Machine) (console : κ) (action : Action) :
    (machine.perform console action).machine.registers.ir = machine.registers.ir := by
  cases action with
  | combine op source =>
    simp only [perform]
    split
    · rfl
    · exact (Registers.combine_keeps _ op _).2
  | adjust op => exact (Registers.adjust_keeps _ op).2
  | load source =>
    simp only [perform]
    split <;> rfl
  | store target =>
    rw [perform, send_registers]
    rfl
  | jumpThrough cell => exact Registers.goTo_ir _ _
  | call target => exact enter_ir machine console target
  | assign | jump | skip => rfl

theorem perform_pc {action : Action} (goesOn : action.goesOn = true) (machine : Machine)
    (console : κ) :
    (machine.perform console action).machine.registers.pc = machine.registers.pc := by
  cases action with
  | combine op source =>
    simp only [perform]
    split
    · rfl
    · exact (Registers.combine_keeps _ op _).1
  | adjust op => exact (Registers.adjust_keeps _ op).1
  | load source =>
    simp only [perform]
    split <;> rfl
  | store target =>
    rw [perform, send_registers]
    rfl
  | assign | skip => rfl
  | jump | jumpThrough | call => cases goesOn

/-- A cycle leaves in IR what it fetched from the address in PC. -/
theorem step_ir {machine : Machine} (running : machine.isHalted = false) (console : κ) :
    (machine.step console).machine.registers.ir = machine.memory.get machine.registers.pc := by
  cases decision : machine.action? with
  | error cause =>
    rw [step_of_error running decision]
    rfl
  | ok action =>
    -- Neither the action nor a fault touches IR again.
    have performed := perform_ir machine.fetch.advance console action
    rw [step_of_action running decision]
    cases failure : (machine.fetch.advance.perform console action).failure with
    | none =>
      rw [Effect.finish_of_success failure]
      exact performed
    | some cause =>
      rw [Effect.finish_of_failure failure]
      exact performed

/-! ### Cycles that go on -/

/-- A cycle goes on only from an instruction. -/
theorem lt_size_of_continued {machine : Machine} {console : κ}
    (continued : (machine.step console).outcome = .continued) :
    machine.registers.pc < machine.memory.size := by
  rcases machine.step_cases console with ⟨_, same⟩ | ⟨_, _, _, same⟩ | ⟨action, _, decided, _⟩
  · rw [same] at continued
    cases continued
  · rw [same] at continued
    cases continued
  · obtain ⟨code, found, -⟩ := action?_eq_ok_iff.mp decided
    exact Trapping.lt_size_of_get found

theorem step_straight {machine : Machine} {console : κ}
    (straight : (machine.memory.get machine.registers.pc).Straight)
    (continued : (machine.step console).outcome = .continued) :
    (machine.step console).machine.registers.pc = machine.registers.pc + 1 := by
  have goesOn := (step_continued_iff machine console).mp continued
  rcases machine.step_cases console with ⟨_, same⟩ | ⟨_, _, _, same⟩ | ⟨action, _, decided, same⟩
  · rw [same] at continued
    cases continued
  · rw [same] at continued
    cases continued
  · -- The action was performed without a fault, and it was not the halt.
    rw [same] at goesOn ⊢
    cases failure : (machine.fetch.advance.perform console action).failure with
    | some cause =>
      rw [Effect.finish_of_failure failure] at goesOn
      exact absurd rfl goesOn
    | none =>
      rw [Effect.finish_of_success failure] at goesOn ⊢
      obtain ⟨code, found, decoded⟩ := action?_eq_ok_iff.mp decided
      rw [found] at straight
      rcases Instruction.decode_straight straight decoded with on | rfl
      · exact perform_pc on _ _
      · exact absurd rfl goesOn

/-! ### Rows of cycles -/

theorem size_machineAt_le (machine : Machine) (console : κ) (k : Nat) :
    (machine.machineAt console k).memory.size ≤ max machine.memory.size (maxAddress + 1) := by
  induction k with
  | zero => exact Nat.le_max_left _ _
  | succ k ih =>
    have grown := size_step_le (machine.machineAt console k) (machine.consoleAt console k)
    rw [machineAt_eq_step]
    omega

theorem machineAt_hold {property : Word → Prop} (inherited : Inherited property)
    (lines : ∀ line, property (.text line)) {machine : Machine} (hold : machine.Hold property)
    (console : κ) (k : Nat) : (machine.machineAt console k).Hold property := by
  induction k with
  | zero => exact hold
  | succ k ih =>
    rw [machineAt_eq_step]
    exact step_hold inherited ih _ fun line _ => lines line

/-- As long as a row without branches goes on, its cycles take one address after the other. -/
theorem pc_machineAt {machine : Machine} (straight : machine.Hold Word.Straight) (console : κ)
    {k : Nat} (continued : ∀ j < k, (machine.cycleAt console j).outcome = .continued) :
    (machine.machineAt console k).registers.pc = machine.registers.pc + k := by
  induction k with
  | zero => rfl
  | succ k ih =>
    have earlier := ih fun j before => continued j (by omega)
    -- Whatever the program has written by now, it is no branch.
    have here := machineAt_hold Word.straight_inherited (fun _ => rfl) straight console k
    have last := continued k (Nat.lt_succ_self k)
    rw [cycleAt_eq_step] at last
    rw [machineAt_eq_step, step_straight (here.cell _) last, earlier, Nat.add_assoc]

/-- Behind the last cell that is there or that can be written, no cycle goes on. -/
theorem not_continued_of_straight {machine : Machine} (straight : machine.Hold Word.Straight)
    (entry : machine.registers.pc = 1) (console : κ) :
    ¬ ∀ k < max machine.memory.size (maxAddress + 1),
      (machine.cycleAt console k).outcome = .continued := by
  -- The last of these cycles would fetch from behind all cells that there can be.
  intro going
  obtain ⟨last, shape⟩ : ∃ last, max machine.memory.size (maxAddress + 1) = last + 1 :=
    ⟨max machine.memory.size (maxAddress + 1) - 1, by omega⟩
  have pc : (machine.machineAt console last).registers.pc = machine.registers.pc + last :=
    pc_machineAt straight console fun j before => going j (by omega)
  have continued := going last (by omega)
  rw [cycleAt_eq_step] at continued
  have inside := lt_size_of_continued continued
  have size := machine.size_machineAt_le console last
  omega

theorem size_ofSource (source : String) :
    (ofSource source).1.memory.size = (ofSource source).2.loaded + 1 := by
  rw [memory_ofSource, Code.size_memory, loaded_ofSource]

/-- A program without branches comes to an end on every console, after at most as many cycles as
there are addresses for its instructions and for those that it may write, and one more. Its cycles
fetch from the addresses from 1 on, in order. -/
theorem straight_returns (source : String)
    (straight : ∀ address, ((ofSource source).1.memory.get address).Straight) (console : κ) :
    let machine := (ofSource source).1
    let report := (ofSource source).2
    ∃ number outcome ending, number ≤ max report.loaded maxAddress + 1 ∧
      machine.restart.Stops console number outcome ∧ outcome.ending? number = some ending ∧
      (∃ after left, machine.Returns console ending after left) ∧
      ∀ k < number,
        (machine.restart.machineAt console k).registers.pc = k + 1 ∧
          (machine.restart.cycleAt console k).machine.registers.ir =
            (machine.restart.machineAt console k).memory.get (k + 1) := by
  intro machine report
  have hold : machine.restart.Hold Word.Straight :=
    ⟨straight, Registers.hold_initial Word.straight_inherited⟩
  have size : machine.restart.memory.size = report.loaded + 1 := size_ofSource source
  rcases continued_or_stops machine.restart console (max report.loaded maxAddress + 1) with
    going | ⟨number, within, outcome, stopped, stops⟩
  · refine absurd (fun k earlier => going k ?_) (not_continued_of_straight hold rfl console)
    omega
  · -- The row stops in time, so the run returns; up to there its cycles were straight.
    obtain ⟨ending, ends⟩ := Outcome.exists_ending? stopped number
    refine ⟨number, outcome, ending, within, stops, ends,
      ⟨_, _, returns_iff.mpr ⟨number, outcome, stops, ends, rfl, rfl⟩⟩, fun k earlier => ?_⟩
    have pc : (machine.restart.machineAt console k).registers.pc = 1 + k :=
      pc_machineAt hold console fun j before => stops.before j (by omega)
    have running : (machine.restart.machineAt console k).isHalted = false := by
      simp [isHalted, pc]
    rw [cycleAt_eq_step, step_ir running, pc, Nat.add_comm]
    exact ⟨rfl, rfl⟩

/-- A program that writes its first instruction behind its end and runs into the copy. -/
theorem straight_returns_copy :
    let machine := (ofSource "lda 1\nsta 4\nsta 5").1
    let console : Script := {}
    (machine.runFor 6 console).ending =
        some (.faulted ⟨6, .unset, .illegalInstruction .unset⟩) ∧
      (∀ address, (machine.memory.get address).Straight) ∧
      ∃ ending after left, machine.Returns console ending after left := by
  intro machine console
  have straight : ∀ address, (machine.memory.get address).Straight :=
    Memory.straight_of_cells (by decide +kernel)
  obtain ⟨number, outcome, ending, -, -, -, ⟨after, left, run⟩, -⟩ :=
    straight_returns "lda 1\nsta 4\nsta 5" straight console
  exact ⟨by decide +kernel, straight, ending, after, left, run⟩

end Machine

end Accumulator
