import Accumulator.Proofs.Causes

/-!
# What a cycle writes

A cycle never touches the labels (`step_symbols`). It writes at most one cell of memory, and that
is one that a program may write to (`step_memory`).
-/
namespace Accumulator

/-- Is the later memory the earlier one, but for a word that the action has written? -/
def Action.Writes (action : Action) (earlier later : Memory) : Prop :=
  later = earlier ∨
    ∃ target word, action.target? = some target ∧ target ≠ 0 ∧ target ≤ maxAddress ∧
      later = earlier.put target word

/-- Ending a cycle changes the program counter at most. -/
theorem Effect.finish_keeps {κ : Type} (effect : Effect κ) (address : Nat) :
    (effect.finish address).machine.symbols = effect.machine.symbols ∧
      (effect.finish address).machine.memory = effect.machine.memory := by
  unfold finish
  split <;> exact ⟨rfl, rfl⟩

namespace Machine

variable {κ : Type}

theorem enter_writes (machine : Machine) (console : κ) (target : Nat) :
    (machine.enter console target).machine.symbols = machine.symbols ∧
      (Action.call target).Writes machine.memory (machine.enter console target).machine.memory := by
  unfold enter
  split
  · exact ⟨rfl, .inl rfl⟩
  next positive =>
    split
    · exact ⟨rfl, .inl rfl⟩
    · exact ⟨rfl, .inl rfl⟩
    next accepted =>
      exact ⟨rfl, .inr ⟨target, _, rfl, positive, Memory.refusal?_eq_none_iff.mp accepted, rfl⟩⟩

variable [Console κ]

theorem send_writes (machine : Machine) (console : κ) (target : Nat) :
    (machine.send console target).machine.symbols = machine.symbols ∧
      (Action.store target).Writes machine.memory (machine.send console target).machine.memory := by
  by_cases console_cell : target = 0
  · subst console_cell
    rw [send_zero]
    exact ⟨rfl, .inl rfl⟩
  · rw [send_of_ne_zero _ _ console_cell]
    split
    · exact ⟨rfl, .inl rfl⟩
    next accepted =>
      exact ⟨rfl, .inr ⟨target, _, rfl, console_cell, Memory.refusal?_eq_none_iff.mp accepted, rfl⟩⟩

theorem perform_writes (machine : Machine) (console : κ) (action : Action) :
    (machine.perform console action).machine.symbols = machine.symbols ∧
      action.Writes machine.memory (machine.perform console action).machine.memory := by
  cases action with
  | combine op source | load source =>
    simp only [perform]
    split <;> exact ⟨rfl, .inl rfl⟩
  | store target => exact send_writes (machine.aim target) console target
  | call target => exact enter_writes machine console target
  | adjust | assign | jump | jumpThrough | skip => exact ⟨rfl, .inl rfl⟩

theorem step_symbols (machine : Machine) (console : κ) :
    (machine.step console).machine.symbols = machine.symbols := by
  rcases machine.step_cases console with ⟨_, same⟩ | ⟨_, _, _, same⟩ | ⟨action, _, _, same⟩
  · rw [same]
  · rw [same]
    rfl
  · rw [same, (Effect.finish_keeps _ _).1]
    exact (perform_writes machine.fetch.advance console action).1

theorem step_memory (machine : Machine) (console : κ) :
    (machine.step console).machine.memory = machine.memory ∨
      ∃ action target word, machine.action? = .ok action ∧ action.target? = some target ∧
        target ≠ 0 ∧ target ≤ maxAddress ∧
        (machine.step console).machine.memory = machine.memory.put target word := by
  rcases machine.step_cases console with ⟨_, same⟩ | ⟨_, _, _, same⟩ | ⟨action, _, decided, same⟩
  · exact .inl (by rw [same])
  · exact .inl (by rw [same]; rfl)
  · rw [same, (Effect.finish_keeps _ _).2]
    rcases (perform_writes machine.fetch.advance console action).2 with
      kept | ⟨target, word, writes, positive, within, written⟩
    · exact .inl kept
    · exact .inr ⟨action, target, word, decided, writes, positive, within, written⟩

/-- Memory grows no further than a program may write. -/
theorem size_step_le (machine : Machine) (console : κ) :
    (machine.step console).machine.memory.size ≤ max machine.memory.size (maxAddress + 1) := by
  rcases machine.step_memory console with same | ⟨_, target, word, _, _, _, within, written⟩
  · rw [same]
    omega
  · rw [written, Memory.size_put]
    omega

end Machine

end Accumulator
