import Accumulator.Proofs.Addressing
import Accumulator.Proofs.Assembly
import Accumulator.Proofs.Growth
import Accumulator.Proofs.History
import Accumulator.Proofs.Stores

/-!
# Cell 0

To a program, address 0 is the console, so no instruction writes to cell 0, and a load leaves the
placeholder there. From outside the cell can be written to like any other. So it holds what was put
there last by a write or a poke at address 0 since the memory was cleared or loaded last, and the
placeholder if there was none. An indirect branch reads the cell, and goes to an address that was
put there. Main statement: `get_zero_last`; a branch through a cell 0 that was poked is
`get_zero_poked`.
-/
namespace Accumulator

/-- What the request puts into cell 0, if it does. -/
def Memory.Request.intoZero? : Memory.Request → Option Word
  | .clear => some .unset
  | .push _ => none
  | .write address word => if address = 0 then some word else none

/-- What the operation puts into cell 0, if it does. -/
def Operation.intoZero? : Operation → Option Word
  | .load _ => some .unset
  | .poke address word => if address = 0 then some word else none
  | @step _ _ _ | @run _ _ _ _ => none

theorem getLastD_filterMap_cons {α β : Type*} (into? : α → Option β) (first : α) (later : List α)
    (held : β) :
    ((first :: later).filterMap into?).getLastD held =
      (later.filterMap into?).getLastD ((into? first).getD held) := by
  rw [List.filterMap_cons]
  cases into? first with
  | none => rfl
  | some word => rw [List.getLastD_cons, Option.getD_some]

namespace Memory

theorem get_zero_answer (memory : Memory) (request : Request) :
    (memory.answer request).2.get 0 = request.intoZero?.getD (memory.get 0) := by
  cases request with
  | clear =>
    rw [answer, clear_eq_empty]
    exact get_empty 0
  | push word =>
    have behind : 0 ≠ memory.size := Nat.ne_of_lt memory.nonempty
    rw [answer_push, get_push, if_neg behind]
    rfl
  | write address word =>
    rcases Nat.lt_or_ge maxAddress address with beyond | within
    · rw [answer_write_of_lt beyond, Request.intoZero?, if_neg (by omega)]
      rfl
    · rw [answer_write_of_le within, get_put, Request.intoZero?]
      by_cases here : address = 0
      · rw [if_pos here, if_pos here.symm, Option.getD_some]
      · rw [if_neg here, if_neg (Ne.symm here), Option.getD_none]

theorem get_zero_after (memory : Memory) (requests : List Request) :
    (memory.after requests).get 0 =
      (requests.filterMap Request.intoZero?).getLastD (memory.get 0) := by
  induction requests generalizing memory with
  | nil => rfl
  | cons request later ih =>
    rw [getLastD_filterMap_cons, ← get_zero_answer, ← ih]
    rfl

end Memory

namespace Machine

theorem poke_eq_answer (machine : Machine) (address : Nat) (word : Word) :
    ((Operation.poke address word).apply machine).memory =
      (machine.memory.answer (.write address word)).2 := by
  rw [Operation.apply, poke, Memory.answer]
  cases machine.memory.write address word <;> rfl

theorem get_zero_apply (machine : Machine) (operation : Operation) :
    (operation.apply machine).memory.get 0 = operation.intoZero?.getD (machine.memory.get 0) := by
  cases operation with
  | load source =>
    rw [Operation.apply, load_eq_assemble]
    exact Code.get_memory_zero _
  | poke address word =>
    rw [poke_eq_answer, Memory.get_zero_answer]
    rfl
  -- No cycle writes to the cell, whatever the program has made of itself by then.
  | step console => exact (machine.keepsOutside_step console).cells 0 (.inl rfl)
  | run limit console =>
    rw [Operation.apply, (runFor_eq_machineAt limit machine console).1]
    exact (machine.restart.keepsOutside_machineAt console limit).cells 0 (.inl rfl)

theorem get_zero_after (machine : Machine) (operations : List Operation) :
    (machine.after operations).memory.get 0 =
      (operations.filterMap Operation.intoZero?).getLastD (machine.memory.get 0) := by
  induction operations generalizing machine with
  | nil => rfl
  | cons operation later ih => rw [getLastD_filterMap_cons, ← get_zero_apply, ← ih, after]

theorem eq_unset_or_poke_of_intoZero? {operation : Operation} {word : Word}
    (put : operation.intoZero? = some word) : word = .unset ∨ operation = .poke 0 word := by
  cases operation with
  | load => exact .inl (Option.some.inj put).symm
  | poke address other =>
    rw [Operation.intoZero?] at put
    split at put
    next console_cell =>
      cases put
      exact .inr (by rw [console_cell])
    next => cases put
  | step | run => cases put

theorem getLastD_intoZero?_of_spared {operations : List Operation}
    (spared : ∀ word, .poke 0 word ∈ operations → word = .unset) :
    (operations.filterMap Operation.intoZero?).getLastD .unset = .unset := by
  -- The last word is the placeholder that was there at first, or one of those that were put there.
  rcases List.mem_cons.mp List.getLastD_mem_cons with last | last
  · exact last
  · obtain ⟨operation, member, put⟩ := List.mem_filterMap.mp last
    rcases eq_unset_or_poke_of_intoZero? put with empty | rfl
    · exact empty
    · exact spared _ member

/-! ### Indirect branches -/

variable {κ : Type} [Console κ] {machine : Machine} {cell : Nat}

theorem cause?_of_bri (branches : machine.Executes .bri cell) (console : κ) (cause : Cause) :
    (machine.step console).outcome.cause? = some cause ↔
      (machine.memory.get cell).integer? = none ∧ cause = .nonNumeric (machine.memory.get cell) ∨
        ∃ n, (machine.memory.get cell).integer? = some n ∧ n.toInt < 0 ∧
          cause = .invalidAddress n.toInt := by
  obtain ⟨running, decided⟩ := executes_bri_iff.mp branches
  rw [step_of_action running decided, Effect.finish_cause?]
  exact jumpThrough_failure_iff

/-- The machine blames the placeholder exactly if that is what it finds. -/
theorem blames_unset_iff (branches : machine.Executes .bri cell) (console : κ) :
    (machine.step console).outcome.cause? = some (.nonNumeric .unset) ↔
      machine.memory.get cell = .unset := by
  rw [cause?_of_bri branches]
  constructor
  · rintro (⟨-, blamed⟩ | ⟨_, -, -, blamed⟩)
    · exact (Cause.nonNumeric.inj blamed).symm
    · cases blamed
  · intro empty
    rw [empty]
    exact .inl ⟨rfl, rfl⟩

theorem pc_of_bri (branches : machine.Executes .bri cell) {n : Integer}
    (value : (machine.memory.get cell).integer? = some n) (natural : 0 ≤ n.toInt) (console : κ) :
    ((machine.step console).machine.registers.pc : Int) = n.toInt := by
  obtain ⟨running, decided⟩ := executes_bri_iff.mp branches
  have held : ((machine.fetch.advance.aim cell).memory.get cell).integer? = some n := value
  have gone : machine.fetch.advance.perform console (.jumpThrough cell) =
      (machine.fetch.advance.aim cell).settle console none
        ({ (machine.fetch.advance.aim cell).registers with pc := n.toInt.toNat }, none) := by
    simp only [perform, Registers.goTo, held, if_neg (Int.not_lt.mpr natural)]
  rw [step_of_action running decided, gone, Effect.finish_of_success rfl]
  exact Int.toNat_of_nonneg natural

/-- An indirect branch is no fault exactly if it goes to the address that its cell stands for. -/
theorem cause?_of_bri_eq_none_iff (branches : machine.Executes .bri cell) (console : κ) :
    (machine.step console).outcome.cause? = none ↔
      ∃ n, (machine.memory.get cell).integer? = some n ∧
        ((machine.step console).machine.registers.pc : Int) = n.toInt := by
  constructor
  · intro quiet
    have fails := fun cause => (cause?_of_bri branches console cause).not.mp (by simp [quiet])
    cases value : (machine.memory.get cell).integer? with
    | none => exact absurd (.inl ⟨value, rfl⟩) (fails _)
    | some n =>
      have natural : 0 ≤ n.toInt :=
        Int.not_lt.mp fun negative => fails _ (.inr ⟨n, value, negative, rfl⟩)
      exact ⟨n, rfl, pc_of_bri branches value natural console⟩
  · rintro ⟨n, value, arrived⟩
    -- A fault would leave 0 in the program counter, which is no negative address.
    rw [Option.eq_none_iff_forall_ne_some]
    intro cause faulted
    rcases (cause?_of_bri branches console cause).mp faulted with ⟨other, -⟩ | ⟨_, same, negative, -⟩
    · cases value.symm.trans other
    · cases value.symm.trans same
      omega

/-! ### Histories -/

/-- There always is a cell 0. It holds what was put there last from outside, the placeholder after a
new start: so always the placeholder, unless something else is written or poked to address 0. An
indirect branch through it blames the placeholder exactly if that is what the cell holds. -/
theorem get_zero_last (requests : List Memory.Request) (operations : List Operation) :
    let memory := Memory.empty.after requests
    let machine := ({} : Machine).after operations
    (1 ≤ memory.size ∧
      memory.get 0 = (requests.filterMap Memory.Request.intoZero?).getLastD .unset) ∧
      1 ≤ machine.memory.size ∧
      machine.memory.get 0 = (operations.filterMap Operation.intoZero?).getLastD .unset ∧
      ((∀ word, .poke 0 word ∈ operations → word = .unset) → machine.memory.get 0 = .unset) ∧
      ∀ {κ : Type} [Console κ] (console : κ), machine.Executes .bri 0 →
        ((machine.step console).outcome.cause? = some (.nonNumeric .unset) ↔
          machine.memory.get 0 = .unset) ∧
        ((machine.step console).outcome.cause? = none ↔
          ∃ n, (machine.memory.get 0).integer? = some n ∧
            ((machine.step console).machine.registers.pc : Int) = n.toInt) := by
  intro memory machine
  have held : memory.get 0 = (requests.filterMap Memory.Request.intoZero?).getLastD .unset :=
    (Memory.empty.get_zero_after requests).trans (by rw [Memory.get_empty])
  have last : machine.memory.get 0 = (operations.filterMap Operation.intoZero?).getLastD .unset :=
    (({} : Machine).get_zero_after operations).trans (by rw [Memory.get_empty])
  exact ⟨⟨memory.nonempty, held⟩, machine.memory.nonempty, last,
    fun spared => last.trans (getLastD_intoZero?_of_spared spared), fun console branches =>
      ⟨blames_unset_iff branches console, cause?_of_bri_eq_none_iff branches console⟩⟩

/-- A poke to address 0 that a later load takes back, where the branch comes second; and a poke that
leaves the placeholder as it is. -/
theorem get_zero_last_reloaded :
    let operations : List Operation :=
      [.load "bri 0", .poke 0 (.integer 2), .load "noop\nbri stdin", .poke 3 (.integer 1),
        .step ({} : Script)]
    let machine := ({} : Machine).after operations
    let erasing : List Operation := [.load "bri 0", .poke 0 .unset]
    (Memory.empty.after [.write 0 (.integer 5), .push (.integer 6)]).get 0 = .integer 5 ∧
      1 ≤ machine.memory.size ∧ machine.memory.get 0 = .unset ∧
      (machine.step ({} : Script)).outcome.cause? = some (.nonNumeric .unset) ∧
      (({} : Machine).after erasing).memory.get 0 = .unset := by
  intro operations machine erasing
  have branches : machine.Executes .bri 0 := by decide +kernel
  obtain ⟨⟨-, held⟩, grown, last, -, branch⟩ :=
    get_zero_last [.write 0 (.integer 5), .push (.integer 6)] operations
  obtain ⟨-, -, -, spared, -⟩ := get_zero_last [] erasing
  refine ⟨held, grown, last, (branch ({} : Script) branches).1.mpr last, spared fun word member => ?_⟩
  rcases List.mem_cons.mp member with loaded | poked
  · cases loaded
  · cases List.mem_singleton.mp poked
    rfl

/-- A word in cell 0, and a branch through it that goes to the second instruction. -/
theorem get_zero_poked :
    let machine := ({} : Machine).after [.load "bri 0\nhlt", .poke 0 (.integer 2)]
    let cycle := machine.step ({} : Script)
    (Memory.empty.after [.write 0 (.integer 5)]).get 0 ≠ .unset ∧
      machine.memory.get 0 ≠ .unset ∧ machine.Executes .bri 0 ∧
      cycle.outcome = .continued ∧ cycle.machine.registers.pc = 2 := by
  decide +kernel

end Machine

end Accumulator
