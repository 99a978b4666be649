import Accumulator.Console.Script
import Accumulator.Proofs.Cycles
import Accumulator.Proofs.History

/-!
# What a machine forgets

What was done to a machine is left in its memory, its labels and its registers. A load wipes the
first two and a run the third, so after both nothing is left of it: a machine that was loaded again
runs as a new one does (`runFor_after_load`). Without a load the memory and the labels are kept, and
a run depends on them and on the console alone.
-/
namespace Accumulator

namespace Machine

/-- A loaded machine is a new one with the registers that it had. -/
theorem load_eq_ofSource (machine : Machine) (source : String) :
    machine.load source =
      ({ (ofSource source).1 with registers := machine.registers }, (ofSource source).2) := by
  rw [ofSource, load_eq_assemble, load_eq_assemble]

theorem restart_congr {machine other : Machine} (memory : other.memory = machine.memory)
    (symbols : other.symbols = machine.symbols) : other.restart = machine.restart := by
  rw [restart, restart, memory, symbols]

variable {κ : Type} [Console κ]

/-- Whatever an earlier run, a cycle or a fault has left in the registers, a run does not see it. -/
theorem runFor_congr {machine other : Machine} (memory : other.memory = machine.memory)
    (symbols : other.symbols = machine.symbols) (limit : Nat) (console : κ) :
    other.runFor limit console = machine.runFor limit console := by
  rw [runFor, runFor, restart_congr memory symbols]

/-- A load makes of any machine, whatever was done to it, one that runs as a new machine does; its
registers stay until then. Without a load a run depends on no more than the memory, the labels and
the console. -/
theorem runFor_after_load (machine : Machine) (operations : List Operation) (source : String) :
    let used := machine.after operations
    let loaded := used.load source
    let fresh := ofSource source
    loaded.1.registers = used.registers ∧ loaded.2 = fresh.2 ∧
      loaded.1.memory = fresh.1.memory ∧ loaded.1.symbols = fresh.1.symbols ∧
      (∀ limit (console : κ), loaded.1.runFor limit console = fresh.1.runFor limit console) ∧
      (∀ (console : κ) ending after left,
        loaded.1.Returns console ending after left ↔ fresh.1.Returns console ending after left) ∧
      ∀ other : Machine, other.memory = used.memory → other.symbols = used.symbols →
        ∀ limit (console : κ), other.runFor limit console = used.runFor limit console := by
  intro used loaded fresh
  have same : loaded = ({ fresh.1 with registers := used.registers }, fresh.2) :=
    load_eq_ofSource used source
  have memory : loaded.1.memory = fresh.1.memory := by rw [same]
  have symbols : loaded.1.symbols = fresh.1.symbols := by rw [same]
  have run (limit : Nat) (console : κ) :
      loaded.1.runFor limit console = fresh.1.runFor limit console :=
    runFor_congr memory symbols limit console
  refine ⟨by rw [same], by rw [same], memory, symbols, run, fun console ending after left => ?_, ?_⟩
  · simp only [Returns, run]
  · intro other memory symbols limit console
    exact runFor_congr memory symbols limit console

/-- A program that takes `stdin` for a label of its own and faults behind a word that was put into
cell 0, and the one that is loaded after it. -/
theorem runFor_after_load_junk :
    let used := ({} : Machine).after
      [.load "stdin, set 4\nsta 30\nadd stdin", .poke 0 (.text "junk"), .run 9 ({} : Script)]
    let loaded := (used.load "lda stdin\nsta stdout\nhlt").1
    let fresh := (ofSource "lda stdin\nsta stdout\nhlt").1
    used.memory.get 0 = .text "junk" ∧ used.memory.size = 31 ∧ used.symbols.get? "stdin" = some 1 ∧
      loaded.registers.acc ≠ fresh.registers.acc ∧ loaded.registers.pc = 0 ∧
      loaded.memory = fresh.memory ∧
      loaded.runFor 9 (Script.mk ["7"] #[]) = fresh.runFor 9 (Script.mk ["7"] #[]) := by
  intro used loaded fresh
  obtain ⟨-, -, memory, -, run, -⟩ :=
    runFor_after_load (κ := Script) {}
      [.load "stdin, set 4\nsta 30\nadd stdin", .poke 0 (.text "junk"), .run 9 ({} : Script)]
      "lda stdin\nsta stdout\nhlt"
  exact ⟨by decide +kernel, by decide +kernel, by decide +kernel, by decide +kernel,
    by decide +kernel, memory, run 9 (Script.mk ["7"] #[])⟩

end Machine

end Accumulator
