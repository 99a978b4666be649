import Accumulator.Console.Script
import Accumulator.Proofs.Footprint

/-!
# What a row of cycles does not see

A row of cycles sees no more of the memory than the words that it reads. So it cannot tell how far
the memory has grown (`sameCycle_of_get_eq`), and what is in a cell does not matter until the cell
is read. If it is written first, it need never have mattered: from then on the machines are the same
(`sameCycle_of_unread`).
-/
namespace Accumulator

/-- Placeholders at the end of a memory make it longer, and that is all. -/
theorem Memory.get_put_unset {memory : Memory} {target : Nat} (beyond : memory.size ≤ target)
    (address : Nat) : (memory.put target .unset).get address = memory.get address := by
  rw [get_put]
  split
  next here => rw [here, get_of_size_le beyond]
  next => rfl

/-- Do the machines differ at most in what they hold in one cell? -/
structure Machine.SameExcept (cell : Nat) (left right : Machine) : Prop where
  symbols : right.symbols = left.symbols
  registers : right.registers = left.registers
  size : right.memory.size = left.memory.size
  cells : ∀ address, address ≠ cell → right.memory.get address = left.memory.get address

namespace Machine

variable {left right : Machine}

theorem Agree.eq_of_memory_eq {known : Nat → Prop} (agree : left.Agree known right)
    (same : right.memory = left.memory) : right = left :=
  calc right = left.withMemory right.memory := agree.eq_withMemory
    _ = left := by rw [same]; rfl

theorem SameExcept.agree {cell : Nat} (alike : left.SameExcept cell right) :
    left.Agree (fun address => address ≠ cell) right :=
  ⟨alike.symbols, alike.registers, alike.cells⟩

variable {κ : Type} [Console κ]

/-- Two rows on memories with the same words go the same way, whatever the lengths of the memories,
and the memories still have the same words in the end. -/
theorem sameCycle_of_get_eq (symbols : right.symbols = left.symbols)
    (registers : right.registers = left.registers)
    (cells : ∀ address, right.memory.get address = left.memory.get address) (console : κ) (k : Nat) :
    left.SameCycle right console k ∧
      ∀ address, (right.cycleAt console k).machine.memory.get address =
        (left.cycleAt console k).machine.memory.get address := by
  -- Every cell is known from the start, so it does not matter which of them are read.
  have agree : left.Agree (fun _ => True) right := ⟨symbols, registers, fun cell _ => cells cell⟩
  have seen (j cell : Nat) : left.KnownAt (fun _ => True) console j cell := .inl trivial
  obtain ⟨-, machines⟩ := agree.machineAt fun j (_ : j < k + 1) cell _ => seen j cell
  exact ⟨agree.sameCycle fun j _ cell _ => seen j cell,
    fun address => machines.cells address (seen (k + 1) address)⟩

/-- A program on a memory of its own size and on one with placeholders up to cell 30. It loads one of
these, and faults as it branches through another. -/
theorem sameCycle_of_get_eq_fault :
    let left := (ofSource "set 7\nsta 6\nlda 9\nbri 8").1
    let right := left.withMemory (left.memory.put 30 .unset)
    left.memory.size = 5 ∧ right.memory.size = 31 ∧ left.SameCycle right ({} : Script) 3 ∧
      (left.cycleAt ({} : Script) 3).outcome.cause? = some (.nonNumeric .unset) := by
  intro left right
  have short : left.memory.size ≤ 30 := by decide +kernel
  have cells : ∀ address, (left.memory.put 30 .unset).get address = left.memory.get address :=
    Memory.get_put_unset short
  have cycle := (sameCycle_of_get_eq (symbols_withMemory left _) (registers_withMemory left _) cells
    ({} : Script) 3).1
  exact ⟨by decide +kernel, by decide +kernel, cycle, by decide +kernel⟩

/-- A cell that a row of cycles does not read before it has written it has no part in the row, and
the machines are the same as soon as it is written. -/
theorem sameCycle_of_unread {cell : Nat} (positive : 1 ≤ cell)
    (alike : left.SameExcept cell right) (console : κ) (count : Nat)
    (unread : ∀ j < count,
      (∀ i < j, ¬ (left.machineAt console i).Writes (left.consoleAt console i) cell) →
        ¬ (left.machineAt console j).Reads cell) :
    (∀ k < count, left.SameCycle right console k) ∧
      (left.machineAt console count).SameExcept cell (right.machineAt console count) ∧
      ((∃ j < count, (left.machineAt console j).Writes (left.consoleAt console j) cell) →
        right.machineAt console count = left.machineAt console count) := by
  -- The cell is the only one of which it is not known at first what it holds.
  have agree := alike.agree
  have seen : ∀ j < count, ∀ address, (left.machineAt console j).Reads address →
      left.KnownAt (fun address => address ≠ cell) console j address := by
    intro j earlier address reads
    by_cases here : address = cell
    · subst here
      by_cases written : ∃ i < j,
          (left.machineAt console i).Writes (left.consoleAt console i) address
      · obtain ⟨i, before, writes⟩ := written
        exact .inr ⟨i, before, exists_write_of_writes positive writes⟩
      · exact absurd reads
          (unread j earlier fun i before writes => written ⟨i, before, writes⟩)
    · exact .inl here
  obtain ⟨-, machines⟩ := agree.machineAt seen
  have sizes := agree.size_machineAt alike.size seen
  refine ⟨fun k within => agree.sameCycle fun j order => seen j (by omega), ?_, ?_⟩
  · exact ⟨machines.symbols, machines.registers, sizes,
      fun address other => machines.cells address (.inl other)⟩
  · rintro ⟨j, earlier, writes⟩
    apply machines.eq_of_memory_eq
    refine Memory.ext_get sizes fun address => machines.cells address ?_
    -- Every other cell was known at first, and this one is known since it was written.
    by_cases here : address = cell
    · subst here
      exact .inr ⟨j, earlier, exists_write_of_writes positive writes⟩
    · exact .inl here

/-- A program that writes to the cell behind its code before it loads from it. -/
theorem sameCycle_of_unread_scratch :
    let left := (ofSource "set 5\nsta 6\nlda 6\nsta stdout\nhlt\nnoop").1
    let right := left.withMemory (left.memory.put 6 (.text "other"))
    right ≠ left ∧ (∀ k < 5, left.SameCycle right ({} : Script) k) ∧
      right.machineAt ({} : Script) 5 = left.machineAt ({} : Script) 5 := by
  intro left right
  have alike : left.SameExcept 6 right := by
    refine ⟨rfl, rfl, by decide +kernel, fun address other => ?_⟩
    exact (Memory.get_put _ _ _ _).trans (if_neg other)
  obtain ⟨cycles, -, written⟩ :=
    sameCycle_of_unread (by decide) alike ({} : Script) 5 (by decide +kernel)
  exact ⟨by decide +kernel, cycles, written ⟨1, by decide +kernel⟩⟩

end Machine

end Accumulator
