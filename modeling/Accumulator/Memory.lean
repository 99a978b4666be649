import Accumulator.Fault

/-!
# Memory

Memory is a total map from addresses to words that remembers how far it has grown. Reading beyond
its end gives the placeholder; writing beyond its end fills the gap with placeholders. Writing is
bounded by `maxAddress`; appending, which only the assembler does, is not. Nothing but clearing ever
makes it shorter.
-/
namespace Accumulator

structure Memory where
  cells : Array Word := #[.unset]
  nonempty : 0 < cells.size := by decide
  deriving DecidableEq, Repr

namespace Memory

/-- One cell, the placeholder at address 0. -/
def empty : Memory := {}

instance : Inhabited Memory := ⟨empty⟩

/-- How many cells there are, the one at address 0 included. -/
def size (memory : Memory) : Nat := memory.cells.size

def get (memory : Memory) (address : Nat) : Word := memory.cells.getD address .unset

/-- The memory with this word at this address, grown as far as needed. -/
def put (memory : Memory) (address : Nat) (word : Word) : Memory :=
  if inside : address < memory.cells.size then
    ⟨memory.cells.set address word, by rw [Array.size_set]; exact memory.nonempty⟩
  else
    ⟨(memory.cells ++ Array.replicate (address - memory.cells.size) Word.unset).push word, by
      rw [Array.size_push]
      exact Nat.succ_pos _⟩

/-- Why a write to this address is refused: it is beyond the address space. -/
def refusal? (address : Nat) : Option Cause :=
  if maxAddress < address then some (.addressOutOfRange (toString address)) else none

/-- Writes a word, unless the address refuses it. -/
def write (memory : Memory) (address : Nat) (word : Word) : Except Cause Memory :=
  match refusal? address with
  | some cause => .error cause
  | none => .ok (memory.put address word)

/-- Cuts the memory back to its first cell and puts the placeholder there. -/
def clear (memory : Memory) : Memory :=
  have first : 0 < (memory.cells.take 1).size := by
    rw [Array.take_eq_extract, Array.size_extract]
    exact Nat.lt_min.mpr ⟨Nat.one_pos, memory.nonempty⟩
  ⟨(memory.cells.take 1).set 0 .unset first, by rwa [Array.size_set]⟩

/-- Appends a word; its address is the size of the memory before. -/
def push (memory : Memory) (word : Word) : Memory :=
  ⟨memory.cells.push word, by simp⟩

/-- Appends a word and says where it is, which is in the last cell that there is then. -/
def append (memory : Memory) (word : Word) : Nat × Memory :=
  let appended := memory.push word
  (appended.size - 1, appended)

@[simp] theorem size_empty : empty.size = 1 := rfl

@[simp] theorem get_empty (address : Nat) : empty.get address = .unset := by
  cases address <;> simp [empty, get]

theorem get_of_size_le {memory : Memory} {address : Nat} (beyond : memory.size ≤ address) :
    memory.get address = .unset := by
  simp only [size] at beyond
  simp [get, Array.getElem?_eq_none beyond]

/-- Nothing that was written to a memory is left when it is cleared. -/
@[simp] theorem clear_eq_empty (memory : Memory) : memory.clear = .empty := by
  obtain ⟨⟨cells⟩, nonempty⟩ := memory
  cases cells with
  | nil => exact absurd nonempty (Nat.lt_irrefl 0)
  | cons first rest => simp [clear, empty]

@[simp] theorem size_push (memory : Memory) (word : Word) :
    (memory.push word).size = memory.size + 1 := by
  simp [push, size]

theorem append_eq (memory : Memory) (word : Word) :
    memory.append word = (memory.size, memory.push word) := by
  simp [append]

theorem get_push (memory : Memory) (word : Word) (address : Nat) :
    (memory.push word).get address = if address = memory.size then word else memory.get address := by
  simp only [get, push, size, Array.getD_eq_getD_getElem?, Array.getElem?_push]
  split <;> simp

theorem size_put (memory : Memory) (address : Nat) (word : Word) :
    (memory.put address word).size = max memory.size (address + 1) := by
  unfold put size
  split
  · simp only [Array.size_set]
    omega
  · simp only [Array.size_push, Array.size_append, Array.size_replicate]
    omega

theorem get_put (memory : Memory) (target : Nat) (word : Word) (address : Nat) :
    (memory.put target word).get address = if address = target then word else memory.get address := by
  unfold put
  split
  next inside =>
    simp only [get, Array.getD_eq_getD_getElem?, Array.getElem?_set]
    split <;> rename_i same
    · simp [same]
    · simp [Ne.symm same]
  next outside =>
    simp only [get, Array.getD_eq_getD_getElem?, Array.getElem?_push, Array.size_append,
      Array.size_replicate, Array.getElem?_append, Array.getElem?_replicate]
    have gap : memory.cells.size + (target - memory.cells.size) = target := by omega
    rw [gap]
    split
    · rfl
    · split
      · rfl
      next beyond =>
        rw [Array.getElem?_eq_none (by omega)]
        split <;> rfl

theorem refusal?_eq_some_iff {address : Nat} {cause : Cause} :
    refusal? address = some cause ↔
      maxAddress < address ∧ cause = .addressOutOfRange (toString address) := by
  unfold refusal?
  split
  next beyond => simp [beyond, eq_comm]
  next within => simp [within]

theorem refusal?_eq_none_iff {address : Nat} : refusal? address = none ↔ address ≤ maxAddress := by
  simp [refusal?]

theorem write_eq_ok_iff {memory written : Memory} {address : Nat} {word : Word} :
    memory.write address word = .ok written ↔
      address ≤ maxAddress ∧ written = memory.put address word := by
  rw [← refusal?_eq_none_iff, write]
  cases refusal? address <;> simp [eq_comm]

theorem write_eq_error_iff {memory : Memory} {address : Nat} {word : Word} {cause : Cause} :
    memory.write address word = .error cause ↔
      maxAddress < address ∧ cause = .addressOutOfRange (toString address) := by
  rw [← refusal?_eq_some_iff, write]
  cases refusal? address <;> simp

end Memory

end Accumulator
