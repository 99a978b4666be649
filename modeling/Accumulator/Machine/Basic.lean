import Accumulator.Assembly

/-!
# The machine

A machine is a memory, the labels of the program in it, and five registers. It is halted while its
program counter is 0.
-/
namespace Accumulator

structure Registers where
  /-- Program counter: the address to fetch from next. -/
  pc : Nat := 1
  /-- Address register: where the last access went. -/
  ar : Option Nat := none
  /-- Instruction register: the word that was fetched last. -/
  ir : Word := .unset
  /-- Accumulator. -/
  acc : Word := .unset
  /-- The second operand of the last arithmetic. -/
  b : Word := .unset
  deriving DecidableEq, Inhabited, Repr

structure Machine where
  memory : Memory := .empty
  symbols : SymbolTable := .initial
  registers : Registers := {}
  deriving DecidableEq, Inhabited, Repr

namespace Machine

def isHalted (machine : Machine) : Bool := machine.registers.pc == 0

/-- Replaces the memory and the labels by those of a program. The registers stay. -/
def load (machine : Machine) (source : String) : Machine × Report :=
  let image := (Listing.ofSource source).loadInto machine.memory
  ({ machine with memory := image.memory, symbols := image.symbols }, image.report)

/-- What was in memory before makes no difference. -/
theorem load_eq_assemble (machine : Machine) (source : String) :
    machine.load source =
      ({ machine with memory := (assemble source).memory, symbols := (assemble source).symbols },
        (assemble source).report) := by
  simp only [load, assemble, Listing.loadInto_eq_image]

def ofSource (source : String) : Machine × Report := load {} source

/-- The word at an address. -/
def peek (machine : Machine) (address : Nat) : Word := machine.memory.get address

/-- Writes a word into memory from outside. -/
def poke (machine : Machine) (address : Nat) (word : Word) : Except Cause Machine :=
  (machine.memory.write address word).map fun memory => { machine with memory }

theorem poke_eq_ok_iff {machine poked : Machine} {address : Nat} {word : Word} :
    machine.poke address word = .ok poked ↔
      address ≤ maxAddress ∧ poked = { machine with memory := machine.memory.put address word } := by
  rw [poke]
  rcases Nat.lt_or_ge maxAddress address with beyond | within
  · simp [Memory.write_eq_error_iff.mpr ⟨beyond, rfl⟩, Except.map, Nat.not_le_of_lt beyond]
  · simp [Memory.write_eq_ok_iff.mpr ⟨within, rfl⟩, Except.map, within, eq_comm]

/-- The machine with fresh registers, as every run starts. -/
def restart (machine : Machine) : Machine := { machine with registers := {} }

end Machine

end Accumulator
