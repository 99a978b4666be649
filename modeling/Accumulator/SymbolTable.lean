import Accumulator.Instruction

/-!
# Symbol tables

A symbol table maps names to addresses. Names are compared in lower case and listed in the order of
their first definition; a later definition changes the address and keeps the place. Every table
starts with the two names of the console, which a program may define again.
-/
namespace Accumulator

structure SymbolTable where
  /-- The names, in lower case, with their addresses, in the order of their first definition. -/
  entries : List (String × Nat)
  deriving DecidableEq, Repr

namespace SymbolTable

/-- The table before any definition: both console names stand for address 0. -/
def initial : SymbolTable := ⟨[("stdin", 0), ("stdout", 0)]⟩

instance : Inhabited SymbolTable := ⟨initial⟩

def size (table : SymbolTable) : Nat := table.entries.length

def get? (table : SymbolTable) (name : String) : Option Nat :=
  table.entries.lookup (Text.lowercase name)

def contains (table : SymbolTable) (name : String) : Bool := (table.get? name).isSome

/-- Gives a key its address: in its place if it has one, at the end otherwise. -/
def insert (key : String) (address : Nat) : List (String × Nat) → List (String × Nat)
  | [] => [(key, address)]
  | entry :: rest =>
    if entry.1 = key then (key, address) :: rest else entry :: insert key address rest

def define (table : SymbolTable) (name : String) (address : Nat) : SymbolTable :=
  ⟨insert (Text.lowercase name) address table.entries⟩

/-- Gives a key its address and says which one it had. -/
def exchange (key : String) (address : Nat) : List (String × Nat) → Option Nat × List (String × Nat)
  | [] => (none, [(key, address)])
  | entry :: rest =>
    if entry.1 = key then (some entry.2, (key, address) :: rest)
    else
      let (earlier, rest) := exchange key address rest
      (earlier, entry :: rest)

/-- Defines a name and says which address it stood for. -/
def redefine (table : SymbolTable) (name : String) (address : Nat) : Option Nat × SymbolTable :=
  let (earlier, entries) := exchange (Text.lowercase name) address table.entries
  (earlier, ⟨entries⟩)

theorem lookup_cons_eq_if (entry : String × Nat) (rest : List (String × Nat)) (key : String) :
    (entry :: rest).lookup key = if key = entry.1 then some entry.2 else rest.lookup key := by
  rw [List.lookup_cons]
  by_cases same : key = entry.1
  · simp [same]
  · simp [same, beq_false_of_ne same]

theorem lookup_insert (key : String) (address : Nat) (entries : List (String × Nat))
    (other : String) :
    (insert key address entries).lookup other =
      if other = key then some address else entries.lookup other := by
  induction entries with
  | nil => simp [insert, lookup_cons_eq_if]
  | cons entry rest ih =>
    unfold insert
    split
    next here =>
      simp only [lookup_cons_eq_if, here]
      split <;> rfl
    next elsewhere =>
      simp only [lookup_cons_eq_if, ih]
      by_cases same : other = entry.1
      · simp [same, elsewhere]
      · simp [same]

/-- A name stands for nothing if it is no key of the table in lower case. -/
theorem get?_eq_none_iff {table : SymbolTable} {name : String} :
    table.get? name = none ↔ ∀ entry ∈ table.entries, entry.1 ≠ Text.lowercase name := by
  rw [get?, List.lookup_eq_none_iff]
  simp only [bne_iff_ne, ne_comm]

/-- A definition is seen under every spelling of its name, and under no other name. -/
theorem get?_define (table : SymbolTable) (name : String) (address : Nat) (other : String) :
    (table.define name address).get? other =
      if Text.lowercase other = Text.lowercase name then some address else table.get? other :=
  lookup_insert _ _ _ _

theorem exchange_eq (key : String) (address : Nat) (entries : List (String × Nat)) :
    exchange key address entries = (entries.lookup key, insert key address entries) := by
  induction entries with
  | nil => rfl
  | cons entry rest ih =>
    rw [exchange, insert, lookup_cons_eq_if]
    by_cases here : entry.1 = key
    · simp [here]
    · simp [here, ih, Ne.symm here]

theorem redefine_eq (table : SymbolTable) (name : String) (address : Nat) :
    table.redefine name address = (table.get? name, table.define name address) := by
  rw [redefine, exchange_eq, get?, define]

end SymbolTable

end Accumulator
