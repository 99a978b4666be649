import Accumulator.Proofs.Disassembly
import Accumulator.Proofs.History
import Accumulator.Proofs.Writes

/-!
# The bounds of the address space

A program, and whoever pokes from outside, can write up to `maxAddress` and no further. A load knows
no such bound: it appends one cell for every statement of its source. So what is in the cells above
`maxAddress` is what the last load has put there (`Memory.Overlies`), and the memory ends within the
address space exactly if that program did. Main statement: `after_bounded`; a program that is too
long is `size_after_overlong`.
-/
namespace Accumulator

/-- Can the later memory come from the earlier one by writing within the address space? -/
structure Memory.Overlies (later earlier : Memory) : Prop where
  above : ∀ address, maxAddress < address → later.get address = earlier.get address
  grown : earlier.size ≤ later.size
  bounded : later.size ≤ max earlier.size (maxAddress + 1)

namespace Memory

variable {later earlier : Memory}

theorem Overlies.refl (memory : Memory) : memory.Overlies memory :=
  ⟨fun _ _ => rfl, Nat.le_refl _, Nat.le_max_left _ _⟩

theorem Overlies.put (overlies : later.Overlies earlier) {target : Nat}
    (within : target ≤ maxAddress) (word : Word) : (later.put target word).Overlies earlier where
  above address beyond := by
    rw [get_put, if_neg (by omega)]
    exact overlies.above address beyond
  grown := by
    have grown := overlies.grown
    rw [size_put]
    omega
  bounded := by
    have bounded := overlies.bounded
    rw [size_put]
    omega

theorem Overlies.size_le_iff (overlies : later.Overlies earlier) :
    later.size ≤ maxAddress + 1 ↔ earlier.size ≤ maxAddress + 1 := by
  have grown := overlies.grown
  have bounded := overlies.bounded
  omega

end Memory

/-! ### Operations -/

namespace Operation

def IsLoad : Operation → Prop
  | .load _ => True
  | .poke _ _ | @step _ _ _ | @run _ _ _ _ => False

/-- What is in memory because of the last load, this operation included. -/
def reload (image : Memory) : Operation → Memory
  | .load source => (assemble source).memory
  | .poke _ _ | @step _ _ _ | @run _ _ _ _ => image

end Operation

/-- The memory as the last of the operations that is a load has made it. -/
def lastImage (operations : List Operation) : Memory := operations.foldl Operation.reload .empty

theorem overlies_preserved (image : Memory) :
    Preserved (fun operation => ¬ operation.IsLoad) fun _ machine =>
      machine.memory.Overlies image where
  load _ _ _ other := absurd trivial other
  poke _ machine address word poked _ written overlies := by
    obtain ⟨within, rfl⟩ := Machine.poke_eq_ok_iff.mp written
    exact overlies.put within word
  restart _ _ overlies := overlies
  -- A cycle writes one cell at most, and never one above the bound.
  step _ machine console overlies := by
    rcases machine.step_memory console with same | ⟨_, target, word, _, _, _, within, written⟩
    · rw [same]
      exact overlies
    · rw [written]
      exact overlies.put within word

namespace Operation

theorem apply_overlies {machine : Machine} {image : Memory}
    (overlies : machine.memory.Overlies image) (operation : Operation) :
    (operation.apply machine).memory.Overlies (operation.reload image) := by
  cases operation with
  | load source =>
    rw [apply, reload, Machine.load_eq_assemble]
    exact .refl _
  | poke | step | run => exact (overlies_preserved image).apply [] machine id overlies

end Operation

namespace Machine

theorem after_overlies {machine : Machine} {image : Memory}
    (overlies : machine.memory.Overlies image) (operations : List Operation) :
    (machine.after operations).memory.Overlies (operations.foldl Operation.reload image) := by
  -- By induction on the operations, each of which may bring a new image.
  induction operations generalizing machine image with
  | nil => exact overlies
  | cons operation later ih => exact ih (operation.apply_overlies overlies)

end Machine

/-! ### Loads -/

theorem size_assemble (source : String) :
    (assemble source).memory.size = (assemble source).report.loaded + 1 :=
  ((Listing.ofSource source).assembled_image {}).size

/-- The last image is that of one of the loads, or there was none. -/
theorem lastImage_cases (operations : List Operation) :
    lastImage operations = .empty ∨
      ∃ source, .load source ∈ operations ∧ lastImage operations = (assemble source).memory := by
  -- By induction from the end, where the last load is met first.
  induction operations using List.reverseRecOn with
  | nil => exact .inl rfl
  | append_singleton earlier operation ih =>
    rw [lastImage, List.foldl_append]
    cases operation with
    | load source => exact .inr ⟨source, by simp, rfl⟩
    | poke | step | run =>
      refine ih.imp_right ?_
      rintro ⟨source, member, same⟩
      exact ⟨source, List.mem_append_left _ member, same⟩

/-! ### Programs of any length -/

/-- So many branches without an operand, each on a line of its own. -/
def branches (count : Nat) : String := String.join (List.replicate count "br\n")

theorem lines_branches (count : Nat) :
    Text.lines (branches count).toList = List.replicate count ['b', 'r'] := by
  have written : (branches count).toList =
      (List.replicate count ['b', 'r']).flatMap fun text => text ++ ['\n'] := by
    simp [branches, String.toList_join, List.flatMap_replicate]
  rw [written, Text.lines_flatMap]
  intro text member
  rw [List.eq_of_mem_replicate member]
  decide

theorem code_branches (count : Nat) :
    (Listing.ofSource (branches count)).code =
      ((List.replicate count ⟨.br, none⟩).zipIdx 1).map fun (code, number) => (number, code) := by
  have settled : Instruction.Settled ⟨.br, none⟩ := nofun
  have read : Line.read ['b', 'r'] = .statement (Instruction.statement ⟨.br, none⟩) :=
    Instruction.read_render settled
  rw [Listing.ofSource, lines_branches, List.map_replicate, read, ← List.map_replicate
    (f := fun code : Instruction => Line.statement code.statement), Listing.ofLines_statements,
    Listing.code_of_written]
  intro code member
  rw [List.eq_of_mem_replicate member]
  exact settled

theorem assemble_branches (count : Nat) :
    (assemble (branches count)).memory.size = count + 1 ∧
      ∀ k < count, (assemble (branches count)).memory.get (k + 1) = .instruction ⟨.br, none⟩ := by
  have memory : (assemble (branches count)).memory =
      (Listing.ofSource (branches count)).code.memory := rfl
  rw [memory, code_branches]
  refine ⟨by simp [Code.size_memory], fun k inside => ?_⟩
  rw [Code.get_memory_succ]
  simp [inside]

/-! ### Histories -/

namespace Machine

theorem memory_after_load (machine : Machine) (source : String) :
    (machine.after [.load source]).memory = (assemble source).memory := by
  rw [after, after, Operation.apply, load_eq_assemble]

/-- Above the address space there is what the last load has put there, and nothing if no program
that was loaded has more instructions than there are addresses. -/
theorem after_bounded (operations : List Operation) :
    let memory := (({} : Machine).after operations).memory
    (∀ address, maxAddress < address →
      memory.get address = (lastImage operations).get address) ∧
      (memory.size ≤ maxAddress + 1 ↔ (lastImage operations).size ≤ maxAddress + 1) ∧
      ((∀ source, .load source ∈ operations → (assemble source).report.loaded ≤ maxAddress) →
        memory.size ≤ maxAddress + 1 ∧
          ∀ address, maxAddress < address → memory.get address = .unset) := by
  intro memory
  have initial : ({} : Machine).memory.Overlies .empty := .refl _
  have overlies : memory.Overlies (lastImage operations) := after_overlies initial operations
  refine ⟨overlies.above, overlies.size_le_iff, fun short => ?_⟩
  -- The last image is one of those that are known to be short.
  have fits : (lastImage operations).size ≤ maxAddress + 1 := by
    rcases lastImage_cases operations with empty | ⟨source, member, same⟩
    · rw [empty, Memory.size_empty]
      omega
    · have loaded := short source member
      rw [same, size_assemble]
      omega
  have bounded := overlies.size_le_iff.mpr fits
  exact ⟨bounded, fun address beyond => Memory.get_of_size_le (by omega)⟩

/-- A load takes one instruction more than there are addresses, and reading sees it there. -/
theorem size_after_overlong :
    let memory := (({} : Machine).after [.load (branches (maxAddress + 1))]).memory
    maxAddress + 1 < memory.size ∧
      memory.get (maxAddress + 1) = .instruction ⟨.br, none⟩ := by
  intro memory
  obtain ⟨size, cells⟩ := assemble_branches (maxAddress + 1)
  have loaded : memory = (assemble (branches (maxAddress + 1))).memory := memory_after_load _ _
  rw [loaded, size]
  exact ⟨by omega, cells maxAddress (Nat.lt_succ_self maxAddress)⟩

end Machine

end Accumulator
