import Accumulator.Proofs.Footprint

/-!
# Memories over time

A memory is filled by writing to chosen addresses and by appending, and emptied by clearing. A
`Ledger` says what this comes to, without cells: it keeps what was stored since the memory was cleared
last, and by that alone it knows the word at every address and how far the memory has grown. A memory
does what its ledger says after any requests (`Reflects.after`). Main statement: `reflects_ledger`.
-/
namespace Accumulator

namespace Memory

/-- What can be asked of a memory that changes it. -/
inductive Request where
  | clear
  | push (word : Word)
  | write (address : Nat) (word : Word)
  deriving DecidableEq, Repr

inductive Reply where
  | cleared
  /-- The word was appended at this address. -/
  | pushed (address : Nat)
  | written
  | refused (cause : Cause)
  deriving DecidableEq, Repr

/-- What a memory answers, and what becomes of it. A refusal leaves it as it is. -/
def answer (memory : Memory) : Request → Reply × Memory
  | .clear => (.cleared, memory.clear)
  | .push word =>
    let (address, memory) := memory.append word
    (.pushed address, memory)
  | .write address word =>
    match memory.write address word with
    | .ok written => (.written, written)
    | .error cause => (.refused cause, memory)

def after (memory : Memory) (requests : List Request) : Memory :=
  requests.foldl (fun memory request => (memory.answer request).2) memory

end Memory

/-- What was stored since a memory was cleared last, with the addresses, the latest first. -/
abbrev Ledger := List (Nat × Word)

namespace Ledger

/-- The word that was stored last at an address. -/
def get (ledger : Ledger) (address : Nat) : Word := (ledger.lookup address).getD .unset

/-- The highest address that anything was stored at. -/
def highest (ledger : Ledger) : Nat := (ledger.map Prod.fst).foldr max 0

/-- Words are appended behind the highest address, and written where they are to be if that is within
the address space. -/
def record (ledger : Ledger) : Memory.Request → Ledger
  | .clear => []
  | .push word => (ledger.highest + 1, word) :: ledger
  | .write address word => if address ≤ maxAddress then (address, word) :: ledger else ledger

def ofRequests (requests : List Memory.Request) : Ledger := requests.foldl record []

theorem get_cons (address : Nat) (word : Word) (ledger : Ledger) (other : Nat) :
    get ((address, word) :: ledger) other = if other = address then word else ledger.get other := by
  rw [get, List.lookup_cons]
  by_cases same : other = address
  · simp [same]
  · simp [same, beq_false_of_ne same, get]

theorem highest_cons (address : Nat) (word : Word) (ledger : Ledger) :
    highest ((address, word) :: ledger) = max address ledger.highest := rfl

end Ledger

namespace Memory

/-- Does the memory hold what the ledger says, and has it grown just as far? -/
structure Reflects (memory : Memory) (ledger : Ledger) : Prop where
  cells : ∀ address, memory.get address = ledger.get address
  size : memory.size = ledger.highest + 1

variable {memory : Memory} {ledger : Ledger}

/-! ### Answers -/

theorem answer_push (word : Word) :
    memory.answer (.push word) = (.pushed memory.size, memory.push word) := by
  rw [answer, append_eq]

theorem answer_write_of_le {address : Nat} (within : address ≤ maxAddress) (word : Word) :
    memory.answer (.write address word) = (.written, memory.put address word) := by
  rw [answer, write_eq_ok_iff.mpr ⟨within, rfl⟩]

theorem answer_write_of_lt {address : Nat} (beyond : maxAddress < address) (word : Word) :
    memory.answer (.write address word) =
      (.refused (.addressOutOfRange (toString address)), memory) := by
  rw [answer, write_eq_error_iff.mpr ⟨beyond, rfl⟩]

/-- Only what is to be written above the address space is refused. -/
theorem answer_write_refused_iff {address : Nat} {word : Word} {cause : Cause} :
    (memory.answer (.write address word)).1 = .refused cause ↔
      maxAddress < address ∧ cause = .addressOutOfRange (toString address) := by
  rcases Nat.lt_or_ge maxAddress address with beyond | within
  · simp [answer_write_of_lt beyond, beyond, eq_comm]
  · simp [answer_write_of_le within, Nat.not_lt_of_ge within]

/-- The order of two writes does not matter unless they meet. -/
theorem put_comm {first second : Nat} (apart : first ≠ second) (word other : Word) :
    (memory.put first word).put second other = (memory.put second other).put first word := by
  -- Which of the two makes the memory grow does not show in its size and cells.
  apply ext_get
  · simp only [size_put]
    omega
  · intro address
    simp only [get_put]
    by_cases here : address = first
    · simp [here, apart]
    · simp [here]

/-! ### Ledgers -/

theorem size_le_answer {request : Request} (kept : request ≠ .clear) :
    memory.size ≤ (memory.answer request).2.size := by
  cases request with
  | clear => exact absurd rfl kept
  | push word =>
    rw [answer_push, size_push]
    exact Nat.le_succ _
  | write address word =>
    rcases Nat.lt_or_ge maxAddress address with beyond | within
    · simp only [answer_write_of_lt beyond, Nat.le_refl]
    · rw [answer_write_of_le within, size_put]
      exact Nat.le_max_left _ _

/-- Only clearing makes a memory shorter. -/
theorem size_le_after {requests : List Request} (kept : .clear ∉ requests) :
    memory.size ≤ (memory.after requests).size := by
  induction requests generalizing memory with
  | nil => exact Nat.le_refl _
  | cons request later ih =>
    rw [List.mem_cons, not_or] at kept
    exact Nat.le_trans (size_le_answer (Ne.symm kept.1)) (ih kept.2)

namespace Reflects

theorem empty : Memory.empty.Reflects [] := ⟨get_empty, rfl⟩

theorem push (reflects : memory.Reflects ledger) (word : Word) :
    (memory.push word).Reflects ((ledger.highest + 1, word) :: ledger) where
  cells address := by rw [get_push, Ledger.get_cons, reflects.size, reflects.cells]
  size := by
    rw [size_push, reflects.size, Ledger.highest_cons]
    omega

theorem put (reflects : memory.Reflects ledger) (address : Nat) (word : Word) :
    (memory.put address word).Reflects ((address, word) :: ledger) where
  cells other := by rw [get_put, Ledger.get_cons, reflects.cells]
  size := by
    rw [size_put, reflects.size, Ledger.highest_cons]
    omega

theorem answer (reflects : memory.Reflects ledger) (request : Request) :
    (memory.answer request).2.Reflects (ledger.record request) := by
  cases request with
  | clear =>
    rw [Memory.answer, clear_eq_empty]
    exact .empty
  | push word =>
    rw [answer_push]
    exact reflects.push word
  | write address word =>
    rw [Ledger.record]
    split
    next within =>
      rw [answer_write_of_le within]
      exact reflects.put address word
    next beyond =>
      rw [answer_write_of_lt (Nat.lt_of_not_le beyond)]
      exact reflects

theorem after (reflects : memory.Reflects ledger) (requests : List Request) :
    (memory.after requests).Reflects (requests.foldl Ledger.record ledger) := by
  -- The ledger is general in the induction, as each request adds to it or empties it.
  induction requests generalizing memory ledger with
  | nil => exact reflects
  | cons request later ih => exact ih (reflects.answer request)

end Reflects

/-- A memory is a map from addresses to the words stored there last, which remembers the highest of
them: it has grown as far as that address, and appending goes on behind it. It refuses to be written
to above the address space, and nothing else; a refusal changes nothing. Between two clearings it only
grows, and two writes to different addresses can change places. -/
theorem reflects_ledger (requests : List Request) :
    let memory := empty.after requests
    let ledger := Ledger.ofRequests requests
    (∀ address, memory.get address = ledger.get address) ∧
      memory.size = ledger.highest + 1 ∧
      (∀ word, (memory.answer (.push word)).1 = .pushed memory.size) ∧
      (∀ address word cause, (memory.answer (.write address word)).1 = .refused cause ↔
        maxAddress < address ∧ cause = .addressOutOfRange (toString address)) ∧
      (∀ address word, maxAddress < address → (memory.answer (.write address word)).2 = memory) ∧
      (∀ later, .clear ∉ later → memory.size ≤ (memory.after later).size) ∧
      ∀ first second word other, first ≠ second → first ≤ maxAddress → second ≤ maxAddress →
        memory.after [.write first word, .write second other] =
          memory.after [.write second other, .write first word] := by
  intro memory ledger
  have reflects : memory.Reflects ledger := Reflects.empty.after requests
  refine ⟨reflects.cells, reflects.size, ?_, ?_, ?_, ?_, ?_⟩
  · intro word
    rw [answer_push]
  · exact fun _ _ _ => answer_write_refused_iff
  · intro address word beyond
    rw [answer_write_of_lt beyond]
  · exact fun _ kept => size_le_after kept
  · intro first second word other apart first_within second_within
    simp only [after, List.foldl_cons, List.foldl_nil, answer_write_of_le first_within,
      answer_write_of_le second_within]
    exact put_comm apart word other

theorem reflects_ledger_gap :
    let memory := empty.after
      [.write 9 (.integer 7), .clear, .write 5 (.integer 1), .push (.text "a"), .write 0x100000 .unset]
    memory.get 9 = .unset ∧ memory.get 3 = .unset ∧ memory.get 5 = .integer 1 ∧
      memory.get 6 = .text "a" ∧ memory.size = 7 ∧
      (memory.answer (.push (.integer 2))).1 = .pushed 7 ∧
      (memory.answer (.write 0x100000 (.integer 2))).1 = .refused (.addressOutOfRange "1048576") ∧
      (memory.answer (.write 0x100000 (.integer 2))).2 = memory ∧
      7 ≤ (memory.after [.write 2 .unset]).size ∧
      memory.after [.write 2 .unset, .write 9 (.integer 3)] =
        memory.after [.write 9 (.integer 3), .write 2 .unset] := by
  intro memory
  obtain ⟨cells, size, pushed, refused, kept, grows, commute⟩ := reflects_ledger
    [.write 9 (.integer 7), .clear, .write 5 (.integer 1), .push (.text "a"), .write 0x100000 .unset]
  have size : memory.size = 7 := size
  have address : toString 0x100000 = "1048576" := by decide
  refine ⟨cells 9, cells 3, cells 5, cells 6, size, ?_, ?_, ?_, ?_, ?_⟩
  · exact size ▸ pushed _
  · exact (refused _ _ _).mpr ⟨by decide, congrArg _ address.symm⟩
  · exact kept _ _ (by decide)
  · exact size ▸ grows [.write 2 .unset] (by decide)
  · exact commute 2 9 _ _ (by decide) (by decide) (by decide)

end Memory

end Accumulator
