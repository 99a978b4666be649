import Accumulator.Console.Script
import Accumulator.Proofs.Cycles
import Accumulator.Proofs.FloorDivision
import Accumulator.Proofs.Writes

/-!
# Cycles on machine words

Addresses are unbounded numbers to `Machine.step`, cells are there as soon as they are written to,
and every division has a result. On a processor with words of 64 bits the next address, a cell and a
remainder can be missing, and an address can be too large for an integer. `Trapping.step` is a cycle
in which each of these operations stops the computation where it has no result. As long as the
memory has less than 2^63 cells, none of them ever does. Main statement: `step_untrapped`.
-/
namespace Accumulator

/-- 2^63: the addresses below it are machine integers. -/
def integerLimit : Nat := 0x8000000000000000

namespace Trapping

/-- The address behind this one. -/
def next (address : Nat) : Except Trap Nat :=
  if address + 1 < addressLimit then .ok (address + 1) else .error .address

/-- The address as a machine integer. -/
def toInteger (address : Nat) : Except Trap Integer :=
  match Integer.ofInt? address with
  | some value => .ok value
  | none => .error .integer

/-! ### Memory -/

/-- The cells, with placeholders behind them if there is none at this address. -/
def grow (cells : Array Word) (address : Nat) : Except Trap (Array Word) :=
  if address < cells.size then .ok cells
  else (next address).map fun size => cells ++ Array.replicate (size - cells.size) .unset

/-- The memory with this word in a cell that is there. -/
def replace (cells : Array Word) (address : Nat) (word : Word) : Except Trap Memory :=
  if inside : address < cells.size then
    .ok ⟨cells.set address word, by rw [Array.size_set]; exact Nat.zero_lt_of_lt inside⟩
  else .error .cell

def write (memory : Memory) (address : Nat) (word : Word) : Except Trap (Except Cause Memory) :=
  match Memory.refusal? address with
  | some cause => .ok (.error cause)
  | none => do
    let cells ← grow memory.cells address
    (replace cells address word).map .ok

/-! ### Actions -/

def compute (op : Arithmetic) (a b : Integer) : Except Trap (Except Cause Integer) :=
  match op with
  | .div =>
    if b = 0 then .ok (.error .divisionByZero)
    else
      (floorDiv a b).map fun
        | some quotient => .ok quotient
        | none => .error .overflow
  | .add | .sub | .mlt => .ok ((op.exact a.toInt b.toInt).bind narrow)

def combine (registers : Registers) (op : Arithmetic) (word : Word) :
    Except Trap (Registers × Option Cause) :=
  match word.integer? with
  | none => .ok (registers, some (.nonNumeric word))
  | some b =>
    let registers := { registers with b := .integer b }
    match registers.acc.integer? with
    | none => .ok (registers, some (.nonNumeric registers.acc))
    | some a => (compute op a b).map registers.accept

/-- The machine with its program counter at the next address. It has to be at a cell. -/
def advance (machine : Machine) : Except Trap Machine :=
  if machine.registers.pc < machine.memory.size then
    (next machine.registers.pc).map fun pc =>
      { machine with registers := { machine.registers with pc } }
  else .error .cell

variable {κ : Type}

/-- Leaves the return address at an address and goes on behind it. -/
def enter (machine : Machine) (console : κ) (target : Nat) : Except Trap (Effect κ) :=
  if target = 0 then .ok { machine, console, failure := some (.invalidAddress 0) }
  else do
    let back ← toInteger machine.registers.pc
    match ← write machine.memory target (.integer back) with
    | .error cause => .ok { machine, console, failure := some cause }
    | .ok memory =>
      let pc ← next target
      .ok
        { machine := { machine with memory, registers := { machine.registers with pc } }
          console }

variable [Console κ]

def send (machine : Machine) (console : κ) (target : Nat) : Except Trap (Effect κ) :=
  if target = 0 then .ok (machine.send console 0)
  else
    (write machine.memory target machine.registers.acc).map fun
      | .error cause => { machine, console, failure := some cause }
      | .ok memory => { machine := { machine with memory }, console }

/-- Performs an action; those left to the machine compute no address and no quotient. -/
def perform (machine : Machine) (console : κ) : Action → Except Trap (Effect κ)
  | .combine op source =>
    let received := receive machine.memory console source
    let machine := machine.aim source
    match received.word with
    | .error cause =>
      .ok
        { machine, console := received.console, heard := received.heard, failure := some cause }
    | .ok word =>
      (combine machine.registers op word).map (machine.settle received.console received.heard)
  | .store target => send (machine.aim target) console target
  | .call target => enter machine console target
  | action => .ok (machine.perform console action)

/-! ### Cycles -/

def execute (machine : Machine) (console : κ) : Except Trap (Effect κ) :=
  match machine.registers.ir with
  | .instruction code => do
    let machine ← advance machine
    match code.decode machine.symbols machine.registers.acc with
    | .error cause => .ok { machine, console, failure := some cause }
    | .ok action => perform machine console action
  | word => .ok { machine, console, failure := some (.illegalInstruction word) }

/-- One cycle. A halted machine does nothing. -/
def step (machine : Machine) (console : κ) : Except Trap (Cycle κ) :=
  if machine.isHalted then .ok { machine, console, heard := none, outcome := .halted }
  else (execute machine.fetch console).map fun effect => effect.finish machine.registers.pc

/-! ### Operations that have a result -/

theorem next_eq {address : Nat} (below : address < integerLimit) :
    next address = .ok (address + 1) := by
  rw [next, if_pos]
  simp only [integerLimit] at below
  simp only [addressLimit]
  omega

theorem next_of_accepted {address : Nat} (accepted : Memory.refusal? address = none) :
    next address = .ok (address + 1) := by
  have within := Memory.refusal?_eq_none_iff.mp accepted
  have below : maxAddress < integerLimit := by decide
  exact next_eq (Nat.lt_of_le_of_lt within below)

theorem narrow_eq {address : Nat} (below : address < integerLimit) :
    ∃ value, narrow address = .ok value ∧ toInteger address = .ok value := by
  cases found : Integer.ofInt? address with
  | some value => exact ⟨value, by rw [narrow, found], by rw [toInteger, found]⟩
  | none =>
    simp only [integerLimit] at below
    rcases Integer.ofInt?_eq_none_iff.mp found with low | high
    · rw [Int64.toInt_minValue] at low
      omega
    · rw [Int64.toInt_maxValue] at high
      omega

/-- Cells grown up to an address and then set there are those that `Memory.put` makes. -/
theorem set_append_replicate {cells : Array Word} {address : Nat} (outside : cells.size ≤ address)
    (word : Word) (inside : address < (cells ++
      Array.replicate (address + 1 - cells.size) Word.unset).size) :
    (cells ++ Array.replicate (address + 1 - cells.size) Word.unset).set address word inside =
      (cells ++ Array.replicate (address - cells.size) Word.unset).push word := by
  have more : address + 1 - cells.size = address - cells.size + 1 := by omega
  have last : address =
      (cells.toList ++ List.replicate (address - cells.size) Word.unset).length := by
    rw [List.length_append, List.length_replicate, Array.length_toList]
    omega
  apply Array.toList_inj.mp
  simp only [Array.toList_set, Array.toList_append, Array.toList_replicate, Array.toList_push, more,
    List.replicate_succ', ← List.append_assoc]
  rw [List.set_append_right _ _ (by omega)]
  simp [← last]

theorem replace_of_grow (memory : Memory) {address : Nat}
    (accepted : Memory.refusal? address = none) :
    ∃ cells, grow memory.cells address = .ok cells ∧
      ∀ word, replace cells address word = .ok (memory.put address word) := by
  unfold grow Memory.put replace
  by_cases inside : address < memory.cells.size
  · refine ⟨memory.cells, if_pos inside, fun word => ?_⟩
    rw [dif_pos inside, dif_pos inside]
  · rw [if_neg inside, next_of_accepted accepted]
    refine ⟨_, rfl, fun word => ?_⟩
    have grown : address <
        (memory.cells ++ Array.replicate (address + 1 - memory.cells.size) Word.unset).size := by
      simp only [Array.size_append, Array.size_replicate]
      omega
    rw [dif_pos grown, dif_neg inside]
    simp only [set_append_replicate (Nat.not_lt.mp inside)]

theorem write_eq (memory : Memory) (address : Nat) (word : Word) :
    write memory address word = .ok (memory.write address word) := by
  unfold write Memory.write
  cases accepted : Memory.refusal? address with
  | some cause => rfl
  | none =>
    obtain ⟨cells, grown, replaced⟩ := replace_of_grow memory accepted
    simp only [grown, bind, Except.bind, replaced, Except.map]

theorem compute_eq (op : Arithmetic) (a b : Integer) :
    compute op a b = .ok ((op.exact a.toInt b.toInt).bind narrow) := by
  cases op with
  | add | sub | mlt => rfl
  | div =>
    by_cases zero : b = 0
    · subst zero
      rfl
    · have nonzero : b.toInt ≠ 0 := mt toInt_eq_zero_iff.mp zero
      have exact : Arithmetic.div.exact a.toInt b.toInt = .ok (a.toInt.fdiv b.toInt) :=
        if_neg nonzero
      simp only [compute, if_neg zero, floorDiv_eq, exact]
      change _ = Except.ok (narrow (a.toInt.fdiv b.toInt))
      cases found : Integer.ofInt? (a.toInt.fdiv b.toInt) with
      | none => rw [narrow, found, Except.map]
      | some quotient => rw [narrow, found, Except.map]

theorem combine_eq (registers : Registers) (op : Arithmetic) (word : Word) :
    combine registers op word = .ok (registers.combine op word) := by
  unfold combine Registers.combine
  cases word.integer? with
  | none => rfl
  | some b =>
    dsimp only
    cases registers.acc.integer? with
    | none => rfl
    | some a =>
      dsimp only
      rw [compute_eq]
      rfl

omit [Console κ] in
theorem enter_eq {machine : Machine} (below : machine.registers.pc < integerLimit) (console : κ)
    (target : Nat) : enter machine console target = .ok (machine.enter console target) := by
  unfold enter Machine.enter
  by_cases console_cell : target = 0
  · rw [if_pos console_cell, if_pos console_cell]
  · obtain ⟨back, narrowed, converted⟩ := narrow_eq below
    rw [if_neg console_cell, if_neg console_cell, narrowed, converted]
    simp only [bind, Except.bind, write_eq, Memory.write]
    cases accepted : Memory.refusal? target with
    | some cause => rfl
    | none => simp only [next_of_accepted accepted]

theorem send_eq (machine : Machine) (console : κ) (target : Nat) :
    send machine console target = .ok (machine.send console target) := by
  by_cases console_cell : target = 0
  · subst console_cell
    rfl
  · rw [send, if_neg console_cell, Machine.send_of_ne_zero _ _ console_cell, write_eq, Memory.write]
    cases Memory.refusal? target <;> rfl

/-- The only action that depends on the memory's bound is the one that keeps an address. -/
theorem perform_eq {machine : Machine} (below : machine.registers.pc < integerLimit) (console : κ)
    (action : Action) : perform machine console action = .ok (machine.perform console action) := by
  cases action with
  | combine op source =>
    simp only [perform, Machine.perform]
    cases (receive machine.memory console source).word with
    | error cause => rfl
    | ok word =>
      dsimp only
      rw [combine_eq]
      rfl
  | store target => exact send_eq _ console target
  | call target => exact enter_eq below console target
  | adjust | assign | load | jump | jumpThrough | skip => rfl

/-! ### Untrapped cycles -/

theorem lt_size_of_get {memory : Memory} {address : Nat} {code : Instruction}
    (found : memory.get address = .instruction code) : address < memory.size := by
  apply Nat.lt_of_not_le
  intro beyond
  rw [Memory.get_of_size_le beyond] at found
  cases found

/-- The program counter is moved on only from a cell, and there is always an address behind one. -/
theorem advance_eq {machine : Machine} (inside : machine.registers.pc < machine.memory.size)
    (bounded : machine.memory.size < integerLimit) : advance machine = .ok machine.advance := by
  rw [advance, if_pos inside, next_eq (by omega)]
  rfl

/-- The address behind the last cell is an integer still, so it can be kept as a return address. -/
theorem pc_advance_lt {machine : Machine} {code : Instruction}
    (found : machine.memory.get machine.registers.pc = .instruction code)
    (bounded : machine.memory.size < integerLimit) :
    machine.fetch.advance.registers.pc < integerLimit := by
  have inside : machine.registers.pc < machine.memory.size := lt_size_of_get found
  have behind : machine.fetch.advance.registers.pc = machine.registers.pc + 1 := rfl
  omega

theorem execute_eq {machine : Machine} (bounded : machine.memory.size < integerLimit)
    (console : κ) : execute machine.fetch console = .ok (machine.fetch.execute console) := by
  have fetched : machine.fetch.registers.ir = machine.memory.get machine.registers.pc := rfl
  unfold execute Machine.execute
  rw [fetched]
  cases found : machine.memory.get machine.registers.pc with
  | unset | integer | text => rfl
  | instruction code =>
    have moved : advance machine.fetch = .ok machine.fetch.advance :=
      advance_eq (lt_size_of_get found) bounded
    simp only [bind, Except.bind, moved]
    cases code.decode machine.fetch.advance.symbols machine.fetch.advance.registers.acc with
    | error cause => rfl
    | ok action => exact perform_eq (pc_advance_lt found bounded) console action

theorem step_eq {machine : Machine} (bounded : machine.memory.size < integerLimit) (console : κ) :
    step machine console = .ok (machine.step console) := by
  unfold step Machine.step
  split
  · rfl
  · rw [execute_eq bounded]
    rfl

end Trapping

namespace Machine

variable {κ : Type}

theorem enter_ne_overflow {machine : Machine} (below : machine.registers.pc < integerLimit)
    (console : κ) (target : Nat) : (machine.enter console target).failure ≠ some .overflow := by
  obtain ⟨back, narrowed, -⟩ := Trapping.narrow_eq below
  unfold enter
  split
  · nofun
  · rw [narrowed]
    cases refused : Memory.refusal? target with
    | none => nofun
    | some cause =>
      obtain ⟨-, rfl⟩ := Memory.refusal?_eq_some_iff.mp refused
      nofun

variable [Console κ]

/-- A subroutine call always finds room for its return address. -/
theorem step_ne_overflow {machine : Machine} (bounded : machine.memory.size < integerLimit)
    (console : κ) {operand : Option Operand}
    (found : machine.memory.get machine.registers.pc = .instruction ⟨.brs, operand⟩) :
    (machine.step console).outcome.cause? ≠ some .overflow := by
  intro faulted
  rcases step_cause faulted with refused | ⟨action, decided, failed⟩
  · rcases action?_eq_error refused with illegal | ⟨code, same, refused⟩
    · cases illegal
    · cases found.symm.trans same
      rcases Instruction.resolve_error (map_eq_error_iff.mp refused) with
        ⟨_, cause⟩ | ⟨_, _, cause⟩ | ⟨_, _, _, cause⟩
      · cases cause
      · cases cause
      · cases cause
  · obtain ⟨code, same, decoded⟩ := action?_eq_ok_iff.mp decided
    cases found.symm.trans same
    obtain ⟨target, -, rfl⟩ := exists_of_map_eq_ok decoded
    -- The call itself finds the program counter just behind the cell it was fetched from.
    exact enter_ne_overflow (Trapping.pc_advance_lt found bounded) console target failed

theorem size_step_lt {machine : Machine} (bounded : machine.memory.size < integerLimit)
    (console : κ) : (machine.step console).machine.memory.size < integerLimit := by
  have grown := machine.size_step_le console
  have writable : maxAddress + 1 < integerLimit := by decide
  omega

theorem size_cycleAt_lt {machine : Machine} (bounded : machine.memory.size < integerLimit)
    (console : κ) (k : Nat) : (machine.cycleAt console k).machine.memory.size < integerLimit := by
  induction k with
  | zero => exact size_step_lt bounded console
  | succ k ih => exact size_step_lt ih _

/-- No cycle of a row is trapped, however long it is. -/
theorem cycleAt_untrapped {machine : Machine} (bounded : machine.memory.size < integerLimit)
    (console : κ) (k : Nat) :
    Trapping.step (machine.cycleAt console k).machine (machine.cycleAt console k).console =
      .ok (machine.cycleAt console (k + 1)) :=
  Trapping.step_eq (size_cycleAt_lt bounded console k) _

/-- A cycle computes on 64-bit words what it computes on numbers, and needs nothing that words do
not have: the program counter moves on from cells only, a return address is an integer, a write
reaches the cell that it made room for, and no division takes a remainder that is undefined. -/
theorem step_untrapped (machine : Machine) (console : κ)
    (bounded : machine.memory.size < integerLimit) :
    Trapping.step machine console = .ok (machine.step console) ∧
      (∀ code, machine.memory.get machine.registers.pc = .instruction code →
        machine.registers.pc < machine.memory.size) ∧
      (∀ operand, machine.memory.get machine.registers.pc = .instruction ⟨.brs, operand⟩ →
        (machine.step console).outcome.cause? ≠ some .overflow) ∧
      (∀ (memory : Memory) address word,
        Trapping.write memory address word = .ok (memory.write address word)) ∧
      (∀ a b, Trapping.floorDiv a b =
        .ok (if b = 0 then none else Integer.ofInt? (a.toInt.fdiv b.toInt))) ∧
      (machine.step console).machine.memory.size < integerLimit :=
  ⟨Trapping.step_eq bounded console, fun _ => Trapping.lt_size_of_get,
    fun _ => step_ne_overflow bounded console, Trapping.write_eq, Trapping.floorDiv_eq,
    size_step_lt bounded console⟩

/-- The division whose quotient is no machine integer: a fault, but no trap. -/
theorem step_untrapped_least :
    let memory := (Memory.empty.push (.instruction ⟨.div, some (.literal 2)⟩)).push (.integer (-1))
    let machine : Machine := { memory, registers := { acc := .integer Int64.minValue } }
    machine.memory.size < integerLimit ∧
      (machine.step ({} : Script)).outcome.cause? = some .overflow ∧
      Trapping.step machine ({} : Script) = .ok (machine.step ({} : Script)) := by
  intro memory machine
  have bounded : machine.memory.size < integerLimit := by decide +kernel
  exact ⟨bounded, by decide +kernel, (step_untrapped machine ({} : Script) bounded).1⟩

end Machine

end Accumulator
