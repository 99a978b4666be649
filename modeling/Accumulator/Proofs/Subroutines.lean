import Accumulator.Proofs.Traps

/-!
# Subroutine calls

A call leaves the return address in the first cell of the subroutine, and a return is a branch
through this cell. So what a return needs of all that has happened since the call is that nothing
has written to the cell: no matter how many cycles that took, whether the program changed its own
code, and how many other calls went through other cells (`get_machineAt`). Main statement:
`return_to_caller`.
-/
namespace Accumulator

theorem toInt_of_narrow {n : Int} {value : Integer} (narrowed : narrow n = .ok value) :
    value.toInt = n := by
  unfold narrow at narrowed
  split at narrowed
  next found =>
    cases narrowed
    exact Integer.toInt_of_ofInt? found
  next => cases narrowed

theorem narrow_eq_ok_iff {n : Int} {value : Integer} : narrow n = .ok value ↔ value.toInt = n := by
  constructor
  · exact toInt_of_narrow
  · rintro rfl
    rw [narrow, Integer.ofInt?_toInt]

instance (symbols : SymbolTable) (code : Instruction) (address : Nat) :
    Decidable (code.resolve symbols = .ok address) :=
  match resolved : code.resolve symbols with
  | .ok found => decidable_of_iff (found = address) (by rw [Except.ok.injEq])
  | .error _ => isFalse nofun

namespace Machine

/-- The instruction at the program counter, if there is one. -/
def fetched? (machine : Machine) : Option Instruction :=
  match machine.memory.get machine.registers.pc with
  | .instruction code => some code
  | _ => none

/-- Does the next cycle execute this operation, with an operand that stands for this address? -/
def Executes (machine : Machine) (opcode : Opcode) (address : Nat) : Prop :=
  machine.isHalted = false ∧
    ∃ code ∈ machine.fetched?,
      code.opcode = opcode ∧ code.resolve machine.symbols = .ok address

instance (machine : Machine) (opcode : Opcode) (address : Nat) :
    Decidable (machine.Executes opcode address) :=
  inferInstanceAs (Decidable (_ ∧ _))

/-- Is the machine one that a call through this cell has left? No cell but this one, no label and
neither the accumulator nor B is changed by a call. -/
structure Called (before : Machine) (cell : Nat) (after : Machine) : Prop where
  back : ∃ value : Integer, value.toInt = before.registers.pc + 1 ∧
    after.memory.get cell = .integer value
  cells : ∀ address, address ≠ cell → after.memory.get address = before.memory.get address
  symbols : after.symbols = before.symbols
  pc : after.registers.pc = cell + 1
  acc : after.registers.acc = before.registers.acc
  b : after.registers.b = before.registers.b

/-- Is the machine one that a return to this address has left? -/
structure Returned (before : Machine) (address : Nat) (after : Machine) : Prop where
  pc : after.registers.pc = address
  memory : after.memory = before.memory
  symbols : after.symbols = before.symbols
  acc : after.registers.acc = before.registers.acc
  b : after.registers.b = before.registers.b

theorem fetched?_eq_some_iff {machine : Machine} {code : Instruction} :
    machine.fetched? = some code ↔
      machine.memory.get machine.registers.pc = .instruction code := by
  unfold fetched?
  split
  next found => simp [found]
  next other => simpa using other code

/-- The action of the next cycle, given how instructions with this operation and this operand are
decoded. -/
theorem Executes.action?_eq {machine : Machine} {opcode : Opcode} {address : Nat} {action : Action}
    (executes : machine.Executes opcode address)
    (decodes : ∀ code : Instruction, code.opcode = opcode →
      code.resolve machine.symbols = .ok address →
        code.Decodes machine.symbols machine.registers.acc action) :
    machine.action? = .ok action := by
  obtain ⟨-, code, fetched, same, resolved⟩ := executes
  exact action?_eq_ok_iff.mpr ⟨code, fetched?_eq_some_iff.mp fetched,
    Instruction.decode_eq_ok_iff.mpr (decodes code same resolved)⟩

theorem Executes.opcode_eq {machine : Machine} {opcode : Opcode} {address : Nat}
    {code : Instruction} (executes : machine.Executes opcode address)
    (fetched : machine.fetched? = some code) : code.opcode = opcode := by
  obtain ⟨-, other, found, same, -⟩ := executes
  obtain rfl := Option.some.inj (fetched.symm.trans found)
  exact same

/-- A machine that executes an operation is not executing another one. -/
theorem Executes.unique {machine : Machine} {opcode other : Opcode} {address another : Nat}
    (executes : machine.Executes opcode address) (again : machine.Executes other another) :
    opcode = other := by
  obtain ⟨-, code, fetched, rfl, -⟩ := executes
  exact again.opcode_eq fetched

/-- An operation that has an action of its own is executed exactly if that action comes next. -/
theorem executes_iff {machine : Machine} {opcode : Opcode} {address : Nat} {action : Action}
    (own : ∀ code : Instruction, code.Decodes machine.symbols machine.registers.acc action ↔
      code.opcode = opcode ∧ code.resolve machine.symbols = .ok address) :
    machine.Executes opcode address ↔
      machine.isHalted = false ∧ machine.action? = .ok action := by
  simp only [Executes, action?_eq_ok_iff, Instruction.decode_eq_ok_iff, own, Option.mem_def,
    fetched?_eq_some_iff]

theorem executes_combine_iff {machine : Machine} {op : Arithmetic} {source : Nat} :
    machine.Executes op.opcode source ↔
      machine.isHalted = false ∧ machine.action? = .ok (.combine op source) :=
  executes_iff fun _ =>
    ⟨fun | .combine opcode resolved => ⟨opcode, resolved⟩, fun decodes => .combine decodes.1 decodes.2⟩

theorem executes_lda_iff {machine : Machine} {source : Nat} :
    machine.Executes .lda source ↔
      machine.isHalted = false ∧ machine.action? = .ok (.load source) :=
  executes_iff fun _ =>
    ⟨fun | .lda opcode resolved => ⟨opcode, resolved⟩, fun decodes => .lda decodes.1 decodes.2⟩

theorem executes_sta_iff {machine : Machine} {target : Nat} :
    machine.Executes .sta target ↔
      machine.isHalted = false ∧ machine.action? = .ok (.store target) :=
  executes_iff fun _ =>
    ⟨fun | .sta opcode resolved => ⟨opcode, resolved⟩, fun decodes => .sta decodes.1 decodes.2⟩

theorem executes_bri_iff {machine : Machine} {cell : Nat} :
    machine.Executes .bri cell ↔
      machine.isHalted = false ∧ machine.action? = .ok (.jumpThrough cell) :=
  executes_iff fun _ =>
    ⟨fun | .bri opcode resolved => ⟨opcode, resolved⟩, fun decodes => .bri decodes.1 decodes.2⟩

theorem executes_brs_iff {machine : Machine} {target : Nat} :
    machine.Executes .brs target ↔
      machine.isHalted = false ∧ machine.action? = .ok (.call target) :=
  executes_iff fun _ =>
    ⟨fun | .brs opcode resolved => ⟨opcode, resolved⟩, fun decodes => .brs decodes.1 decodes.2⟩

variable {κ : Type} [Console κ]

/-! ### Single cycles -/

theorem step_call {machine : Machine} {cell : Nat} (calls : machine.Executes .brs cell)
    (positive : 1 ≤ cell) (within : cell ≤ maxAddress)
    (bounded : machine.memory.size < integerLimit) (console : κ) :
    ∃ back : Integer, back.toInt = machine.registers.pc + 1 ∧
      machine.step console =
        { machine :=
            { machine with
              memory := machine.memory.put cell (.integer back)
              registers := { machine.fetch.registers with pc := cell + 1 } }
          console
          heard := none
          outcome := .continued } := by
  obtain ⟨running, decided⟩ := executes_brs_iff.mp calls
  obtain ⟨-, code, fetched, -, -⟩ := calls
  have found := fetched?_eq_some_iff.mp fetched
  -- The return address is an integer, and the cell is one that can be written.
  obtain ⟨back, narrowed, -⟩ := Trapping.narrow_eq (Trapping.pc_advance_lt found bounded)
  have accepted : Memory.refusal? cell = none := Memory.refusal?_eq_none_iff.mpr within
  refine ⟨back, toInt_of_narrow narrowed, ?_⟩
  have entered : machine.fetch.advance.perform console (.call cell) =
      { machine :=
          { machine with
            memory := machine.memory.put cell (.integer back)
            registers := { machine.fetch.registers with pc := cell + 1 } }
        console } := by
    rw [perform, enter, if_neg (by omega), narrowed, accepted]
    rfl
  rw [step_of_action running decided, entered, Effect.finish_of_success rfl]
  simp [isHalted]

theorem step_return {machine : Machine} {cell address : Nat} {back : Integer}
    (returns : machine.Executes .bri cell) (held : machine.memory.get cell = .integer back)
    (stands : back.toInt = address + 1) (console : κ) :
    machine.step console =
      { machine :=
          { machine with
            registers := { machine.fetch.registers with pc := address + 1, ar := some cell } }
        console
        heard := none
        outcome := .continued } := by
  obtain ⟨running, decided⟩ := executes_bri_iff.mp returns
  have gone : machine.fetch.advance.perform console (.jumpThrough cell) =
      { machine :=
          { machine with
            registers := { machine.fetch.registers with pc := address + 1, ar := some cell } }
        console } := by
    have integral : Word.integer? (.integer back) = some back := rfl
    have forward : ¬ back.toInt < 0 := by omega
    have natural : back.toInt.toNat = address + 1 := by omega
    have cell_held : (machine.fetch.advance.aim cell).memory.get cell = .integer back := held
    simp only [perform, cell_held, Registers.goTo, integral, if_neg forward, natural]
    rfl
  rw [step_of_action running decided, gone, Effect.finish_of_success rfl]
  simp [isHalted]

/-- A cell that the executed instruction does not write to keeps its word. -/
theorem get_step {machine : Machine} {cell : Nat} (stored : ¬ machine.Executes .sta cell)
    (called : ¬ machine.Executes .brs cell) (console : κ) :
    (machine.step console).machine.memory.get cell = machine.memory.get cell := by
  cases state : machine.isHalted with
  | true => rw [step_of_halted state]
  | false =>
    rcases machine.step_memory console with
      same | ⟨action, target, word, decided, writes, -, -, same⟩
    · rw [same]
    · obtain ⟨code, found, decoded⟩ := action?_eq_ok_iff.mp decided
      obtain ⟨opcode, resolved⟩ := Instruction.writer_of_target decoded writes
      have fetched := fetched?_eq_some_iff.mpr found
      -- An instruction that wrote to the cell would be one of the two that are excluded.
      have elsewhere : cell ≠ target := by
        rintro rfl
        rcases opcode with opcode | opcode
        · exact stored ⟨state, code, fetched, opcode, resolved⟩
        · exact called ⟨state, code, fetched, opcode, resolved⟩
      rw [same, Memory.get_put, if_neg elsewhere]

/-! ### Rows of cycles -/

theorem get_machineAt {machine : Machine} {console : κ} {cell first : Nat} {k : Nat}
    (order : first ≤ k)
    (spared : ∀ j < k, first ≤ j → ¬ (machine.machineAt console j).Executes .sta cell ∧
      ¬ (machine.machineAt console j).Executes .brs cell) :
    (machine.machineAt console k).memory.get cell =
      (machine.machineAt console first).memory.get cell := by
  induction order with
  | refl => rfl
  | @step k before ih =>
    obtain ⟨stored, called⟩ := spared k (Nat.lt_succ_self k) before
    rw [machineAt_eq_step, get_step stored called]
    exact ih fun j earlier => spared j (by omega)

theorem size_machineAt_lt {machine : Machine} (bounded : machine.memory.size < integerLimit)
    (console : κ) (k : Nat) : (machine.machineAt console k).memory.size < integerLimit := by
  cases k with
  | zero => exact bounded
  | succ k => exact size_cycleAt_lt bounded console k

/-- In a row of cycles, a call leaves its return address, and every return through the cell goes
there as long as nothing else is written to the cell. Calls through other cells do not matter, so
each of the calls of a row that are open at the same time finds back to its own caller. In a memory
of 2^63 cells or more a return address need not be an integer. -/
theorem return_to_caller (machine : Machine) (console : κ)
    (bounded : machine.memory.size < integerLimit) (first cell : Nat) (positive : 1 ≤ cell)
    (within : cell ≤ maxAddress) (calls : (machine.machineAt console first).Executes .brs cell) :
    (machine.machineAt console first).Called cell (machine.machineAt console (first + 1)) ∧
      machine.consoleAt console (first + 1) = machine.consoleAt console first ∧
      (machine.cycleAt console first).outcome = .continued ∧
      ∀ k, first < k →
        (∀ j < k, first < j → ¬ (machine.machineAt console j).Executes .sta cell ∧
          ¬ (machine.machineAt console j).Executes .brs cell) →
        (machine.machineAt console k).Executes .bri cell →
        (machine.machineAt console k).Returned
            ((machine.machineAt console first).registers.pc + 1)
            (machine.machineAt console (k + 1)) ∧
          machine.consoleAt console (k + 1) = machine.consoleAt console k ∧
          (machine.cycleAt console k).outcome = .continued := by
  obtain ⟨back, stands, call⟩ := step_call calls positive within
    (size_machineAt_lt bounded console first) (machine.consoleAt console first)
  rw [← cycleAt_eq_step] at call
  have called : (machine.machineAt console first).Called cell
      (machine.machineAt console (first + 1)) := by
    rw [machineAt, call]
    refine ⟨⟨back, stands, ?_⟩, fun address other => ?_, rfl, rfl, rfl, rfl⟩
    · rw [Memory.get_put, if_pos rfl]
    · rw [Memory.get_put, if_neg other]
  refine ⟨called, by rw [consoleAt, call], by rw [call], fun k later spared returns => ?_⟩
  -- The cell still holds what the call has left in it.
  obtain ⟨value, address, held⟩ := called.back
  have kept : (machine.machineAt console k).memory.get cell =
      (machine.machineAt console (first + 1)).memory.get cell :=
    get_machineAt (Nat.succ_le_of_lt later) spared
  have back := step_return returns (kept.trans held) address (machine.consoleAt console k)
  rw [← cycleAt_eq_step] at back
  rw [machineAt, consoleAt, back]
  exact ⟨⟨rfl, rfl, rfl, rfl, rfl⟩, rfl, rfl⟩

/-- A subroutine that calls another one, and both returns. -/
theorem return_to_caller_nested :
    let source := "brs outer\nhlt\nouter, noop\nbrs inner\nbri outer\ninner, noop\nbri inner"
    let machine := (ofSource source).1
    let console : Script := {}
    (machine.machineAt console 0).Called 3 (machine.machineAt console 1) ∧
      (machine.machineAt console 1).Called 6 (machine.machineAt console 2) ∧
      (machine.machineAt console 2).Returned 5 (machine.machineAt console 3) ∧
      (machine.machineAt console 3).Returned 2 (machine.machineAt console 4) := by
  intro source machine console
  have bounded : machine.memory.size < integerLimit := by decide +kernel
  obtain ⟨outer, -, -, outer_returns⟩ :=
    return_to_caller machine console bounded 0 3 (by decide) (by decide) (by decide +kernel)
  obtain ⟨inner, -, -, inner_returns⟩ :=
    return_to_caller machine console bounded 1 6 (by decide) (by decide) (by decide +kernel)
  have outer_caller : (machine.machineAt console 0).registers.pc + 1 = 2 := by decide +kernel
  have inner_caller : (machine.machineAt console 1).registers.pc + 1 = 5 := by decide +kernel
  -- Cycle 2 is the return from the inner subroutine, cycle 3 the one from the outer.
  rw [outer_caller] at outer_returns
  rw [inner_caller] at inner_returns
  exact ⟨outer, inner,
    (inner_returns 2 (by decide) (by decide +kernel) (by decide +kernel)).1,
    (outer_returns 3 (by decide) (by decide +kernel) (by decide +kernel)).1⟩

end Machine

end Accumulator
