import Accumulator.Proofs.Addressing
import Mathlib.Data.Rat.Floor

/-!
# Exact arithmetic

The seven operations that do arithmetic calculate as with integers that have no bound
(`Machine.Calculates`) and keep the result if it is a machine integer. What can go wrong is a list of
checks, each stated on its own: a cycle that has no result to keep faults with the first of them
that fails. Main statement: `step_calculates`.

The checks fail in the order of their ranks because each fact that a calculation needs raises the
rank that a failing check can have (`Fails.three_le_rank` and its neighbours); a result in range
leaves no rank at all (`Calculates.not_fails`).
-/
namespace Accumulator

/-- An operation that does arithmetic, with a second operand or without. -/
inductive Calculation where
  | combine (op : Arithmetic)
  | adjust (op : Adjustment)
  deriving DecidableEq, Repr

def Calculation.opcode : Calculation → Opcode
  | .combine op => op.opcode
  | .adjust op => op.opcode

/-- The result of the operation as a number. -/
def Arithmetic.value (a b : Int) : Arithmetic → Int
  | .add => a + b
  | .sub => a - b
  | .mlt => a * b
  | .div => ⌊(a / b : ℚ)⌋

def Adjustment.value (a : Int) : Adjustment → Int
  | .neg => -a
  | .inc => a + 1
  | .dec => a - 1

/-- What can be wrong with a calculation. -/
inductive Check where
  /-- Does the second operand stand for an address? -/
  | resolution
  /-- Does the console give a line, if the address is its own? -/
  | console
  /-- Does the second operand stand for an integer? -/
  | operand
  /-- Does the accumulator stand for an integer? -/
  | accumulator
  | divisor
  /-- Is the result a machine integer? -/
  | range
  deriving DecidableEq, Repr

/-- The place of the check in the order in which they are made. -/
def Check.rank : Check → Nat
  | .resolution => 0
  | .console => 1
  | .operand => 2
  | .accumulator => 3
  | .divisor => 4
  | .range => 5

/-- Does the cycle keep this result, and leave this word in B? -/
structure Cycle.Keeps {κ : Type} (cycle : Cycle κ) (second : Word) (result : Int) : Prop where
  continued : cycle.outcome = .continued
  acc : ∃ value : Integer, value.toInt = result ∧ cycle.machine.registers.acc = .integer value
  b : cycle.machine.registers.b = second

namespace Machine

variable {κ : Type} [Console κ]

/-- The word at the address of the operand, where address 0 is the next line of the console. -/
inductive Yields (machine : Machine) (console : κ) (code : Instruction) : Word → Prop
  | cell {address : Nat} (resolves : code.Resolves machine.symbols address)
      (inside : address ≠ 0) : Yields machine console code (machine.memory.get address)
  | line {content : String} {left : κ} (resolves : code.Resolves machine.symbols 0)
      (read : Console.readLine console = (.ok (some content), left)) :
      Yields machine console code (.text content)

/-- What a calculation comes to: the word that belongs in B, which only a second operand changes, and
the result. -/
inductive Calculates (machine : Machine) (console : κ) (code : Instruction) :
    Calculation → Word → Int → Prop
  | combine {op : Arithmetic} {word : Word} {a b : Integer}
      (yields : machine.Yields console code word) (second : word.integer? = some b)
      (first : machine.registers.acc.integer? = some a) (defined : op = .div → b.toInt ≠ 0) :
      Calculates machine console code (.combine op) (.integer b) (op.value a.toInt b.toInt)
  | adjust {op : Adjustment} {a : Integer} (first : machine.registers.acc.integer? = some a) :
      Calculates machine console code (.adjust op) machine.registers.b (op.value a.toInt)

/-- Does this check of the calculation fail, whatever the others say? -/
inductive Fails (machine : Machine) (console : κ) (code : Instruction) :
    Calculation → Check → Cause → Prop
  | resolution {op : Arithmetic} {cause : Cause}
      (unresolved : code.Unresolved machine.symbols cause) :
      Fails machine console code (.combine op) .resolution cause
  | console {op : Arithmetic} {cause : Cause} (resolves : code.Resolves machine.symbols 0)
      (unread : Console.Unread console cause) :
      Fails machine console code (.combine op) .console cause
  | operand {op : Arithmetic} {word : Word} (yields : machine.Yields console code word)
      (other : word.integer? = none) :
      Fails machine console code (.combine op) .operand (.nonNumeric word)
  | accumulator {calculation : Calculation} (other : machine.registers.acc.integer? = none) :
      Fails machine console code calculation .accumulator (.nonNumeric machine.registers.acc)
  | divisor {word : Word} {b : Integer} (yields : machine.Yields console code word)
      (second : word.integer? = some b) (zero : b.toInt = 0) :
      Fails machine console code (.combine .div) .divisor .divisionByZero
  | range {calculation : Calculation} {second : Word} {result : Int}
      (calculates : machine.Calculates console code calculation second result)
      (outside : result < -2 ^ 63 ∨ 2 ^ 63 - 1 < result) :
      Fails machine console code calculation .range .overflow

/-- Is this the first check to fail? -/
structure FailsFirst (machine : Machine) (console : κ) (code : Instruction)
    (calculation : Calculation) (check : Check) (cause : Cause) : Prop where
  fails : machine.Fails console code calculation check cause
  first : ∀ other blamed, machine.Fails console code calculation other blamed →
    check.rank ≤ other.rank

end Machine

/-! ### Results -/

theorem fdiv_eq_floor (a b : Int) : a.fdiv b = ⌊(a / b : ℚ)⌋ := by
  have natural : ∀ (a : Int) (b : Nat), a.fdiv b = ⌊(a / (b : Int) : ℚ)⌋ := by
    intro a b
    rw [Int.fdiv_eq_ediv_of_nonneg a (Int.natCast_nonneg b)]
    exact (Rat.floor_intCast_div_natCast a b).symm
  obtain ⟨n, rfl | rfl⟩ := b.eq_nat_or_neg
  · exact natural a n
  · -- A quotient stays the same if both signs change.
    have turned := natural (-a) n
    rwa [← Int.neg_fdiv_neg, neg_neg, Int.cast_neg, neg_div, ← div_neg, ← Int.cast_neg] at turned

theorem Arithmetic.exact_eq_value {op : Arithmetic} {a b : Int} (defined : op = .div → b ≠ 0) :
    op.exact a b = .ok (op.value a b) := by
  cases op with
  | add | sub | mlt => rfl
  | div => rw [exact, if_neg (defined rfl), fdiv_eq_floor, value]

theorem Adjustment.exact_eq_value (op : Adjustment) (a : Int) : op.exact a = op.value a := by
  cases op <;> rfl

theorem range_of_narrow {n : Int} {value : Integer} (narrowed : narrow n = .ok value) :
    -2 ^ 63 ≤ n ∧ n ≤ 2 ^ 63 - 1 := by
  rw [← toInt_of_narrow narrowed]
  exact ⟨Int64.minValue_le_toInt value, Int64.toInt_le value⟩

theorem exists_fault_of_cause? {outcome : Outcome} {cause : Cause}
    (blamed : outcome.cause? = some cause) : ∃ fault, outcome = .faulted fault := by
  cases outcome with
  | faulted fault => exact ⟨fault, rfl⟩
  | continued | halted => cases blamed

namespace Machine

variable {κ : Type} [Console κ] {machine : Machine} {console : κ} {code : Instruction}

/-! ### Second operands -/

theorem receive_eq_ok_iff {source : Nat} {word : Word} :
    (receive machine.memory console source).word = .ok word ↔
      source ≠ 0 ∧ word = machine.memory.get source ∨
        source = 0 ∧ ∃ content left,
          Console.readLine console = (.ok (some content), left) ∧ word = .text content := by
  by_cases console_cell : source = 0
  · simp only [receive, console_cell, if_true, ne_eq, not_true, false_and, false_or, true_and]
    split
    next content left answered => simp [answered, eq_comm]
    next left answered => simp [answered]
    next message left answered => simp [answered]
  · simp [receive, console_cell, eq_comm]

/-- The word of an operand is what is received from the address that it resolves to. -/
theorem yields_iff {word : Word} :
    machine.Yields console code word ↔ ∃ address, code.resolve machine.symbols = .ok address ∧
      (receive machine.memory console address).word = .ok word := by
  simp only [Instruction.resolve_eq_ok_iff, receive_eq_ok_iff]
  constructor
  · rintro (⟨resolves, inside⟩ | ⟨resolves, read⟩)
    · exact ⟨_, resolves, .inl ⟨inside, rfl⟩⟩
    · exact ⟨0, resolves, .inr ⟨rfl, _, _, read, rfl⟩⟩
  · rintro ⟨address, resolves, ⟨inside, rfl⟩ | ⟨rfl, content, left, read, rfl⟩⟩
    · exact .cell resolves inside
    · exact .line resolves read

theorem Yields.unique {word other : Word} (yields : machine.Yields console code word)
    (again : machine.Yields console code other) : word = other := by
  obtain ⟨address, resolved, received⟩ := yields_iff.mp yields
  obtain ⟨_, resolved', received'⟩ := yields_iff.mp again
  cases resolved.symm.trans resolved'
  exact Except.ok.inj (received.symm.trans received')

theorem Calculates.unique {calculation : Calculation} {second other : Word} {result rival : Int}
    (calculates : machine.Calculates console code calculation second result)
    (again : machine.Calculates console code calculation other rival) :
    second = other ∧ result = rival := by
  cases calculates with
  | combine yields operand accumulator =>
    cases again with
    | combine yields' operand' accumulator' =>
      obtain rfl := yields.unique yields'
      cases operand.symm.trans operand'
      cases accumulator.symm.trans accumulator'
      exact ⟨rfl, rfl⟩
  | adjust accumulator =>
    cases again with
    | adjust accumulator' =>
      cases accumulator.symm.trans accumulator'
      exact ⟨rfl, rfl⟩

/-! ### Checks that do not fail -/

namespace Fails

variable {calculation : Calculation} {op : Arithmetic} {check : Check} {cause : Cause}

theorem one_le_rank {address : Nat} (resolved : code.resolve machine.symbols = .ok address)
    (fails : machine.Fails console code (.combine op) check cause) : 1 ≤ check.rank := by
  cases fails with
  | resolution unresolved =>
    cases resolved.symm.trans (Instruction.resolve_eq_error_iff.mpr unresolved)
  | console | operand | accumulator | divisor | range => decide

theorem two_le_rank {word : Word} (yields : machine.Yields console code word)
    (fails : machine.Fails console code (.combine op) check cause) : 2 ≤ check.rank := by
  obtain ⟨address, resolved, received⟩ := yields_iff.mp yields
  have positive := one_le_rank resolved fails
  cases fails with
  | resolution => exact absurd positive (by decide)
  | console resolves unread =>
    cases resolved.symm.trans (Instruction.resolve_eq_ok_iff.mpr resolves)
    cases received.symm.trans ((receive_eq_error_iff machine.memory).mpr ⟨rfl, unread⟩)
  | operand | accumulator | divisor | range => decide

theorem three_le_rank {word : Word} {b : Integer} (yields : machine.Yields console code word)
    (second : word.integer? = some b)
    (fails : machine.Fails console code (.combine op) check cause) : 3 ≤ check.rank := by
  have beyond := two_le_rank yields fails
  cases fails with
  | resolution | console => exact absurd beyond (by decide)
  | operand yields' other =>
    obtain rfl := yields.unique yields'
    cases second.symm.trans other
  | accumulator | divisor | range => decide

/-- Without a second operand there is nothing to check before the accumulator. -/
theorem three_le_rank_adjust {op : Adjustment}
    (fails : machine.Fails console code (.adjust op) check cause) : 3 ≤ check.rank := by
  cases fails <;> decide

theorem four_le_rank {a : Integer} (beyond : 3 ≤ check.rank)
    (first : machine.registers.acc.integer? = some a)
    (fails : machine.Fails console code calculation check cause) : 4 ≤ check.rank := by
  cases fails with
  | resolution | console | operand => exact absurd beyond (by decide)
  | accumulator other => cases first.symm.trans other
  | divisor | range => decide

theorem five_le_rank {second : Word} {result : Int}
    (calculates : machine.Calculates console code calculation second result)
    (fails : machine.Fails console code calculation check cause) : 5 ≤ check.rank := by
  cases calculates with
  | combine yields operand first defined =>
    have beyond := four_le_rank (three_le_rank yields operand fails) first fails
    cases fails with
    | resolution | console | operand | accumulator => exact absurd beyond (by decide)
    | divisor yields' operand' zero =>
      -- The failing check reads the same word, so its divisor is the one that is not 0.
      obtain rfl := yields.unique yields'
      cases operand.symm.trans operand'
      exact absurd zero (defined rfl)
    | range => decide
  | adjust first =>
    have beyond := four_le_rank (three_le_rank_adjust fails) first fails
    cases fails with
    | accumulator => exact absurd beyond (by decide)
    | range => decide

theorem cause_unique {other : Cause} (fails : machine.Fails console code calculation check cause)
    (again : machine.Fails console code calculation check other) : cause = other := by
  cases fails with
  | resolution unresolved =>
    cases again with
    | resolution unresolved' =>
      have refused := Instruction.resolve_eq_error_iff.mpr unresolved
      cases refused.symm.trans (Instruction.resolve_eq_error_iff.mpr unresolved')
      rfl
  | console _ unread =>
    cases again with
    | console _ unread' =>
      have refused := (receive_eq_error_iff machine.memory).mpr ⟨rfl, unread⟩
      cases refused.symm.trans ((receive_eq_error_iff machine.memory).mpr ⟨rfl, unread'⟩)
      rfl
  | operand yields =>
    cases again with
    | operand yields' => rw [yields.unique yields']
  | accumulator | divisor | range => cases again; rfl

end Fails

/-- A result in range leaves nothing to fail. -/
theorem Calculates.not_fails {calculation : Calculation} {second : Word} {result : Int}
    (calculates : machine.Calculates console code calculation second result)
    (range : -2 ^ 63 ≤ result ∧ result ≤ 2 ^ 63 - 1) (check : Check) (cause : Cause) :
    ¬ machine.Fails console code calculation check cause := by
  intro fails
  have beyond := fails.five_le_rank calculates
  cases fails with
  | resolution | console | operand | accumulator | divisor => exact absurd beyond (by decide)
  | range calculates' outside =>
    obtain ⟨-, rfl⟩ := calculates.unique calculates'
    omega

theorem FailsFirst.unique {calculation : Calculation} {check other : Check} {cause blamed : Cause}
    (first : machine.FailsFirst console code calculation check cause)
    (again : machine.FailsFirst console code calculation other blamed) : cause = blamed := by
  have same : check.rank = other.rank :=
    Nat.le_antisymm (first.first other blamed again.fails) (again.first check cause first.fails)
  obtain rfl : check = other := by
    revert same
    cases check <;> cases other <;> decide
  exact first.fails.cause_unique again.fails

/-! ### Cycles -/

/-- How a cycle with a calculation ends. -/
inductive Concludes (machine : Machine) (console : κ) (code : Instruction)
    (calculation : Calculation) : Prop
  | keeps {second : Word} {result : Int}
      (calculates : machine.Calculates console code calculation second result)
      (range : -2 ^ 63 ≤ result ∧ result ≤ 2 ^ 63 - 1)
      (keeps : (machine.step console).Keeps second result)
  | faults {check : Check} {cause : Cause}
      (faulted : (machine.step console).outcome.cause? = some cause)
      (first : machine.FailsFirst console code calculation check cause)

section

variable {left : κ} {heard : Option String} {after : Machine}

/-- A result is kept, or it is out of range and all other checks are passed. -/
theorem concludes_of_result {calculation : Calculation} {second : Word} {result : Int}
    (stepped : machine.step console = (after.settle left heard
      (after.registers.accept (narrow result))).finish machine.registers.pc)
    (calculates : machine.Calculates console code calculation second result)
    (moved : after.registers.pc ≠ 0) (kept : after.registers.b = second) :
    machine.Concludes console code calculation := by
  cases narrowed : narrow result with
  | error cause =>
    obtain ⟨outside, rfl⟩ := narrow_eq_error_iff.mp narrowed
    have faulted : (machine.step console).outcome.cause? = some .overflow := by
      rw [stepped, narrowed, Effect.finish_cause?]
      rfl
    exact .faults faulted
      ⟨.range calculates outside, fun _ _ fails => fails.five_le_rank calculates⟩
  | ok value =>
    rw [narrowed, Effect.finish_of_success rfl] at stepped
    have running : (after.settle left heard
        (after.registers.accept (.ok value))).machine.isHalted = false := by
      simpa [settle, Registers.accept, isHalted] using moved
    refine .keeps calculates (range_of_narrow narrowed) ?_
    rw [stepped, running]
    exact ⟨rfl, ⟨value, toInt_of_narrow narrowed, rfl⟩, kept⟩

/-- The checks of an operation with two operands that come after the second operand is known. -/
theorem concludes_of_operands {op : Arithmetic} {word : Word} {b : Integer}
    (stepped : machine.step console = (after.settle left heard
      (after.registers.combine op word)).finish machine.registers.pc)
    (yields : machine.Yields console code word) (second : word.integer? = some b)
    (moved : after.registers.pc ≠ 0) (acc : after.registers.acc = machine.registers.acc) :
    machine.Concludes console code (.combine op) := by
  have faulted : (machine.step console).outcome.cause? = (after.registers.combine op word).2 := by
    rw [stepped, Effect.finish_cause?, settle]
  cases first : machine.registers.acc.integer? with
  | none =>
    have refused : (after.registers.combine op word).2 =
        some (.nonNumeric machine.registers.acc) := by
      simp [Registers.combine, second, acc, first]
    exact .faults (faulted.trans refused)
      ⟨.accumulator first, fun _ _ fails => fails.three_le_rank yields second⟩
  | some a =>
    have combined : after.registers.combine op word =
        { after.registers with b := .integer b }.accept
          ((op.exact a.toInt b.toInt).bind narrow) := by
      simp [Registers.combine, second, acc, first]
    by_cases undefined : op = .div ∧ b.toInt = 0
    · obtain ⟨rfl, zero⟩ := undefined
      have refused : (after.registers.combine .div word).2 = some .divisionByZero := by
        simp [combined, Arithmetic.exact, zero, Except.bind, Registers.accept]
      exact .faults (faulted.trans refused) ⟨.divisor yields second zero, fun _ _ fails =>
        Fails.four_le_rank (fails.three_le_rank yields second) first fails⟩
    · have defined : op = .div → b.toInt ≠ 0 := fun divides zero => undefined ⟨divides, zero⟩
      rw [combined, Arithmetic.exact_eq_value defined] at stepped
      -- B has its new word when the result is taken into the accumulator.
      let loaded := { after with registers := { after.registers with b := .integer b } }
      have accepted : machine.step console = (loaded.settle left heard
        (loaded.registers.accept (narrow (op.value a.toInt b.toInt)))).finish
          machine.registers.pc := stepped
      exact concludes_of_result accepted (.combine yields second first defined) moved rfl

end

theorem concludes_combine {op : Arithmetic} (running : machine.isHalted = false)
    (found : machine.memory.get machine.registers.pc = .instruction code)
    (opcode : code.opcode = op.opcode) (console : κ) :
    machine.Concludes console code (.combine op) := by
  -- The cases follow the cycle: the address of the operand, the word from there, its integer.
  cases resolved : code.resolve machine.symbols with
  | error cause =>
    have addressed : code.isAddressed machine.registers.acc = true := by
      cases op <;> simp [Instruction.isAddressed, opcode, Arithmetic.opcode]
    have refused : machine.action? = .error cause := by
      rw [action?_of_found found, Instruction.decode_eq_error_iff]
      exact .inl ⟨addressed, resolved⟩
    exact .faults ((cause?_step_iff running).mpr (.inl refused))
      ⟨.resolution (Instruction.resolve_eq_error_iff.mp resolved), fun _ _ _ => Nat.zero_le _⟩
  | ok address =>
    have decided : machine.action? = .ok (.combine op address) := by
      rw [action?_of_found found, Instruction.decode_eq_ok_iff]
      exact .combine opcode resolved
    have stepped := step_of_action running decided console
    have asked : receive machine.fetch.advance.memory console address =
      receive machine.memory console address := rfl
    cases received : (receive machine.memory console address).word with
    | error cause =>
      obtain ⟨rfl, unread⟩ := (receive_eq_error_iff machine.memory).mp received
      have refused : (machine.step console).outcome.cause? = some cause := by
        simp only [stepped, perform, asked, received, Effect.finish_cause?]
      exact .faults refused
        ⟨.console (Instruction.resolve_eq_ok_iff.mp resolved) unread, fun _ _ fails =>
          fails.one_le_rank resolved⟩
    | ok word =>
      have yields : machine.Yields console code word := yields_iff.mpr ⟨address, resolved, received⟩
      simp only [perform, asked, received] at stepped
      cases second : word.integer? with
      | none =>
        have refused : (machine.step console).outcome.cause? = some (.nonNumeric word) := by
          rw [stepped, Effect.finish_cause?]
          simp [settle, Registers.combine, second]
        exact .faults refused ⟨.operand yields second, fun _ _ fails => fails.two_le_rank yields⟩
      | some b => exact concludes_of_operands stepped yields second (Nat.succ_ne_zero _) rfl

theorem concludes_adjust {op : Adjustment} (running : machine.isHalted = false)
    (found : machine.memory.get machine.registers.pc = .instruction code)
    (opcode : code.opcode = op.opcode) (console : κ) :
    machine.Concludes console code (.adjust op) := by
  have decided : machine.action? = .ok (.adjust op) := by
    rw [action?_of_found found, Instruction.decode_eq_ok_iff]
    exact .adjust opcode
  have stepped := step_of_action running decided console
  have acc : machine.fetch.advance.registers.acc = machine.registers.acc := rfl
  cases first : machine.registers.acc.integer? with
  | none =>
    have refused : (machine.step console).outcome.cause? =
        some (.nonNumeric machine.registers.acc) := by
      rw [stepped, Effect.finish_cause?]
      simp [perform, settle, Registers.adjust, acc, first]
    exact .faults refused ⟨.accumulator first, fun _ _ fails => fails.three_le_rank_adjust⟩
  | some a =>
    simp only [perform, Registers.adjust, acc, first, Adjustment.exact_eq_value] at stepped
    exact concludes_of_result stepped (.adjust first) (Nat.succ_ne_zero _) rfl

theorem concludes (calculation : Calculation) (running : machine.isHalted = false)
    (found : machine.memory.get machine.registers.pc = .instruction code)
    (opcode : code.opcode = calculation.opcode) (console : κ) :
    machine.Concludes console code calculation := by
  cases calculation with
  | combine op => exact concludes_combine running found opcode console
  | adjust op => exact concludes_adjust running found opcode console

/-- There is one result at most, so the one that a cycle keeps is the one that there is. -/
theorem Concludes.keeps_of_calculates {calculation : Calculation} {second : Word} {result : Int}
    (ended : machine.Concludes console code calculation)
    (calculates : machine.Calculates console code calculation second result)
    (range : -2 ^ 63 ≤ result ∧ result ≤ 2 ^ 63 - 1) :
    (machine.step console).Keeps second result := by
  cases ended with
  | keeps own _ keeps =>
    obtain ⟨rfl, rfl⟩ := own.unique calculates
    exact keeps
  | @faults check cause _ first =>
    exact absurd first.fails (calculates.not_fails range check cause)

/-- An operation that does arithmetic goes on exactly if it has a result and that is in range, and
then keeps it as it is. Otherwise it faults with the first check that fails. -/
theorem step_calculates (calculation : Calculation) (running : machine.isHalted = false)
    (found : machine.memory.get machine.registers.pc = .instruction code)
    (opcode : code.opcode = calculation.opcode) (console : κ) :
    ((machine.step console).outcome = .continued ↔
      ∃ second result, machine.Calculates console code calculation second result ∧
        -2 ^ 63 ≤ result ∧ result ≤ 2 ^ 63 - 1) ∧
    (∀ second result, machine.Calculates console code calculation second result →
      -2 ^ 63 ≤ result → result ≤ 2 ^ 63 - 1 → (machine.step console).Keeps second result) ∧
    ((machine.step console).outcome = .continued ∨
      ∃ fault, (machine.step console).outcome = .faulted fault) ∧
    ∀ cause, (machine.step console).outcome.cause? = some cause ↔
      ∃ check, machine.FailsFirst console code calculation check cause := by
  have ended := concludes calculation running found opcode console
  refine ⟨⟨fun continued => ?_, ?_⟩, ?_, ?_, fun cause => ⟨fun faulted => ?_, ?_⟩⟩
  · cases ended with
    | keeps calculates range => exact ⟨_, _, calculates, range⟩
    | faults faulted => rw [continued] at faulted; cases faulted
  · rintro ⟨second, result, calculates, range⟩
    exact (ended.keeps_of_calculates calculates range).continued
  · exact fun second result calculates low high => ended.keeps_of_calculates calculates ⟨low, high⟩
  · cases ended with
    | keeps _ _ keeps => exact .inl keeps.continued
    | faults faulted => exact .inr (exists_fault_of_cause? faulted)
  · cases ended with
    | keeps _ _ keeps => rw [keeps.continued] at faulted; cases faulted
    | faults own first =>
      cases own.symm.trans faulted
      exact ⟨_, first⟩
  · rintro ⟨check, first⟩
    cases ended with
    | keeps calculates range => exact absurd first.fails (calculates.not_fails range check cause)
    | faults faulted own => rwa [first.unique own]

/-- A quotient that is rounded down, and a division where the accumulator is blamed although the
divisor is 0. -/
theorem step_calculates_div :
    let code : Instruction := ⟨.div, some (.label "STDIN")⟩
    let machine (acc : Word) : Machine :=
      { memory := Memory.empty.push (.instruction code), registers := { acc } }
    ((machine (.integer (-7))).step (Script.ofText "2")).Keeps (.integer 2) (-4) ∧
      (machine (.text "ten")).Fails (Script.ofText " -0") code (.combine .div) .divisor
        .divisionByZero ∧
      ((machine (.text "ten")).step (Script.ofText " -0")).outcome.cause? =
        some (.nonNumeric (.text "ten")) := by
  intro code machine
  have found : SymbolTable.initial.get? "STDIN" = some 0 := by decide +kernel
  have resolves : ∀ acc, code.Resolves (machine acc).symbols 0 := fun _ => .label rfl found
  have two : (machine (.integer (-7))).Yields (Script.ofText "2") code (.text "2") :=
    .line (resolves _) rfl
  have zero : (machine (.text "ten")).Yields (Script.ofText " -0") code (.text " -0") :=
    .line (resolves _) rfl
  have quotient : (machine (.integer (-7))).Calculates (Script.ofText "2") code (.combine .div)
      (.integer 2) (Arithmetic.div.value (Int64.toInt (-7)) (Int64.toInt 2)) :=
    .combine two (by decide +kernel) rfl (by decide)
  have rounded : Arithmetic.div.value (Int64.toInt (-7)) (Int64.toInt 2) = -4 := by
    rw [Arithmetic.value, ← fdiv_eq_floor]
    rfl
  rw [rounded] at quotient
  have divisor : (Word.text " -0").integer? = some 0 := by decide +kernel
  have noDivisor : (machine (.text "ten")).Fails (Script.ofText " -0") code (.combine .div)
      .divisor .divisionByZero := .divisor zero divisor rfl
  have noNumber : (machine (.text "ten")).FailsFirst (Script.ofText " -0") code (.combine .div)
      .accumulator (.nonNumeric (.text "ten")) :=
    ⟨.accumulator (by decide +kernel), fun _ _ fails =>
      fails.three_le_rank zero divisor⟩
  obtain ⟨-, keeps, -⟩ := @step_calculates Script _ (machine (.integer (-7))) code (.combine .div)
    rfl rfl rfl (Script.ofText "2")
  obtain ⟨-, -, -, faults⟩ := @step_calculates Script _ (machine (.text "ten")) code
    (.combine .div) rfl rfl rfl (Script.ofText " -0")
  exact ⟨keeps _ _ quotient (by decide) (by decide), noDivisor, (faults _).mpr ⟨_, noNumber⟩⟩

end Machine

end Accumulator
