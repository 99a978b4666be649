import Accumulator.Proofs.Subroutines
import Mathlib.Algebra.Group.Int.Defs
import Mathlib.Algebra.Group.Nat.Defs

/-!
# Faults of addressing and control

`Machine.Blames` says for each operation that does no arithmetic what it faults with and when. Its
operand comes first: it may be missing, too large for an address or a name that is no label. Once it
stands for an address, only what is at that address can be wrong, and at address 0 that is the
console. Main statement: `step_blames`, a cycle faults with exactly these causes.
-/
namespace Accumulator

def Opcode.isArithmetic : Opcode → Bool
  | .add | .sub | .mlt | .div | .neg | .inc | .dec => true
  | .set | .lda | .sta | .br | .brp | .brz | .bri | .brs | .hlt | .noop => false

namespace Instruction

/-- Does the instruction take its operand for an address? A conditional branch does so only if it is
taken. -/
def isAddressed (acc : Word) (code : Instruction) : Bool :=
  match code.opcode with
  | .add | .sub | .mlt | .div | .lda | .sta | .br | .bri | .brs => true
  | .brp => acc.isPositive
  | .brz => acc.isZero
  | .set | .neg | .inc | .dec | .hlt | .noop => false

/-- The address that the operand stands for. -/
inductive Resolves (symbols : SymbolTable) (code : Instruction) : Nat → Prop
  | literal {address : Nat} (written : code.operand = some (.literal address)) :
      Resolves symbols code address
  | label {name : String} {address : Nat} (written : code.operand = some (.label name))
      (found : symbols.get? name = some address) : Resolves symbols code address

/-- Why the operand stands for no address. Names are kept in lower case by the table. -/
inductive Unresolved (symbols : SymbolTable) (code : Instruction) : Cause → Prop
  | missing (absent : code.operand = none) : Unresolved symbols code (.missingOperand code.opcode)
  | outOfRange {digits : String} (written : code.operand = some (.outOfRange digits)) :
      Unresolved symbols code (.addressOutOfRange digits)
  | undefined {name : String} (written : code.operand = some (.label name))
      (free : ∀ entry ∈ symbols.entries, entry.1 ≠ Text.lowercase name) :
      Unresolved symbols code (.undefinedLabel name)

/-- Is the operand a numeral for no machine integer? -/
inductive Oversized (code : Instruction) : Prop
  | outOfRange {digits : String} (written : code.operand = some (.outOfRange digits))
  | literal {n : Nat} (written : code.operand = some (.literal n)) (large : 2 ^ 63 - 1 < n)

end Instruction

/-- Why the console gives no line. -/
inductive Console.Unread {κ : Type} [Console κ] (console : κ) : Cause → Prop
  | exhausted {left : κ} (ended : readLine console = (.ok none, left)) :
      Unread console .inputExhausted
  | failed {message : String} {left : κ} (broken : readLine console = (.error message, left)) :
      Unread console (.consoleFailure message)

/-- What an instruction that does no arithmetic faults with. -/
inductive Machine.Blames {κ : Type} [Console κ] (machine : Machine) (console : κ)
    (code : Instruction) : Cause → Prop
  | unresolved {cause : Cause} (addressed : code.isAddressed machine.registers.acc = true)
      (unresolved : code.Unresolved machine.symbols cause) : Blames machine console code cause
  | setMissing (opcode : code.opcode = .set) (absent : code.operand = none) :
      Blames machine console code (.missingOperand .set)
  | setOversized (opcode : code.opcode = .set) (large : code.Oversized) :
      Blames machine console code .overflow
  | ldaUnread {cause : Cause} (opcode : code.opcode = .lda)
      (resolves : code.Resolves machine.symbols 0) (unread : Console.Unread console cause) :
      Blames machine console code cause
  | staUnwritten {message : String} {left : κ} (opcode : code.opcode = .sta)
      (resolves : code.Resolves machine.symbols 0)
      (broken : Console.writeLine console machine.registers.acc.render = (.error message, left)) :
      Blames machine console code (.consoleFailure message)
  | staBeyond {target : Nat} (opcode : code.opcode = .sta)
      (resolves : code.Resolves machine.symbols target) (beyond : maxAddress < target) :
      Blames machine console code (.addressOutOfRange (toString target))
  | briNonNumeric {cell : Nat} (opcode : code.opcode = .bri)
      (resolves : code.Resolves machine.symbols cell)
      (other : (machine.memory.get cell).integer? = none) :
      Blames machine console code (.nonNumeric (machine.memory.get cell))
  | briNegative {cell : Nat} {n : Integer} (opcode : code.opcode = .bri)
      (resolves : code.Resolves machine.symbols cell)
      (value : (machine.memory.get cell).integer? = some n) (negative : n.toInt < 0) :
      Blames machine console code (.invalidAddress n.toInt)
  | brsConsole (opcode : code.opcode = .brs) (resolves : code.Resolves machine.symbols 0) :
      Blames machine console code (.invalidAddress 0)
  | brsBeyond {target : Nat} (opcode : code.opcode = .brs)
      (resolves : code.Resolves machine.symbols target) (beyond : maxAddress < target) :
      Blames machine console code (.addressOutOfRange (toString target))

/-! ### Operands -/

theorem narrow_eq_error_iff {n : Int} {cause : Cause} :
    narrow n = .error cause ↔ (n < -2 ^ 63 ∨ 2 ^ 63 - 1 < n) ∧ cause = .overflow := by
  have range : Integer.ofInt? n = none ↔ n < -2 ^ 63 ∨ 2 ^ 63 - 1 < n := Integer.ofInt?_eq_none_iff
  rw [← range, narrow]
  cases Integer.ofInt? n <;> simp [eq_comm]

namespace Instruction

variable {symbols : SymbolTable} {code : Instruction} {cause : Cause}

theorem resolve_eq_ok_iff {address : Nat} :
    code.resolve symbols = .ok address ↔ code.Resolves symbols address := by
  constructor
  · intro resolved
    rcases resolve_ok resolved with written | ⟨name, written, found⟩
    · exact .literal written
    · exact .label written found
  · intro resolves
    cases resolves with
    | literal written => simp [resolve, written]
    | label written found => simp [resolve, written, found]

theorem resolve_eq_error_iff :
    code.resolve symbols = .error cause ↔ code.Unresolved symbols cause := by
  constructor
  · intro refused
    rcases resolve_error refused with
      ⟨absent, rfl⟩ | ⟨digits, written, rfl⟩ | ⟨name, written, missing, rfl⟩
    · exact .missing absent
    · exact .outOfRange written
    · exact .undefined written (SymbolTable.get?_eq_none_iff.mp missing)
  · intro unresolved
    cases unresolved with
    | missing absent => simp [resolve, absent]
    | outOfRange written => simp [resolve, written]
    | undefined written free => simp [resolve, written, SymbolTable.get?_eq_none_iff.mpr free]

theorem immediate_eq_error_iff :
    code.immediate = .error cause ↔
      code.operand = none ∧ cause = .missingOperand code.opcode ∨
        code.Oversized ∧ cause = .overflow := by
  constructor
  · intro refused
    unfold immediate at refused
    split at refused
    next absent => exact .inl ⟨absent, (Except.error.inj refused).symm⟩
    next n written =>
      obtain ⟨range, rfl⟩ := narrow_eq_error_iff.mp (map_eq_error_iff.mp refused)
      have large : 2 ^ 63 - 1 < n := by omega
      exact .inr ⟨.literal written large, rfl⟩
    next => cases refused
    next digits written => exact .inr ⟨.outOfRange written, (Except.error.inj refused).symm⟩
  · rintro (⟨absent, rfl⟩ | ⟨written | ⟨written, large⟩, rfl⟩)
    · simp [immediate, absent]
    · simp [immediate, written]
    · simp only [immediate, written, map_eq_error_iff]
      exact narrow_eq_error_iff.mpr ⟨.inr (by omega), rfl⟩

theorem branchIf_eq_error_iff {taken : Bool} :
    code.branchIf taken symbols = .error cause ↔
      taken = true ∧ code.resolve symbols = .error cause := by
  cases taken <;> simp [branchIf, map_eq_error_iff]

/-- An instruction is refused over its operand: `set` wants a word there, all others an address. -/
theorem decode_eq_error_iff {acc : Word} :
    code.decode symbols acc = .error cause ↔
      code.isAddressed acc = true ∧ code.resolve symbols = .error cause ∨
        code.opcode = .set ∧ code.immediate = .error cause := by
  obtain ⟨opcode, operand⟩ := code
  cases opcode with
  | brp => simp [decode, isAddressed, branchIf_eq_error_iff, Word.isPositive]
  | brz => simp [decode, isAddressed, branchIf_eq_error_iff, Word.isZero]
  | add | sub | mlt | div | set | lda | sta | br | bri | brs | neg | inc | dec | hlt | noop =>
    simp [decode, isAddressed, map_eq_error_iff]

end Instruction

/-! ### Actions -/

section Console

variable {κ : Type} [Console κ] {cause : Cause}

/-- Only the console can fail to give a word. -/
theorem receive_eq_error_iff (memory : Memory) {console : κ} {source : Nat} :
    (receive memory console source).word = .error cause ↔
      source = 0 ∧ Console.Unread console cause := by
  by_cases console_cell : source = 0
  · simp only [receive, console_cell, if_true, true_and]
    constructor
    · intro refused
      split at refused
      next => cases refused
      next left ended =>
        cases refused
        exact .exhausted ended
      next message left broken =>
        cases refused
        exact .failed broken
    · intro unread
      cases unread with
      | exhausted ended => simp [ended]
      | failed broken => simp [broken]
  · simp [receive, console_cell]

namespace Machine

variable {machine : Machine} {console : κ}

theorem load_failure_iff {source : Nat} :
    (machine.perform console (.load source)).failure = some cause ↔
      source = 0 ∧ Console.Unread console cause := by
  rw [← receive_eq_error_iff machine.memory]
  simp only [perform]
  cases (receive machine.memory console source).word with
  | error other => simp
  | ok word => simp [settle]

theorem store_failure_iff {target : Nat} :
    (machine.perform console (.store target)).failure = some cause ↔
      (target = 0 ∧ ∃ message left,
          Console.writeLine console machine.registers.acc.render = (.error message, left) ∧
            cause = .consoleFailure message) ∨
        maxAddress < target ∧ cause = .addressOutOfRange (toString target) := by
  have within : ¬ maxAddress < 0 := by decide
  by_cases console_cell : target = 0
  · subst console_cell
    simp only [perform, send, aim, if_true, true_and, within, false_and, or_false]
    split
    next answered => simp [answered]
    next message left answered => simp [answered, eq_comm]
  · rw [perform, send_of_ne_zero _ _ console_cell]
    simp only [console_cell, false_and, false_or, ← Memory.refusal?_eq_some_iff]
    cases Memory.refusal? target <;> simp

theorem jumpThrough_failure_iff {cell : Nat} :
    (machine.perform console (.jumpThrough cell)).failure = some cause ↔
      (machine.memory.get cell).integer? = none ∧ cause = .nonNumeric (machine.memory.get cell) ∨
        ∃ n, (machine.memory.get cell).integer? = some n ∧ n.toInt < 0 ∧
          cause = .invalidAddress n.toInt := by
  simp only [perform, settle, aim, Registers.goTo]
  cases (machine.memory.get cell).integer? with
  | none => simp [eq_comm]
  | some n =>
    by_cases negative : n.toInt < 0
    · simp [negative, eq_comm]
    · simp [negative]

theorem call_failure_iff (below : machine.registers.pc < integerLimit) {target : Nat} :
    (machine.perform console (.call target)).failure = some cause ↔
      target = 0 ∧ cause = .invalidAddress 0 ∨
        maxAddress < target ∧ cause = .addressOutOfRange (toString target) := by
  obtain ⟨back, narrowed, -⟩ := Trapping.narrow_eq below
  have within : ¬ maxAddress < 0 := by decide
  rw [perform]
  by_cases console_cell : target = 0
  · simp [enter, console_cell, within, eq_comm]
  · simp only [enter, console_cell, if_false, narrowed, false_and, false_or,
      ← Memory.refusal?_eq_some_iff]
    cases Memory.refusal? target <;> simp

/-! ### Cycles -/

/-- An action fails for what the instruction is blamed for once its operand is an address. -/
theorem blames_of_failure {code : Instruction} {action : Action}
    (found : machine.memory.get machine.registers.pc = .instruction code)
    (bounded : code.opcode = .brs → machine.memory.size < integerLimit)
    (plain : code.opcode.isArithmetic = false)
    (decodes : code.Decodes machine.symbols machine.registers.acc action)
    (failed : (machine.fetch.advance.perform console action).failure = some cause) :
    machine.Blames console code cause := by
  -- Only four of the other actions can fail, each in what it finds at its address.
  cases decodes with
  | @combine op _ opcode => rw [opcode] at plain; cases op <;> cases plain
  | @adjust op opcode => rw [opcode] at plain; cases op <;> cases plain
  | lda opcode resolved =>
    obtain ⟨rfl, unread⟩ := load_failure_iff.mp failed
    exact .ldaUnread opcode (Instruction.resolve_eq_ok_iff.mp resolved) unread
  | sta opcode resolved =>
    have resolves := Instruction.resolve_eq_ok_iff.mp resolved
    rcases store_failure_iff.mp failed with ⟨rfl, message, left, broken, rfl⟩ | ⟨beyond, rfl⟩
    · exact .staUnwritten opcode resolves broken
    · exact .staBeyond opcode resolves beyond
  | bri opcode resolved =>
    have resolves := Instruction.resolve_eq_ok_iff.mp resolved
    rcases jumpThrough_failure_iff.mp failed with ⟨other, rfl⟩ | ⟨n, value, negative, rfl⟩
    · exact .briNonNumeric opcode resolves other
    · exact .briNegative opcode resolves value negative
  | brs opcode resolved =>
    have resolves := Instruction.resolve_eq_ok_iff.mp resolved
    have below := Trapping.pc_advance_lt found (bounded opcode)
    rcases (call_failure_iff below).mp failed with ⟨rfl, rfl⟩ | ⟨beyond, rfl⟩
    · exact .brsConsole opcode resolves
    · exact .brsBeyond opcode resolves beyond
  | set | br | brp | brpSkip | brz | brzSkip | hlt | noop => cases failed

/-- What an instruction is blamed for stops it, over its operand or in its action. -/
theorem failure_of_blames {code : Instruction}
    (found : machine.memory.get machine.registers.pc = .instruction code)
    (bounded : code.opcode = .brs → machine.memory.size < integerLimit)
    (blames : machine.Blames console code cause) :
    code.decode machine.symbols machine.registers.acc = .error cause ∨
      ∃ action, code.Decodes machine.symbols machine.registers.acc action ∧
        (machine.fetch.advance.perform console action).failure = some cause := by
  cases blames with
  | unresolved addressed unresolved =>
    left
    exact Instruction.decode_eq_error_iff.mpr
      (.inl ⟨addressed, Instruction.resolve_eq_error_iff.mpr unresolved⟩)
  | setMissing opcode absent =>
    left
    have refused := Instruction.immediate_eq_error_iff.mpr (.inl ⟨absent, rfl⟩)
    rw [opcode] at refused
    exact Instruction.decode_eq_error_iff.mpr (.inr ⟨opcode, refused⟩)
  | setOversized opcode large =>
    left
    exact Instruction.decode_eq_error_iff.mpr
      (.inr ⟨opcode, Instruction.immediate_eq_error_iff.mpr (.inr ⟨large, rfl⟩)⟩)
  | ldaUnread opcode resolves unread =>
    exact .inr ⟨_, .lda opcode (Instruction.resolve_eq_ok_iff.mpr resolves),
      load_failure_iff.mpr ⟨rfl, unread⟩⟩
  | staUnwritten opcode resolves broken =>
    exact .inr ⟨_, .sta opcode (Instruction.resolve_eq_ok_iff.mpr resolves),
      store_failure_iff.mpr (.inl ⟨rfl, _, _, broken, rfl⟩)⟩
  | staBeyond opcode resolves beyond =>
    exact .inr ⟨_, .sta opcode (Instruction.resolve_eq_ok_iff.mpr resolves),
      store_failure_iff.mpr (.inr ⟨beyond, rfl⟩)⟩
  | briNonNumeric opcode resolves other =>
    exact .inr ⟨_, .bri opcode (Instruction.resolve_eq_ok_iff.mpr resolves),
      jumpThrough_failure_iff.mpr (.inl ⟨other, rfl⟩)⟩
  | briNegative opcode resolves value negative =>
    exact .inr ⟨_, .bri opcode (Instruction.resolve_eq_ok_iff.mpr resolves),
      jumpThrough_failure_iff.mpr (.inr ⟨_, value, negative, rfl⟩)⟩
  | brsConsole opcode resolves =>
    have below := Trapping.pc_advance_lt found (bounded opcode)
    exact .inr ⟨_, .brs opcode (Instruction.resolve_eq_ok_iff.mpr resolves),
      (call_failure_iff below).mpr (.inl ⟨rfl, rfl⟩)⟩
  | brsBeyond opcode resolves beyond =>
    have below := Trapping.pc_advance_lt found (bounded opcode)
    exact .inr ⟨_, .brs opcode (Instruction.resolve_eq_ok_iff.mpr resolves),
      (call_failure_iff below).mpr (.inr ⟨beyond, rfl⟩)⟩

theorem blames_iff {code : Instruction} (running : machine.isHalted = false)
    (found : machine.memory.get machine.registers.pc = .instruction code)
    (bounded : code.opcode = .brs → machine.memory.size < integerLimit)
    (plain : code.opcode.isArithmetic = false) :
    (machine.step console).outcome.cause? = some cause ↔ machine.Blames console code cause := by
  rw [cause?_step_iff running, action?_of_found found]
  simp only [Instruction.decode_eq_ok_iff]
  refine ⟨?_, failure_of_blames found bounded⟩
  rintro (refused | ⟨action, decodes, failed⟩)
  · rcases Instruction.decode_eq_error_iff.mp refused with
      ⟨addressed, unresolved⟩ | ⟨opcode, wordless⟩
    · exact .unresolved addressed (Instruction.resolve_eq_error_iff.mp unresolved)
    · rcases Instruction.immediate_eq_error_iff.mp wordless with ⟨absent, rfl⟩ | ⟨large, rfl⟩
      · rw [opcode]
        exact .setMissing opcode absent
      · exact .setOversized opcode large
  · exact blames_of_failure found bounded plain decodes failed

theorem not_blames_of_resolves {code : Instruction} {address : Nat}
    (resolves : code.Resolves machine.symbols address)
    (branch : code.opcode = .br ∨ code.opcode = .brp ∨ code.opcode = .brz) :
    ¬ machine.Blames console code cause := by
  intro blames
  cases blames with
  | unresolved _ unresolved =>
    have resolved := Instruction.resolve_eq_ok_iff.mpr resolves
    have refused := Instruction.resolve_eq_error_iff.mpr unresolved
    cases resolved.symm.trans refused
  | setMissing opcode | setOversized opcode | ldaUnread opcode | staUnwritten opcode
  | staBeyond opcode | briNonNumeric opcode | briNegative opcode | brsConsole opcode
  | brsBeyond opcode => simp [opcode] at branch

theorem not_blames_of_opcode {code : Instruction}
    (plain : code.opcode = .hlt ∨ code.opcode = .noop) : ¬ machine.Blames console code cause := by
  intro blames
  cases blames with
  | unresolved addressed =>
    rcases plain with opcode | opcode
    · simp [Instruction.isAddressed, opcode] at addressed
    · simp [Instruction.isAddressed, opcode] at addressed
  | setMissing opcode | setOversized opcode | ldaUnread opcode | staUnwritten opcode
  | staBeyond opcode | briNonNumeric opcode | briNegative opcode | brsConsole opcode
  | brsBeyond opcode => simp [opcode] at plain

/-- A cycle on a word that is no instruction blames that word. On an instruction that does no
arithmetic it faults with exactly what the instruction is blamed for: never for `hlt` and `noop`, and
for a branch only while its operand stands for no address. A call also needs room for its return
address, which a memory of less than 2^63 cells always has. -/
theorem step_blames (running : machine.isHalted = false) (console : κ) :
    ((∀ code, machine.memory.get machine.registers.pc ≠ .instruction code) →
      (machine.step console).outcome.cause? =
        some (.illegalInstruction (machine.memory.get machine.registers.pc))) ∧
    ∀ code, machine.memory.get machine.registers.pc = .instruction code →
      code.opcode.isArithmetic = false →
      (code.opcode = .brs → machine.memory.size < integerLimit) →
      (∀ cause, (machine.step console).outcome.cause? = some cause ↔
        machine.Blames console code cause) ∧
      (code.opcode = .hlt ∨ code.opcode = .noop →
        (machine.step console).outcome.cause? = none) ∧
      ∀ address, code.Resolves machine.symbols address →
        code.opcode = .br ∨ code.opcode = .brp ∨ code.opcode = .brz →
          (machine.step console).outcome.cause? = none := by
  constructor
  · intro other
    rw [cause?_step_iff running, action?]
    split
    next code found => exact absurd found (other code)
    next => exact .inl rfl
  · intro code found plain bounded
    have blames : ∀ cause, (machine.step console).outcome.cause? = some cause ↔
        machine.Blames console code cause := fun cause => blames_iff running found bounded plain
    refine ⟨blames, fun quiet => ?_, fun address resolves branch => ?_⟩
    · rw [Option.eq_none_iff_forall_ne_some]
      exact fun cause faulted => not_blames_of_opcode quiet ((blames cause).mp faulted)
    · rw [Option.eq_none_iff_forall_ne_some]
      exact fun cause faulted => not_blames_of_resolves resolves branch ((blames cause).mp faulted)

/-- A call to an address that cannot be written, and an indirect branch through a label in the other
case to a text that stands for a negative number. -/
theorem step_blames_branches :
    let call : Instruction := ⟨.brs, some (.literal 1048576)⟩
    let caller : Machine := { memory := Memory.empty.push (.instruction call) }
    let branch : Instruction := ⟨.bri, some (.label "BACK")⟩
    let memory := (Memory.empty.push (.instruction branch)).push (.text " -3 ")
    let returning : Machine := { memory, symbols := SymbolTable.initial.define "back" 2 }
    (caller.step ({} : Script)).outcome.cause? = some (.addressOutOfRange "1048576") ∧
      (returning.step ({} : Script)).outcome.cause? = some (.invalidAddress (-3)) := by
  intro call caller branch memory returning
  have bounded : caller.memory.size < integerLimit := by decide +kernel
  have called : caller.memory.get caller.registers.pc = .instruction call := by decide +kernel
  have beyond : maxAddress < 1048576 := by decide
  obtain ⟨calls, -, -⟩ :=
    (step_blames (by decide) ({} : Script)).2 call called rfl fun _ => bounded
  have branched : returning.memory.get returning.registers.pc = .instruction branch := by
    decide +kernel
  have resolves : branch.Resolves returning.symbols 2 := .label rfl (by decide +kernel)
  have value : (returning.memory.get 2).integer? = some (-3) := by decide +kernel
  obtain ⟨branches, -, -⟩ := (step_blames (by decide) ({} : Script)).2 branch branched rfl nofun
  exact ⟨(calls _).mpr (.brsBeyond rfl (.literal rfl) beyond),
    (branches _).mpr (.briNegative rfl resolves value (by decide))⟩

end Machine

end Console

end Accumulator
