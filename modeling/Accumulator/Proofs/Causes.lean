import Accumulator.Proofs.Traffic

/-!
# Why a cycle faults

A cycle faults before its action, over what it fetched or over the operand, or in its action
(`step_cause`). An operand is blamed for what it says (`decode_error`), an action for the words that
it meets, for its console, or for an address that memory refuses (`perform_failsOver`). What an
instruction is decoded to, if nothing is wrong with it, is said once by `Decodes`.
-/
namespace Accumulator

/-- Why the cycle faulted, if it did. -/
def Outcome.cause? : Outcome → Option Cause
  | .faulted fault => some fault.cause
  | .continued | .halted => none

/-- Does the cause lie with a word or with the console? -/
def Cause.concernsData : Cause → Bool
  | .divisionByZero | .nonNumeric _ | .overflow | .invalidAddress _ | .inputExhausted
  | .consoleFailure _ => true
  | .undefinedLabel _ | .illegalInstruction _ | .missingOperand _ | .addressOutOfRange _ => false

/-- The address of the cell that the action writes, where 0 stands for the console. -/
def Action.target? : Action → Option Nat
  | .store target | .call target => some target
  | .combine _ _ | .adjust _ | .assign _ | .load _ | .jump _ | .jumpThrough _ | .skip => none

def Arithmetic.opcode : Arithmetic → Opcode
  | .add => .add
  | .sub => .sub
  | .mlt => .mlt
  | .div => .div

def Adjustment.opcode : Adjustment → Opcode
  | .neg => .neg
  | .inc => .inc
  | .dec => .dec

/-- The condition of `brp`. -/
def Word.isPositive (word : Word) : Bool := word.integer?.any fun n => 0 < n.toInt

/-- The condition of `brz`. -/
def Word.isZero (word : Word) : Bool := word.integer?.any fun n => n.toInt = 0

/-- What an instruction is decoded to, operation by operation. -/
inductive Instruction.Decodes (symbols : SymbolTable) (acc : Word) (code : Instruction) :
    Action → Prop
  | combine {op : Arithmetic} {source : Nat} (opcode : code.opcode = op.opcode)
      (resolved : code.resolve symbols = .ok source) : Decodes symbols acc code (.combine op source)
  | adjust {op : Adjustment} (opcode : code.opcode = op.opcode) :
      Decodes symbols acc code (.adjust op)
  | set {word : Word} (opcode : code.opcode = .set) (found : code.immediate = .ok word) :
      Decodes symbols acc code (.assign word)
  | lda {source : Nat} (opcode : code.opcode = .lda)
      (resolved : code.resolve symbols = .ok source) : Decodes symbols acc code (.load source)
  | sta {target : Nat} (opcode : code.opcode = .sta)
      (resolved : code.resolve symbols = .ok target) : Decodes symbols acc code (.store target)
  | br {target : Nat} (opcode : code.opcode = .br)
      (resolved : code.resolve symbols = .ok target) : Decodes symbols acc code (.jump target)
  | brp {target : Nat} (opcode : code.opcode = .brp) (taken : acc.isPositive = true)
      (resolved : code.resolve symbols = .ok target) : Decodes symbols acc code (.jump target)
  | brpSkip (opcode : code.opcode = .brp) (untaken : acc.isPositive = false) :
      Decodes symbols acc code .skip
  | brz {target : Nat} (opcode : code.opcode = .brz) (taken : acc.isZero = true)
      (resolved : code.resolve symbols = .ok target) : Decodes symbols acc code (.jump target)
  | brzSkip (opcode : code.opcode = .brz) (untaken : acc.isZero = false) :
      Decodes symbols acc code .skip
  | bri {cell : Nat} (opcode : code.opcode = .bri)
      (resolved : code.resolve symbols = .ok cell) : Decodes symbols acc code (.jumpThrough cell)
  | brs {target : Nat} (opcode : code.opcode = .brs)
      (resolved : code.resolve symbols = .ok target) : Decodes symbols acc code (.call target)
  | hlt (opcode : code.opcode = .hlt) : Decodes symbols acc code (.jump 0)
  | noop (opcode : code.opcode = .noop) : Decodes symbols acc code .skip

/-- What an action can fail over, given what its call was answered. -/
inductive Action.FailsOver (machine : Machine) (answer : Option Answer) (action : Action) :
    Cause → Prop
  | quotient : FailsOver machine answer action .divisionByZero
  | result : FailsOver machine answer action .overflow
  | destination (value : Int) : FailsOver machine answer action (.invalidAddress value)
  | accumulator : FailsOver machine answer action (.nonNumeric machine.registers.acc)
  | operand {source : Nat} {word : Word}
      (received : Answer.word machine.memory source answer = .ok word) :
      FailsOver machine answer action (.nonNumeric word)
  | cell (address : Nat) : FailsOver machine answer action (.nonNumeric (machine.memory.get address))
  | exhausted : FailsOver machine answer action .inputExhausted
  | unread {message : String} (answered : answer = some (.read (.error message))) :
      FailsOver machine answer action (.consoleFailure message)
  | unwritten {message : String} (answered : answer = some (.written (.error message))) :
      FailsOver machine answer action (.consoleFailure message)
  | refused {target : Nat} {cause : Cause} (writes : action.target? = some target)
      (refused : Memory.refusal? target = some cause) : FailsOver machine answer action cause

theorem Effect.finish_cause? {κ : Type} (effect : Effect κ) (address : Nat) :
    (effect.finish address).outcome.cause? = effect.failure := by
  cases failure : effect.failure with
  | none =>
    rw [finish_of_success failure]
    dsimp only
    split <;> rfl
  | some cause => rw [finish_of_failure failure, Outcome.cause?]

/-! ### Operands -/

theorem exists_of_map_eq_ok {ε α β : Type} {f : α → β} {result : Except ε α} {image : β}
    (found : result.map f = .ok image) : ∃ value, result = .ok value ∧ f value = image := by
  cases result with
  | error cause => cases found
  | ok value => exact ⟨value, rfl, Except.ok.inj found⟩

theorem map_eq_error_iff {ε α β : Type} {f : α → β} {result : Except ε α} {error : ε} :
    result.map f = .error error ↔ result = .error error := by
  cases result <;> simp [Except.map]

theorem bind_eq_error {ε α β : Type} {f : α → Except ε β} {result : Except ε α} {error : ε}
    (failed : result.bind f = .error error) :
    result = .error error ∨ ∃ value, result = .ok value ∧ f value = .error error := by
  cases result with
  | error other =>
    cases failed
    exact .inl rfl
  | ok value => exact .inr ⟨value, rfl, failed⟩

theorem Arithmetic.exact_error {op : Arithmetic} {a b : Int} {cause : Cause}
    (failed : op.exact a b = .error cause) : cause = .divisionByZero := by
  cases op with
  | div =>
    simp only [exact] at failed
    split at failed
    · exact (Except.error.inj failed).symm
    · cases failed
  | add | sub | mlt => cases failed

theorem narrow_error {n : Int} {cause : Cause} (failed : narrow n = .error cause) :
    cause = .overflow := by
  unfold narrow at failed
  split at failed
  · cases failed
  · exact (Except.error.inj failed).symm

namespace Instruction

variable {symbols : SymbolTable} {code : Instruction} {cause : Cause}

theorem resolve_ok {address : Nat} (resolved : code.resolve symbols = .ok address) :
    code.operand = some (.literal address) ∨
      ∃ name, code.operand = some (.label name) ∧ symbols.get? name = some address := by
  unfold resolve at resolved
  split at resolved
  next => cases resolved
  next operand =>
    cases resolved
    exact .inl operand
  next => cases resolved
  next name operand =>
    split at resolved
    next found =>
      cases resolved
      exact .inr ⟨name, operand, found⟩
    next => cases resolved

theorem resolve_error (refused : code.resolve symbols = .error cause) :
    (code.operand = none ∧ cause = .missingOperand code.opcode) ∨
      (∃ digits, code.operand = some (.outOfRange digits) ∧ cause = .addressOutOfRange digits) ∨
      ∃ name, code.operand = some (.label name) ∧ symbols.get? name = none ∧
        cause = .undefinedLabel name := by
  unfold resolve at refused
  split at refused
  next operand => exact .inl ⟨operand, (Except.error.inj refused).symm⟩
  next => cases refused
  next digits operand => exact .inr (.inl ⟨digits, operand, (Except.error.inj refused).symm⟩)
  next name operand =>
    split at refused
    next => cases refused
    next missing => exact .inr (.inr ⟨name, operand, missing, (Except.error.inj refused).symm⟩)

theorem immediate_error (refused : code.immediate = .error cause) :
    cause = .missingOperand code.opcode ∨ cause = .overflow := by
  unfold immediate at refused
  split at refused
  next => exact .inl (Except.error.inj refused).symm
  next => exact .inr (narrow_error (map_eq_error_iff.mp refused))
  next => cases refused
  next => exact .inr (Except.error.inj refused).symm

/-- Only `set` takes its operand for a word; all others take it for an address. -/
theorem decode_error {acc : Word} (refused : code.decode symbols acc = .error cause) :
    code.resolve symbols = .error cause ∨ code.immediate = .error cause := by
  obtain ⟨opcode, operand⟩ := code
  cases opcode with
  | set => exact .inr (map_eq_error_iff.mp refused)
  | brp | brz =>
    simp only [decode, branchIf] at refused
    split at refused
    · exact .inl (map_eq_error_iff.mp refused)
    · cases refused
  | neg | inc | dec | hlt | noop => cases refused
  | add | sub | mlt | div | lda | sta | br | bri | brs => exact .inl (map_eq_error_iff.mp refused)

theorem decode_eq_ok_iff {acc : Word} {action : Action} :
    code.decode symbols acc = .ok action ↔ code.Decodes symbols acc action := by
  constructor
  · intro decoded
    obtain ⟨opcode, operand⟩ := code
    cases opcode with
    | add | sub | mlt | div =>
      obtain ⟨address, resolved, rfl⟩ := exists_of_map_eq_ok decoded
      exact .combine rfl resolved
    | neg | inc | dec =>
      cases decoded
      exact .adjust rfl
    | set =>
      obtain ⟨word, found, rfl⟩ := exists_of_map_eq_ok decoded
      exact .set rfl found
    | lda =>
      obtain ⟨address, resolved, rfl⟩ := exists_of_map_eq_ok decoded
      exact .lda rfl resolved
    | sta =>
      obtain ⟨address, resolved, rfl⟩ := exists_of_map_eq_ok decoded
      exact .sta rfl resolved
    | br =>
      obtain ⟨address, resolved, rfl⟩ := exists_of_map_eq_ok decoded
      exact .br rfl resolved
    | brp =>
      simp only [decode, branchIf] at decoded
      split at decoded
      next taken =>
        obtain ⟨address, resolved, rfl⟩ := exists_of_map_eq_ok decoded
        exact .brp rfl taken resolved
      next untaken =>
        cases decoded
        exact .brpSkip rfl (Bool.eq_false_iff.mpr untaken)
    | brz =>
      simp only [decode, branchIf] at decoded
      split at decoded
      next taken =>
        obtain ⟨address, resolved, rfl⟩ := exists_of_map_eq_ok decoded
        exact .brz rfl taken resolved
      next untaken =>
        cases decoded
        exact .brzSkip rfl (Bool.eq_false_iff.mpr untaken)
    | bri =>
      obtain ⟨address, resolved, rfl⟩ := exists_of_map_eq_ok decoded
      exact .bri rfl resolved
    | brs =>
      obtain ⟨address, resolved, rfl⟩ := exists_of_map_eq_ok decoded
      exact .brs rfl resolved
    | hlt =>
      cases decoded
      exact .hlt rfl
    | noop =>
      cases decoded
      exact .noop rfl
  · intro decodes
    cases decodes with
    | @combine op source opcode resolved =>
      cases op <;> simp [decode, opcode, Arithmetic.opcode, resolved, Except.map]
    | @adjust op opcode => cases op <;> simp [decode, opcode, Adjustment.opcode]
    | set opcode found => simp [decode, opcode, found, Except.map]
    | lda opcode resolved | sta opcode resolved | br opcode resolved | bri opcode resolved
    | brs opcode resolved => simp [decode, opcode, resolved, Except.map]
    | brp opcode taken resolved =>
      rw [Word.isPositive] at taken
      simp [decode, branchIf, opcode, taken, resolved, Except.map]
    | brpSkip opcode untaken =>
      rw [Word.isPositive] at untaken
      simp [decode, branchIf, opcode, untaken]
    | brz opcode taken resolved =>
      rw [Word.isZero] at taken
      simp [decode, branchIf, opcode, taken, resolved, Except.map]
    | brzSkip opcode untaken =>
      rw [Word.isZero] at untaken
      simp [decode, branchIf, opcode, untaken]
    | hlt opcode | noop opcode => simp [decode, opcode]

/-- Two operations write, and they do so to what their operand stands for. -/
theorem writer_of_target {acc : Word} {action : Action} {target : Nat}
    (decoded : code.decode symbols acc = .ok action) (writes : action.target? = some target) :
    (code.opcode = .sta ∨ code.opcode = .brs) ∧ code.resolve symbols = .ok target := by
  cases decode_eq_ok_iff.mp decoded with
  | sta opcode resolved =>
    cases writes
    exact ⟨.inl opcode, resolved⟩
  | brs opcode resolved =>
    cases writes
    exact ⟨.inr opcode, resolved⟩
  | combine | adjust | set | lda | br | brp | brpSkip | brz | brzSkip | bri | hlt | noop =>
    cases writes

theorem resolve_of_target {acc : Word} {action : Action} {target : Nat}
    (decoded : code.decode symbols acc = .ok action) (writes : action.target? = some target) :
    code.resolve symbols = .ok target :=
  (writer_of_target decoded writes).2

end Instruction

/-! ### Actions -/

namespace Registers

theorem accept_cause {registers : Registers} {result : Except Cause Integer} {cause : Cause}
    (failed : (registers.accept result).2 = some cause) : result = .error cause := by
  cases result with
  | ok value => cases failed
  | error other =>
    cases failed
    rfl

theorem adjust_cause {registers : Registers} {op : Adjustment} {cause : Cause}
    (failed : (registers.adjust op).2 = some cause) :
    cause = .nonNumeric registers.acc ∨ cause = .overflow := by
  unfold adjust at failed
  split at failed
  · cases failed
    exact .inl rfl
  · exact .inr (narrow_error (accept_cause failed))

theorem goTo_cause {registers : Registers} {word : Word} {cause : Cause}
    (failed : (registers.goTo word).2 = some cause) :
    cause = .nonNumeric word ∨ ∃ value, cause = .invalidAddress value := by
  unfold goTo at failed
  split at failed
  · cases failed
    exact .inl rfl
  · split at failed
    · cases failed
      exact .inr ⟨_, rfl⟩
    · cases failed

theorem combine_cause {registers : Registers} {op : Arithmetic} {word : Word} {cause : Cause}
    (failed : (registers.combine op word).2 = some cause) :
    cause = .nonNumeric word ∨ cause = .nonNumeric registers.acc ∨ cause = .divisionByZero ∨
      cause = .overflow := by
  unfold combine at failed
  split at failed
  · cases failed
    exact .inl rfl
  · dsimp only at failed
    split at failed
    · cases failed
      exact .inr (.inl rfl)
    · -- Either there is no exact result, or it is no machine integer.
      rcases bind_eq_error (accept_cause failed) with inexact | ⟨result, -, large⟩
      · exact .inr (.inr (.inl (Arithmetic.exact_error inexact)))
      · exact .inr (.inr (.inr (narrow_error large)))

end Registers

theorem Answer.word_cause {memory : Memory} {source : Nat} {answer : Option Answer} {cause : Cause}
    (failed : Answer.word memory source answer = .error cause) :
    cause = .inputExhausted ∨
      ∃ message, answer = some (.read (.error message)) ∧ cause = .consoleFailure message := by
  unfold Answer.word at failed
  split at failed
  next => cases failed
  next =>
    cases failed
    exact .inl rfl
  next message =>
    cases failed
    exact .inr ⟨message, rfl, rfl⟩
  all_goals cases failed

theorem Answer.refusal?_cause {answer : Option Answer} {cause : Cause}
    (failed : Answer.refusal? answer = some cause) :
    ∃ message, answer = some (.written (.error message)) ∧ cause = .consoleFailure message := by
  unfold Answer.refusal? at failed
  split at failed
  next message =>
    cases failed
    exact ⟨message, rfl, rfl⟩
  all_goals cases failed

namespace Machine

variable {κ : Type}

theorem enter_cause {machine : Machine} {console : κ} {target : Nat} {cause : Cause}
    (failed : (machine.enter console target).failure = some cause) :
    cause = .invalidAddress 0 ∨ cause = .overflow ∨ Memory.refusal? target = some cause := by
  unfold enter at failed
  split at failed
  · cases failed
    exact .inl rfl
  · split at failed
    next narrowed =>
      cases failed
      exact .inr (.inl (narrow_error narrowed))
    next refused =>
      cases failed
      exact .inr (.inr refused)
    next => cases failed

variable [Console κ]

/-- An action that asks for a word fails as its call did. -/
theorem failsOver_of_unreceived {machine : Machine} {console : κ} {action : Action} {source : Nat}
    {cause : Cause} (call : action.call? machine.registers.acc = Call.toRead source)
    (unreceived : Answer.word machine.memory source
      (Console.answer? console (Call.toRead source)) = .error cause) :
    action.FailsOver machine (Console.answer? console (action.call? machine.registers.acc))
      cause := by
  rw [call]
  rcases Answer.word_cause unreceived with rfl | ⟨message, answered, rfl⟩
  · exact .exhausted
  · exact .unread answered

theorem send_cause {machine : Machine} {console : κ} {target : Nat} {cause : Cause}
    (failed : (machine.send console target).failure = some cause) :
    (∃ message, Console.answer? console ((Action.store target).call? machine.registers.acc) =
        some (.written (.error message)) ∧ cause = .consoleFailure message) ∨
      Memory.refusal? target = some cause := by
  by_cases console_cell : target = 0
  · subst console_cell
    rw [send_zero] at failed
    exact .inl (Answer.refusal?_cause failed)
  · rw [send_of_ne_zero _ _ console_cell] at failed
    split at failed
    next refused =>
      cases failed
      exact .inr refused
    next => cases failed

theorem perform_failsOver {machine : Machine} {console : κ} {action : Action} {cause : Cause}
    (failed : (machine.perform console action).failure = some cause) :
    action.FailsOver machine (Console.answer? console (action.call? machine.registers.acc))
      cause := by
  cases action with
  | combine op source =>
    simp only [perform, receive_eq] at failed
    split at failed
    next unreceived =>
      cases failed
      exact failsOver_of_unreceived rfl unreceived
    next received =>
      -- The operand is at hand, so it, the accumulator or their result is to blame.
      rcases Registers.combine_cause failed with rfl | rfl | rfl | rfl
      · exact .operand received
      · exact .accumulator
      · exact .quotient
      · exact .result
  | load source =>
    simp only [perform, receive_eq] at failed
    split at failed
    next unreceived =>
      cases failed
      exact failsOver_of_unreceived rfl unreceived
    next => cases failed
  | adjust op =>
    rcases Registers.adjust_cause failed with rfl | rfl
    · exact .accumulator
    · exact .result
  | jumpThrough cell =>
    rcases Registers.goTo_cause failed with rfl | ⟨value, rfl⟩
    · exact .cell cell
    · exact .destination value
  | store target =>
    rcases send_cause failed with ⟨message, answered, rfl⟩ | refused
    · exact .unwritten answered
    · exact .refused rfl refused
  | call target =>
    rcases enter_cause failed with rfl | rfl | refused
    · exact .destination 0
    · exact .result
    · exact .refused rfl refused
  | assign | jump | skip => cases failed

/-- No action fails over a name or over the digits of its operand. -/
theorem perform_cause {machine : Machine} {console : κ} {action : Action} {cause : Cause}
    (failed : (machine.perform console action).failure = some cause) :
    cause.concernsData = true ∨
      ∃ target, action.target? = some target ∧ Memory.refusal? target = some cause := by
  cases perform_failsOver failed with
  | refused writes refused => exact .inr ⟨_, writes, refused⟩
  | quotient | result | destination | accumulator | operand | cell | exhausted | unread
  | unwritten => exact .inl rfl

/-! ### Cycles -/

theorem action?_eq_ok_iff {machine : Machine} {action : Action} :
    machine.action? = .ok action ↔
      ∃ code, machine.memory.get machine.registers.pc = .instruction code ∧
        code.decode machine.symbols machine.registers.acc = .ok action := by
  unfold action?
  split
  next code found => simp [found]
  next word other =>
    constructor
    · nofun
    · rintro ⟨code, found, -⟩
      exact absurd found (other code)

theorem action?_eq_error {machine : Machine} {cause : Cause}
    (refused : machine.action? = .error cause) :
    cause = .illegalInstruction (machine.memory.get machine.registers.pc) ∨
      ∃ code, machine.memory.get machine.registers.pc = .instruction code ∧
        code.decode machine.symbols machine.registers.acc = .error cause := by
  unfold action? at refused
  split at refused
  next code found => exact .inr ⟨code, found, refused⟩
  next => exact .inl (Except.error.inj refused).symm

theorem action?_of_found {machine : Machine} {code : Instruction}
    (found : machine.memory.get machine.registers.pc = .instruction code) :
    machine.action? = code.decode machine.symbols machine.registers.acc := by
  rw [action?, found]

theorem cause?_step_iff {machine : Machine} {console : κ} {cause : Cause}
    (running : machine.isHalted = false) :
    (machine.step console).outcome.cause? = some cause ↔
      machine.action? = .error cause ∨
        ∃ action, machine.action? = .ok action ∧
          (machine.fetch.advance.perform console action).failure = some cause := by
  cases decision : machine.action? with
  | error other => simp [step_of_error running decision, Outcome.cause?]
  | ok action => simp [step_of_action running decision, Effect.finish_cause?]

theorem step_cause {machine : Machine} {console : κ} {cause : Cause}
    (faulted : (machine.step console).outcome.cause? = some cause) :
    machine.action? = .error cause ∨
      ∃ action, machine.action? = .ok action ∧
        (machine.fetch.advance.perform console action).failure = some cause := by
  cases state : machine.isHalted with
  | true =>
    rw [step_of_halted state] at faulted
    cases faulted
  | false => exact (cause?_step_iff state).mp faulted

end Machine

end Accumulator
