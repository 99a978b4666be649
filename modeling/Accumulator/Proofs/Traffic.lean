import Accumulator.Machine.Run

/-!
# What passes between a machine and its console

A cycle makes at most one call on its console, and the machine alone decides which
(`Machine.call?`). The console is afterwards what this call left of it (`step_console`), and the
answer to it is all that the machine learns: consoles of any two types that answer the call alike
give the same cycle (`step_congr`). So a run goes the same way on a console as on any view of it
that answers as it does (`continueFor_view`).
-/
namespace Accumulator

/-- A call on a console. -/
inductive Call where
  | read
  | write (text : String)
  deriving DecidableEq, Repr

inductive Answer where
  | read (line : Except String (Option String))
  | written (done : Except String Unit)

/-- The line that an answer brings, if it brings one. -/
def Answer.heard : Option Answer → Option String
  | some (.read (.ok line)) => line
  | some (.read (.error _)) | some (.written _) | none => none

/-- The word that an answer brings; without a call it is the one in memory. -/
def Answer.word (memory : Memory) (source : Nat) : Option Answer → Except Cause Word
  | some (.read (.ok (some line))) => .ok (.text line)
  | some (.read (.ok none)) => .error .inputExhausted
  | some (.read (.error message)) => .error (.consoleFailure message)
  | some (.written _) | none => .ok (memory.get source)

/-- Why a write failed, if it did. -/
def Answer.refusal? : Option Answer → Option Cause
  | some (.written (.error message)) => some (.consoleFailure message)
  | some (.written (.ok _)) | some (.read _) | none => none

variable {κ μ : Type}

/-- The effect without the console. -/
def Effect.inner (effect : Effect κ) : Effect Unit :=
  { machine := effect.machine, console := (), heard := effect.heard, failure := effect.failure }

/-- The cycle without the console. -/
def Cycle.inner (cycle : Cycle κ) : Cycle Unit :=
  { machine := cycle.machine, console := (), heard := cycle.heard, outcome := cycle.outcome }

theorem Cycle.eq_of_inner_eq {left : Cycle κ} {right : Cycle μ} (same : left.inner = right.inner) :
    left.machine = right.machine ∧ left.heard = right.heard ∧ left.outcome = right.outcome := by
  simp only [inner, Cycle.mk.injEq, true_and] at same
  exact same

theorem Effect.finish_of_success {effect : Effect κ} (done : effect.failure = none) (address : Nat) :
    effect.finish address =
      { machine := effect.machine
        console := effect.console
        heard := effect.heard
        outcome := if effect.machine.isHalted then .halted else .continued } := by
  rw [finish, done]

theorem Effect.finish_of_failure {effect : Effect κ} {cause : Cause}
    (failed : effect.failure = some cause) (address : Nat) :
    effect.finish address =
      { machine :=
          { effect.machine with registers := { effect.machine.registers with pc := 0 } }
        console := effect.console
        heard := effect.heard
        outcome := .faulted ⟨address, effect.machine.registers.ir, cause⟩ } := by
  rw [finish, failed]

theorem Effect.finish_inner (effect : Effect κ) (address : Nat) :
    (effect.finish address).inner = effect.inner.finish address := by
  unfold finish
  cases failure : effect.failure <;> simp [inner, Cycle.inner, failure]

theorem Effect.finish_console (effect : Effect κ) (address : Nat) :
    (effect.finish address).console = effect.console := by
  unfold finish
  split <;> rfl

theorem Effect.finish_heard (effect : Effect κ) (address : Nat) :
    (effect.finish address).heard = effect.heard := by
  unfold finish
  split <;> rfl

namespace Machine

theorem enter_silent (machine : Machine) (console : κ) (target : Nat) :
    (machine.enter console target).console = console ∧
      (machine.enter console target).heard = none := by
  unfold enter
  split
  · exact ⟨rfl, rfl⟩
  · split <;> exact ⟨rfl, rfl⟩

end Machine

variable [Console κ] [Console μ]

namespace Console

def answer? (console : κ) : Option Call → Option Answer
  | none => none
  | some .read => some (.read (readLine console).1)
  | some (.write text) => some (.written (writeLine console text).1)

/-- What a call, if any, leaves of a console. -/
def after (console : κ) : Option Call → κ
  | none => console
  | some .read => (readLine console).2
  | some (.write text) => (writeLine console text).2

end Console

/-- The call that asking for the word at an address makes. -/
def Call.toRead (source : Nat) : Option Call := if source = 0 then some .read else none

def Action.call? (acc : Word) : Action → Option Call
  | .combine _ source | .load source => Call.toRead source
  | .store target => if target = 0 then some (.write acc.render) else none
  | .adjust _ | .assign _ | .jump _ | .jumpThrough _ | .call _ | .skip => none

theorem Action.call?_eq_write_iff {action : Action} {acc : Word} {text : String} :
    action.call? acc = some (.write text) ↔ action = .store 0 ∧ acc.render = text := by
  cases action <;> simp [call?, Call.toRead]

namespace Machine

/-- What the next cycle is to do. -/
def action? (machine : Machine) : Except Cause Action :=
  match machine.memory.get machine.registers.pc with
  | .instruction code => code.decode machine.symbols machine.registers.acc
  | word => .error (.illegalInstruction word)

/-- The call that the next cycle makes. -/
def call? (machine : Machine) : Option Call :=
  if machine.isHalted then none
  else
    match machine.action? with
    | .ok action => action.call? machine.registers.acc
    | .error _ => none

end Machine

/-! ### What a cycle is -/

namespace Machine

theorem step_of_halted {machine : Machine} (halted : machine.isHalted = true) (console : κ) :
    machine.step console = { machine, console, heard := none, outcome := .halted } := by
  rw [step, if_pos halted]

theorem step_of_error {machine : Machine} {cause : Cause} (running : machine.isHalted = false)
    (refused : machine.action? = .error cause) (console : κ) :
    machine.step console =
      { machine := { machine.fetch with registers := { machine.fetch.registers with pc := 0 } }
        console
        heard := none
        outcome := .faulted
          ⟨machine.registers.pc, machine.memory.get machine.registers.pc, cause⟩ } := by
  rw [step, if_neg (by simp [running])]
  have fetched : machine.fetch.registers.ir = machine.memory.get machine.registers.pc := rfl
  unfold action? at refused
  split at refused
  next code found =>
    -- Fetching and advancing change neither the labels nor the accumulator.
    have decoded : code.decode machine.fetch.advance.symbols machine.fetch.advance.registers.acc =
      .error cause := refused
    simp only [execute, fetched, found, decoded]
    simp [Effect.finish, advance, fetched, found]
  next word found =>
    simp only [Except.error.injEq] at refused
    simp [execute, fetched, Effect.finish, refused]

theorem step_of_action {machine : Machine} {action : Action} (running : machine.isHalted = false)
    (decided : machine.action? = .ok action) (console : κ) :
    machine.step console =
      (machine.fetch.advance.perform console action).finish machine.registers.pc := by
  rw [step, if_neg (by simp [running])]
  have fetched : machine.fetch.registers.ir = machine.memory.get machine.registers.pc := rfl
  unfold action? at decided
  split at decided
  next code found =>
    have decoded : code.decode machine.fetch.advance.symbols machine.fetch.advance.registers.acc =
      .ok action := decided
    simp only [execute, fetched, found, decoded]
  next word found => cases decided

/-- A cycle finds the machine halted, refuses what it fetched, or performs an action. -/
theorem step_cases (machine : Machine) (console : κ) :
    (machine.isHalted = true ∧
        machine.step console = { machine, console, heard := none, outcome := .halted }) ∨
      (∃ cause, machine.isHalted = false ∧ machine.action? = .error cause ∧
        machine.step console =
          { machine := { machine.fetch with registers := { machine.fetch.registers with pc := 0 } }
            console
            heard := none
            outcome := .faulted
              ⟨machine.registers.pc, machine.memory.get machine.registers.pc, cause⟩ }) ∨
      ∃ action, machine.isHalted = false ∧ machine.action? = .ok action ∧
        machine.step console =
          (machine.fetch.advance.perform console action).finish machine.registers.pc := by
  cases state : machine.isHalted with
  | true => exact .inl ⟨rfl, step_of_halted state console⟩
  | false =>
    cases decision : machine.action? with
    | error cause => exact .inr (.inl ⟨cause, rfl, rfl, step_of_error state decision console⟩)
    | ok action => exact .inr (.inr ⟨action, rfl, rfl, step_of_action state decision console⟩)

end Machine

/-! ### The console after a cycle -/

theorem receive_eq (memory : Memory) (console : κ) (source : Nat) :
    receive memory console source =
      { word := Answer.word memory source (Console.answer? console (Call.toRead source))
        console := Console.after console (Call.toRead source)
        heard := Answer.heard (Console.answer? console (Call.toRead source)) } := by
  unfold receive Call.toRead
  split
  · simp only [Console.answer?, Console.after]
    split
    next answered => simp [answered, Answer.word, Answer.heard]
    next answered => simp [answered, Answer.word, Answer.heard]
    next answered => simp [answered, Answer.word, Answer.heard]
  · rfl

namespace Machine

theorem send_zero (machine : Machine) (console : κ) :
    machine.send console 0 =
      { machine
        console := Console.after console (some (.write machine.registers.acc.render))
        failure := Answer.refusal?
          (Console.answer? console (some (.write machine.registers.acc.render))) } := by
  simp only [send, if_true, Console.after, Console.answer?]
  split
  next answered => simp [answered, Answer.refusal?]
  next answered => simp [answered, Answer.refusal?]

theorem send_of_ne_zero (machine : Machine) (console : κ) {target : Nat} (inside : target ≠ 0) :
    machine.send console target =
      match Memory.refusal? target with
      | some cause => { machine, console, failure := some cause }
      | none =>
        { machine := { machine with memory := machine.memory.put target machine.registers.acc }
          console } := by
  unfold send
  exact if_neg inside

/-- An action leaves the console as its call does and hears what the call brings. -/
theorem perform_traffic (machine : Machine) (console : κ) (action : Action) :
    (machine.perform console action).console =
        Console.after console (action.call? machine.registers.acc) ∧
      (machine.perform console action).heard =
        Answer.heard (Console.answer? console (action.call? machine.registers.acc)) := by
  cases action with
  | combine op source =>
    simp only [perform, receive_eq]
    split <;> exact ⟨rfl, rfl⟩
  | load source =>
    simp only [perform, receive_eq]
    split <;> exact ⟨rfl, rfl⟩
  | store target =>
    by_cases console_cell : target = 0
    · subst console_cell
      rw [perform, send_zero]
      exact ⟨rfl, rfl⟩
    · simp only [perform, send_of_ne_zero _ _ console_cell, Action.call?, if_neg console_cell]
      split <;> exact ⟨rfl, rfl⟩
  | call target => exact enter_silent machine console target
  | adjust | assign | jump | jumpThrough | skip => exact ⟨rfl, rfl⟩

theorem perform_congr (machine : Machine) (action : Action) {console : κ} {other : μ}
    (alike : Console.answer? console (action.call? machine.registers.acc) =
      Console.answer? other (action.call? machine.registers.acc)) :
    (machine.perform console action).inner = (machine.perform other action).inner := by
  cases action with
  | combine op source =>
    simp only [Action.call?] at alike
    simp only [perform, receive_eq, alike]
    split <;> rfl
  | load source =>
    simp only [Action.call?] at alike
    simp only [perform, receive_eq, alike]
    split <;> rfl
  | store target =>
    -- Only the answer to the write decides between success and failure.
    by_cases console_cell : target = 0
    · subst console_cell
      have answered : Console.answer? console (some (.write machine.registers.acc.render)) =
        Console.answer? other (some (.write machine.registers.acc.render)) := alike
      simp only [perform, send_zero, Effect.inner]
      simp only [aim, answered]
    · simp only [perform, send_of_ne_zero _ _ console_cell]
      split <;> rfl
  | call target =>
    simp only [perform, enter]
    split
    · rfl
    · split <;> rfl
  | adjust | assign | jump | jumpThrough | skip => rfl

/-! ### The calls of a cycle -/

theorem call?_of_action {machine : Machine} {action : Action} (running : machine.isHalted = false)
    (decided : machine.action? = .ok action) :
    machine.call? = action.call? machine.registers.acc := by
  simp [call?, running, decided]

theorem call?_of_error {machine : Machine} {cause : Cause}
    (refused : machine.action? = .error cause) : machine.call? = none := by
  simp [call?, refused]

theorem call?_of_halted {machine : Machine} (halted : machine.isHalted = true) :
    machine.call? = none := by
  simp [call?, halted]

theorem step_console (machine : Machine) (console : κ) :
    (machine.step console).console = Console.after console machine.call? := by
  cases state : machine.isHalted with
  | true => rw [step_of_halted state, call?_of_halted state, Console.after]
  | false =>
    cases decision : machine.action? with
    | error cause => rw [step_of_error state decision, call?_of_error decision, Console.after]
    | ok action =>
      rw [step_of_action state decision, call?_of_action state decision, Effect.finish_console,
        (perform_traffic _ _ _).1]
      rfl

theorem step_heard (machine : Machine) (console : κ) :
    (machine.step console).heard = Answer.heard (Console.answer? console machine.call?) := by
  cases state : machine.isHalted with
  | true => rw [step_of_halted state, call?_of_halted state]; rfl
  | false =>
    cases decision : machine.action? with
    | error cause => rw [step_of_error state decision, call?_of_error decision]; rfl
    | ok action =>
      rw [step_of_action state decision, call?_of_action state decision, Effect.finish_heard,
        (perform_traffic _ _ _).2]
      rfl

theorem step_congr (machine : Machine) {console : κ} {other : μ}
    (alike : Console.answer? console machine.call? = Console.answer? other machine.call?) :
    (machine.step console).inner = (machine.step other).inner := by
  cases state : machine.isHalted with
  | true => rw [step_of_halted state, step_of_halted state]; rfl
  | false =>
    cases decision : machine.action? with
    | error cause => rw [step_of_error state decision, step_of_error state decision]; rfl
    | ok action =>
      rw [call?_of_action state decision] at alike
      rw [step_of_action state decision, step_of_action state decision, Effect.finish_inner,
        Effect.finish_inner, perform_congr machine.fetch.advance action alike]

end Machine

/-! ### Consoles around consoles -/

/-- The cycle with what a function makes of its console. -/
def Cycle.map (view : κ → μ) (cycle : Cycle κ) : Cycle μ :=
  { machine := cycle.machine
    console := view cycle.console
    heard := cycle.heard
    outcome := cycle.outcome }

/-- The run with what a function makes of its console. -/
def Run.map (view : κ → μ) (run : Run κ) : Run μ :=
  { machine := run.machine, console := view run.console, ending := run.ending }

/-- Does a console give every answer that its view gives, and is what a call leaves of it seen as
what the call leaves of the view? -/
structure Console.IsView (view : κ → μ) : Prop where
  answer : ∀ console call, answer? (view console) call = answer? console call
  after : ∀ console call, after (view console) call = view (after console call)

namespace Machine

theorem step_view {view : κ → μ} (faithful : Console.IsView view) (machine : Machine)
    (console : κ) : machine.step (view console) = (machine.step console).map view := by
  have same := step_congr machine (faithful.answer console machine.call?)
  obtain ⟨cycle, heard, outcome⟩ := Cycle.eq_of_inner_eq same
  have left : (machine.step (view console)).console = view (machine.step console).console := by
    rw [step_console, step_console, faithful.after]
  rw [Cycle.map, ← cycle, ← heard, ← outcome, ← left]

/-- A machine cannot tell a console from its view. -/
theorem continueFor_view {view : κ → μ} (faithful : Console.IsView view) (limit : Nat)
    (machine : Machine) (console : κ) (done : Nat) :
    machine.continueFor limit (view console) done =
      (machine.continueFor limit console done).map view := by
  induction limit generalizing machine console done with
  | zero => rfl
  | succ limit ih =>
    simp only [continueFor, step_view faithful, Cycle.map]
    split
    · exact ih _ _ _
    · rfl
    · rfl

end Machine

end Accumulator
