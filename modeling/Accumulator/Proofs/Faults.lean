import Accumulator.Console.Interrupted
import Accumulator.Console.Script
import Accumulator.Proofs.Traffic

/-!
# What a fault leaves behind

Nothing is rolled back when a cycle faults. That memory, labels, accumulator and output are still
as they were is a matter of order: every action does all that can fail before its first lasting
change (`perform_failed`), and a call on the console can only have been a read or a write that
failed (`perform_failed_write`). Main statement: `step_faulted`.
-/
namespace Accumulator

/-- The input that a console has left and the output it has made. Only a write that succeeds makes
output, and a call that fails or finds the input at its end uses up none. -/
structure Console.Account (κ ι ο : Type) [Console κ] where
  unread : κ → ι
  output : κ → ο
  output_read : ∀ console, output (Console.readLine console).2 = output console
  unread_unanswered : ∀ console, (∀ line, (Console.readLine console).1 ≠ .ok (some line)) →
    unread (Console.readLine console).2 = unread console
  failed_write : ∀ console text message, (Console.writeLine console text).1 = .error message →
    unread (Console.writeLine console text).2 = unread console ∧
      output (Console.writeLine console text).2 = output console

def Script.account : Console.Account Script (List String) (Array String) where
  unread := Script.input
  output := Script.output
  output_read := by rintro ⟨_ | _, _⟩ <;> rfl
  unread_unanswered := by
    rintro ⟨_ | ⟨line, rest⟩, output⟩ silent
    · rfl
    · exact absurd rfl (silent line)
  failed_write := by
    intro _ _ _ failed
    cases failed

/-- An interrupted console accounts for what the console inside does. -/
def Interrupted.account {κ ι ο : Type} [Console κ] (account : Console.Account κ ι ο) :
    Console.Account (Interrupted κ) ι ο where
  unread console := account.unread console.inside
  output console := account.output console.inside
  output_read := by
    intro console
    simp only [Console.readLine]
    split
    · rfl
    · exact account.output_read console.inside
  unread_unanswered := by
    intro console
    simp only [Console.readLine]
    split
    · intro _
      rfl
    · exact account.unread_unanswered console.inside
  failed_write := by
    intro console text message
    simp only [Console.writeLine]
    split
    · intro _
      exact ⟨rfl, rfl⟩
    · exact account.failed_write console.inside text message

/-! ### Failing actions -/

namespace Registers

theorem accept_failed {registers : Registers} {result : Except Cause Integer} {cause : Cause}
    (failed : (registers.accept result).2 = some cause) : (registers.accept result).1 = registers := by
  cases result with
  | ok value => cases failed
  | error cause => rfl

theorem adjust_failed {registers : Registers} {op : Adjustment} {cause : Cause}
    (failed : (registers.adjust op).2 = some cause) : (registers.adjust op).1 = registers := by
  unfold adjust at failed ⊢
  split at failed
  · rfl
  · exact accept_failed failed

theorem goTo_failed {registers : Registers} {word : Word} {cause : Cause}
    (failed : (registers.goTo word).2 = some cause) : (registers.goTo word).1 = registers := by
  unfold goTo at failed ⊢
  split at failed
  · rfl
  · split at failed
    next negative => rw [if_pos negative]
    next => cases failed

theorem combine_failed {registers : Registers} {op : Arithmetic} {word : Word} {cause : Cause}
    (failed : (registers.combine op word).2 = some cause) :
    ∃ b, (registers.combine op word).1 = { registers with b } := by
  unfold combine at failed ⊢
  split at failed
  · exact ⟨registers.b, rfl⟩
  next b found =>
    refine ⟨.integer b, ?_⟩
    dsimp only at failed ⊢
    split at failed
    · rfl
    · exact accept_failed failed

end Registers

namespace Machine

/-- Are the machines the same up to PC, AR and B? -/
structure Keeps (before after : Machine) : Prop where
  memory : after.memory = before.memory
  symbols : after.symbols = before.symbols
  ir : after.registers.ir = before.registers.ir
  acc : after.registers.acc = before.registers.acc

variable {κ : Type}

theorem enter_failed {machine : Machine} {console : κ} {target : Nat} {cause : Cause} :
    (machine.enter console target).failure = some cause →
      machine.Keeps (machine.enter console target).machine := by
  unfold enter
  split
  · intro _
    exact ⟨rfl, rfl, rfl, rfl⟩
  · split
    · intro _
      exact ⟨rfl, rfl, rfl, rfl⟩
    · intro _
      exact ⟨rfl, rfl, rfl, rfl⟩
    · intro failed
      cases failed

variable [Console κ]

theorem send_failed {machine : Machine} {console : κ} {target : Nat} {cause : Cause} :
    (machine.send console target).failure = some cause →
      machine.Keeps (machine.send console target).machine := by
  by_cases console_cell : target = 0
  · subst console_cell
    rw [send_zero]
    intro _
    exact ⟨rfl, rfl, rfl, rfl⟩
  · -- An address is refused before anything is written to it.
    rw [send_of_ne_zero _ _ console_cell]
    split
    · intro _
      exact ⟨rfl, rfl, rfl, rfl⟩
    · intro failed
      cases failed

theorem perform_failed {machine : Machine} {console : κ} {action : Action} {cause : Cause}
    (failed : (machine.perform console action).failure = some cause) :
    machine.Keeps (machine.perform console action).machine := by
  cases action with
  | combine op source =>
    simp only [perform] at failed ⊢
    split at failed
    · exact ⟨rfl, rfl, rfl, rfl⟩
    next word received =>
      -- B may have the operand already, but the accumulator is set last.
      obtain ⟨b, same⟩ := Registers.combine_failed failed
      rw [settle, same]
      exact ⟨rfl, rfl, rfl, rfl⟩
  | load source =>
    simp only [perform] at failed ⊢
    split at failed
    · exact ⟨rfl, rfl, rfl, rfl⟩
    · cases failed
  | store target =>
    have kept : (machine.aim target).Keeps (machine.perform console (.store target)).machine :=
      send_failed failed
    exact ⟨kept.memory, kept.symbols, kept.ir, kept.acc⟩
  | adjust op =>
    rw [perform, settle, Registers.adjust_failed failed]
    exact ⟨rfl, rfl, rfl, rfl⟩
  | jumpThrough cell =>
    simp only [perform] at failed ⊢
    rw [settle, Registers.goTo_failed failed]
    exact ⟨rfl, rfl, rfl, rfl⟩
  | call target => exact enter_failed failed
  | assign | jump | skip => cases failed

/-- An action that fails has written nothing to the console. -/
theorem perform_failed_write {machine : Machine} {console : κ} {action : Action} {cause : Cause}
    {text : String} (failed : (machine.perform console action).failure = some cause)
    (write : action.call? machine.registers.acc = some (.write text)) :
    ∃ message, (Console.writeLine console text).1 = .error message := by
  obtain ⟨rfl, rfl⟩ := Action.call?_eq_write_iff.mp write
  rw [perform, send_zero] at failed
  cases answer : (Console.writeLine console machine.registers.acc.render).1 with
  | error message => exact ⟨message, rfl⟩
  | ok done =>
    have accepted : Answer.refusal? (some (.written
      (Console.writeLine console machine.registers.acc.render).1)) = some cause := failed
    rw [answer] at accepted
    cases accepted

/-! ### Faulting cycles -/

/-- What a fault means: apart from PC and IR, which are known, only AR, B and at most one line of
the input are not as they were before the cycle. -/
structure Atomic {ι ο : Type} (account : Console.Account κ ι ο) (machine : Machine) (console : κ)
    (cycle : Cycle κ) (fault : Fault) : Prop where
  memory : cycle.machine.memory = machine.memory
  symbols : cycle.machine.symbols = machine.symbols
  acc : cycle.machine.registers.acc = machine.registers.acc
  output : account.output cycle.console = account.output console
  halted : cycle.machine.registers.pc = 0
  address : fault.address = machine.registers.pc
  word : fault.word = machine.memory.get machine.registers.pc
  ir : cycle.machine.registers.ir = machine.memory.get machine.registers.pc
  input : account.unread cycle.console = account.unread console ∨
    ∃ line, Console.readLine console = (.ok (some line), cycle.console)

end Machine

theorem Console.Account.after_failed {κ ι ο : Type} [Console κ] (account : Console.Account κ ι ο)
    (console : κ) (call : Option Call)
    (unwritten : ∀ text, call = some (.write text) →
      ∃ message, (Console.writeLine console text).1 = .error message) :
    account.output (Console.after console call) = account.output console ∧
      (account.unread (Console.after console call) = account.unread console ∨
        ∃ line, Console.readLine console = (.ok (some line), Console.after console call)) := by
  match call with
  | none => exact ⟨rfl, .inl rfl⟩
  | some .read =>
    refine ⟨account.output_read console, ?_⟩
    by_cases answered : ∃ line, (Console.readLine console).1 = .ok (some line)
    · obtain ⟨line, answer⟩ := answered
      exact .inr ⟨line, Prod.ext answer rfl⟩
    · exact .inl (account.unread_unanswered console (not_exists.mp answered))
  | some (.write text) =>
    obtain ⟨message, failed⟩ := unwritten text rfl
    have same := account.failed_write console text message failed
    exact ⟨same.2, .inl same.1⟩

namespace Machine

variable {κ ι ο : Type} [Console κ]

/-- A cycle that faults leaves alone all that a program can see. -/
theorem step_faulted (account : Console.Account κ ι ο) (machine : Machine) (console : κ)
    (fault : Fault) (faulted : (machine.step console).outcome = .faulted fault) :
    Atomic account machine console (machine.step console) fault := by
  cases state : machine.isHalted with
  | true =>
    rw [step_of_halted state] at faulted
    cases faulted
  | false =>
    cases decision : machine.action? with
    | error cause =>
      rw [step_of_error state decision] at faulted ⊢
      cases faulted
      exact ⟨rfl, rfl, rfl, rfl, rfl, rfl, rfl, rfl, .inl rfl⟩
    | ok action =>
      rw [step_of_action state decision] at faulted ⊢
      cases failure : (machine.fetch.advance.perform console action).failure with
      | none =>
        rw [Effect.finish_of_success failure] at faulted
        dsimp only at faulted
        split at faulted <;> cases faulted
      | some cause =>
        -- The fault names the word in IR, which no failing action replaces.
        rw [Effect.finish_of_failure failure] at faulted ⊢
        cases faulted
        obtain ⟨memory, symbols, ir, acc⟩ := perform_failed failure
        have traffic := account.after_failed console
          (action.call? machine.fetch.advance.registers.acc)
          fun text write => perform_failed_write failure write
        rw [← (perform_traffic machine.fetch.advance console action).1] at traffic
        exact ⟨memory, symbols, acc, traffic.1, rfl, rfl, ir, ir, traffic.2⟩

/-- A factor that is read and kept in B before the accumulator turns out to hold no number. -/
theorem step_faulted_product :
    let machine := (ofSource "mlt stdin").1
    let console : Interrupted Script := { inside := { input := ["6"] } }
    let cycle := machine.step console
    let fault : Fault := ⟨1, .instruction ⟨.mlt, some (.literal 0)⟩, .nonNumeric .unset⟩
    cycle.outcome = .faulted fault ∧ cycle.console.inside.input = [] ∧
      cycle.machine.registers.b = .integer 6 ∧
      Atomic (Interrupted.account Script.account) machine console cycle fault :=
  ⟨by decide +kernel, by decide +kernel, by decide +kernel,
    step_faulted (Interrupted.account Script.account) _ _ _ (by decide +kernel)⟩

end Machine

end Accumulator
