import Accumulator.Proofs.Causes
import Accumulator.Proofs.Cycles
import Accumulator.Proofs.History

/-!
# Input that was not read

A cycle takes at most one line from a script and sees nothing of those behind it. Two scripts that
differ in their last lines only are therefore told apart by nothing but the end of the shorter one,
and a machine that meets this end faults (`step_exhausted`). The lines are taken in order, and the
output is added to at its end (`Script.Accounts`). Main statement: `cycleAt_unread`.
-/
namespace Accumulator

namespace Script

/-- The script with more lines at the end of its input. -/
def extend (script : Script) (more : List String) : Script :=
  { script with input := script.input ++ more }

/-- Does the later script show what the earlier one was, once these lines were read from it? -/
structure Accounts (earlier : Script) (read : List String) (later : Script) : Prop where
  input : read ++ later.input = earlier.input
  output : earlier.output.toList <+: later.output.toList

theorem Accounts.refl (script : Script) : script.Accounts [] script :=
  ⟨rfl, List.prefix_refl _⟩

theorem Accounts.trans {first second third : Script} {read more : List String}
    (early : first.Accounts read second) (late : second.Accounts more third) :
    first.Accounts (read ++ more) third where
  input := by rw [List.append_assoc, late.input, early.input]
  output := early.output.trans late.output

theorem accounts_after (script : Script) (call : Option Call) :
    script.Accounts (Answer.heard (Console.answer? script call)).toList
      (Console.after script call) := by
  obtain ⟨input, output⟩ := script
  match call with
  | none => exact .refl _
  | some (.write text) => exact ⟨rfl, by simp [Console.after, Console.writeLine]⟩
  | some .read =>
    cases input with
    | nil => exact ⟨rfl, List.prefix_refl _⟩
    | cons line rest => exact ⟨rfl, List.prefix_refl _⟩

/-- As long as a read does not meet the end of the input, lines behind it change nothing. -/
theorem extend_call {script : Script} {call : Option Call}
    (fed : call = some .read → script.input ≠ []) (more : List String) :
    Console.answer? (script.extend more) call = Console.answer? script call ∧
      Console.after (script.extend more) call = (Console.after script call).extend more := by
  obtain ⟨input, output⟩ := script
  match call with
  | none | some (.write _) => exact ⟨rfl, rfl⟩
  | some .read =>
    cases input with
    | nil => exact absurd rfl (fed rfl)
    | cons line rest => exact ⟨rfl, rfl⟩

end Script

/-! ### Single cycles -/

theorem Action.source_of_read {action : Action} {acc : Word}
    (read : action.call? acc = some .read) :
    (∃ op, action = .combine op 0) ∨ action = .load 0 := by
  cases action with
  | combine op source =>
    have zero : source = 0 := by simpa [call?, Call.toRead] using read
    exact .inl ⟨op, by rw [zero]⟩
  | load source =>
    have zero : source = 0 := by simpa [call?, Call.toRead] using read
    exact .inr (by rw [zero])
  | store target =>
    simp only [call?] at read
    split at read <;> cases read
  | adjust | assign | jump | jumpThrough | call | skip => cases read

namespace Machine

variable {κ : Type} [Console κ]

theorem perform_exhausted {machine : Machine} {console : κ} {action : Action}
    (read : action.call? machine.registers.acc = some .read)
    (ended : (Console.readLine console).1 = .ok none) :
    (machine.perform console action).failure = some .inputExhausted := by
  have answered : Answer.word machine.memory 0 (Console.answer? console (Call.toRead 0)) =
      .error .inputExhausted := by
    simp [Call.toRead, Console.answer?, ended, Answer.word]
  obtain ⟨op, rfl⟩ | rfl := Action.source_of_read read
  · simp only [perform, receive_eq, answered]
  · simp only [perform, receive_eq, answered]

/-- A machine that asks for a line where there is none faults for that reason. -/
theorem step_exhausted {machine : Machine} {console : κ} (read : machine.call? = some .read)
    (ended : (Console.readLine console).1 = .ok none) :
    (machine.step console).outcome.cause? = some .inputExhausted := by
  rcases machine.step_cases console with
    ⟨state, _⟩ | ⟨_, _, refused, _⟩ | ⟨action, state, decided, same⟩
  · rw [call?_of_halted state] at read
    cases read
  · rw [call?_of_error refused] at read
    cases read
  · rw [call?_of_action state decided] at read
    rw [same, Effect.finish_cause?]
    exact perform_exhausted read ended

theorem step_extend {machine : Machine} {script : Script}
    (fed : (machine.step script).outcome.cause? ≠ some .inputExhausted) (more : List String) :
    (machine.step (script.extend more)).inner = (machine.step script).inner ∧
      (machine.step (script.extend more)).console = (machine.step script).console.extend more := by
  have lines : machine.call? = some .read → script.input ≠ [] := by
    intro read empty
    have ended : (Console.readLine script).1 = .ok none := by
      obtain ⟨input, output⟩ := script
      cases empty
      rfl
    exact fed (step_exhausted read ended)
  obtain ⟨answer, after⟩ := Script.extend_call lines more
  rw [step_console, step_console]
  exact ⟨step_congr machine answer, after⟩

/-! ### Rows of cycles -/

/-- The lines that the console returned up to the end of a cycle. -/
def linesRead (machine : Machine) (console : κ) (k : Nat) : List String :=
  (machine.cycleAt ({ inside := console } : Recorder κ) k).console.returned

theorem cycleAt_recorder (machine : Machine) (recorder : Recorder κ) (k : Nat) :
    (machine.cycleAt recorder k).inner = (machine.cycleAt recorder.inside k).inner ∧
      (machine.cycleAt recorder k).console.inside =
        (machine.cycleAt recorder.inside k).console := by
  rw [cycleAt_view Recorder.isView]
  exact ⟨rfl, rfl⟩

theorem linesRead_zero (machine : Machine) (console : κ) :
    machine.linesRead console 0 = (machine.step console).heard.toList := by
  rw [linesRead, cycleAt, (machine.step_recorder _).2, List.nil_append]

theorem linesRead_succ (machine : Machine) (console : κ) (k : Nat) :
    machine.linesRead console (k + 1) =
      machine.linesRead console k ++ (machine.cycleAt console (k + 1)).heard.toList := by
  have recorded := machine.cycleAt_recorder ({ inside := console } : Recorder κ) k
  have cycle := (Cycle.eq_of_inner_eq recorded.1).1
  rw [linesRead, cycleAt, (step_recorder _ _).2, cycle, recorded.2, linesRead, cycleAt]

theorem step_accounts (machine : Machine) (script : Script) :
    script.Accounts (machine.step script).heard.toList (machine.step script).console := by
  rw [step_heard, step_console]
  exact script.accounts_after machine.call?

theorem cycleAt_accounts (machine : Machine) (script : Script) (k : Nat) :
    script.Accounts (machine.linesRead script k) (machine.cycleAt script k).console := by
  induction k with
  | zero =>
    rw [linesRead_zero]
    exact machine.step_accounts script
  | succ k ih =>
    rw [linesRead_succ]
    exact ih.trans (step_accounts _ _)

theorem cycleAt_output_prefix (machine : Machine) (script : Script) {j k : Nat} (order : j ≤ k) :
    (machine.cycleAt script j).console.output.toList <+:
      (machine.cycleAt script k).console.output.toList := by
  induction order with
  | refl => exact List.prefix_refl _
  | step _ ih => exact ih.trans (step_accounts _ _).output

theorem cycleAt_extend {machine : Machine} {script : Script} {count : Nat}
    (fed : ∀ k < count, (machine.cycleAt script k).outcome.cause? ≠ some .inputExhausted)
    (more : List String) {k : Nat} (within : k < count) :
    (machine.cycleAt (script.extend more) k).inner = (machine.cycleAt script k).inner ∧
      (machine.cycleAt (script.extend more) k).console =
        (machine.cycleAt script k).console.extend more := by
  induction k with
  | zero => exact step_extend (fed 0 within) more
  | succ k ih =>
    -- The machines are the same and the consoles still differ in these lines only.
    obtain ⟨same, console⟩ := ih (by omega)
    have cycle := (Cycle.eq_of_inner_eq same).1
    simp only [cycleAt, cycle, console]
    exact step_extend (fed (k + 1) within) more

/-- Lines that a row of cycles did not read have no part in it, and a script keeps account of what
was read and written. -/
theorem cycleAt_unread (machine : Machine) (input more : List String) (output : Array String)
    (count : Nat) :
    ((∀ k < count, (machine.cycleAt (Script.mk input output) k).outcome.cause? ≠
        some .inputExhausted) →
      ∀ k < count,
        let short := machine.cycleAt (Script.mk input output) k
        let long := machine.cycleAt (Script.mk (input ++ more) output) k
        long.outcome = short.outcome ∧ long.machine = short.machine ∧
          long.console.output = short.console.output ∧
          long.console.input = short.console.input ++ more) ∧
      ∀ k,
        let cycle := machine.cycleAt (Script.mk input output) k
        machine.linesRead (Script.mk input output) k ++ cycle.console.input = input ∧
          output.toList <+: cycle.console.output.toList ∧
          ∀ j ≤ k, (machine.cycleAt (Script.mk input output) j).console.output.toList <+:
            cycle.console.output.toList := by
  constructor
  · intro fed k within short long
    obtain ⟨same, console⟩ := cycleAt_extend fed more within
    obtain ⟨machines, -, outcomes⟩ := Cycle.eq_of_inner_eq same
    have left : long.console = short.console.extend more := console
    exact ⟨outcomes, machines, by rw [left, Script.extend], by rw [left, Script.extend]⟩
  · intro k cycle
    have accounts := machine.cycleAt_accounts (Script.mk input output) k
    exact ⟨accounts.input, accounts.output, fun j order => machine.cycleAt_output_prefix _ order⟩

/-- A sum that faults over its second line, with a third line that is never read. -/
theorem cycleAt_unread_sum :
    let machine := (ofSource "lda stdin\nadd stdin\nsta stdout\nhlt").1
    let short := machine.cycleAt (Script.mk ["4", "five"] #[]) 1
    let long := machine.cycleAt (Script.mk ["4", "five", "6"] #[]) 1
    short.outcome.cause? = some (.nonNumeric (.text "five")) ∧ long.outcome = short.outcome ∧
      long.machine = short.machine ∧ long.console.input = short.console.input ++ ["6"] := by
  intro machine short long
  have fed : ∀ k < 3, (machine.cycleAt (Script.mk ["4", "five"] #[]) k).outcome.cause? ≠
      some .inputExhausted := by decide +kernel
  obtain ⟨outcome, machines, -, input⟩ :=
    (cycleAt_unread machine ["4", "five"] ["6"] #[] 3).1 fed 1 (by decide)
  exact ⟨by decide +kernel, outcome, machines, input⟩

end Machine

end Accumulator
