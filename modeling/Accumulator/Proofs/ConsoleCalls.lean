import Accumulator.Console.Interrupted
import Accumulator.Console.Pipe
import Accumulator.Proofs.Subroutines
import Accumulator.Proofs.Unread
import Mathlib.Data.List.Basic

/-!
# Calls on the console

Address 0 is the console for the instructions that move data, a cell like others for a branch through
it, and the end of the program for every other branch. Which instructions call the console is decided
before anything is done (`call?_eq_read_iff`, `call?_eq_write_iff`); that they make this one call and
no other is seen by a `Monitor`, which keeps all calls on the console inside (`stepCalls_eq`). What a
console prints is then what the executed `sta` instructions hand to it (`Console.Prints`). Main
statement: `step_calls`.
-/
namespace Accumulator

/-- A console that keeps the calls that are made on the console inside. -/
structure Monitor (κ : Type) where
  inside : κ
  calls : List Call := []

/-- The text that a call hands to the console, if it hands one. -/
def Call.text? : Call → Option String
  | .read => none
  | .write text => some text

/-- The operations that take a word from the address that their operand stands for. -/
def Opcode.takers : List Opcode := [.lda, .add, .sub, .mlt, .div]

theorem Opcode.eq_of_mem_takers {opcode : Opcode} (taker : opcode ∈ takers) :
    opcode = .lda ∨ ∃ op : Arithmetic, opcode = op.opcode := by
  simp only [takers, List.mem_cons, List.not_mem_nil, or_false] at taker
  rcases taker with rfl | rfl | rfl | rfl | rfl
  · exact .inl rfl
  · exact .inr ⟨.add, rfl⟩
  · exact .inr ⟨.sub, rfl⟩
  · exact .inr ⟨.mlt, rfl⟩
  · exact .inr ⟨.div, rfl⟩

/-- The operations that go to an address, or through it. -/
def Opcode.branches : List Opcode := [.br, .brp, .brz, .bri, .brs]

section Console

variable {κ : Type} [Console κ]

instance : Console (Monitor κ) where
  readLine monitor :=
    let (answer, inside) := Console.readLine monitor.inside
    (answer, ⟨inside, monitor.calls ++ [.read]⟩)
  writeLine monitor text :=
    let (done, inside) := Console.writeLine monitor.inside text
    (done, ⟨inside, monitor.calls ++ [.write text]⟩)

/-- Is this what a console has printed: every text that it took, in order, and nothing else? -/
structure Console.Prints (printed : κ → List String) : Prop where
  read : ∀ console, printed (readLine console).2 = printed console
  taken : ∀ console text, (writeLine console text).1 = .ok () →
    printed (writeLine console text).2 = printed console ++ [text]
  refused : ∀ console text message, (writeLine console text).1 = .error message →
    printed (writeLine console text).2 = printed console

theorem Script.prints : Console.Prints fun script : Script => script.output.toList where
  read := by rintro ⟨_ | _, _⟩ <;> rfl
  taken script text _ := Array.toList_push
  refused := nofun

theorem Pipe.prints : Console.Prints fun pipe : Pipe => pipe.output.toList where
  read := by rintro ⟨_ | ⟨_ | _, _⟩, _⟩ <;> rfl
  taken pipe text _ := Array.toList_push
  refused := nofun

/-- A call that is interrupted prints nothing. -/
theorem Interrupted.prints {printed : κ → List String} (prints : Console.Prints printed) :
    Console.Prints fun console : Interrupted κ => printed console.inside where
  read := by
    intro console
    simp only [Console.readLine]
    split
    · rfl
    · exact prints.read console.inside
  taken := by
    intro console text
    simp only [Console.writeLine]
    split
    · intro done
      cases done
    · exact prints.taken console.inside text
  refused := by
    intro console text message
    simp only [Console.writeLine]
    split
    · exact fun _ => rfl
    · exact prints.refused console.inside text message

namespace Monitor

theorem answer?_eq (monitor : Monitor κ) (call : Option Call) :
    Console.answer? monitor call = Console.answer? monitor.inside call := by
  match call with
  | none | some .read | some (.write _) => rfl

theorem after_eq (monitor : Monitor κ) (call : Option Call) :
    Console.after monitor call =
      { inside := Console.after monitor.inside call, calls := monitor.calls ++ call.toList } := by
  match call with
  | none => simp [Console.after]
  | some .read | some (.write _) => rfl

/-- Whatever is done to a monitor is done to the console inside. -/
theorem isView : Console.IsView (inside : Monitor κ → κ) where
  answer monitor call := (monitor.answer?_eq call).symm
  after monitor call := by rw [after_eq]

end Monitor

namespace Machine

/-- Does the next cycle take a word from the console? -/
def TakesLine (machine : Machine) : Prop := ∃ opcode ∈ Opcode.takers, machine.Executes opcode 0

instance (machine : Machine) : Decidable machine.TakesLine :=
  inferInstanceAs (Decidable (∃ _ ∈ _, _))

/-- What the next cycle shows of the accumulator, if it executes `sta` at address 0. -/
def shown? (machine : Machine) : Option String :=
  if machine.Executes .sta 0 then some machine.registers.acc.render else none

/-- The calls that the next cycle makes on its console. -/
def stepCalls (machine : Machine) (console : κ) : List Call :=
  (machine.step { inside := console : Monitor κ }).console.calls

/-- The calls that a run makes on its console. -/
def runCalls (limit : Nat) (machine : Machine) (console : κ) : List Call :=
  (machine.runFor limit { inside := console : Monitor κ }).console.calls

/-! ### Which instructions call -/

theorem call?_eq_some_iff {machine : Machine} {call : Call} :
    machine.call? = some call ↔
      machine.isHalted = false ∧ ∃ action, machine.action? = .ok action ∧
        action.call? machine.registers.acc = some call := by
  cases state : machine.isHalted with
  | true => simp [call?_of_halted state]
  | false =>
    cases decision : machine.action? with
    | error cause => simp [call?_of_error decision]
    | ok action => simp [call?_of_action state decision]

theorem call?_eq_read_iff {machine : Machine} : machine.call? = some .read ↔ machine.TakesLine := by
  rw [call?_eq_some_iff]
  constructor
  · rintro ⟨running, action, decided, read⟩
    obtain ⟨op, rfl⟩ | rfl := Action.source_of_read read
    · exact ⟨op.opcode, by cases op <;> decide, executes_combine_iff.mpr ⟨running, decided⟩⟩
    · exact ⟨.lda, by decide, executes_lda_iff.mpr ⟨running, decided⟩⟩
  · rintro ⟨opcode, taker, executes⟩
    obtain rfl | ⟨op, rfl⟩ := Opcode.eq_of_mem_takers taker
    · obtain ⟨running, decided⟩ := executes_lda_iff.mp executes
      exact ⟨running, .load 0, decided, rfl⟩
    · obtain ⟨running, decided⟩ := executes_combine_iff.mp executes
      exact ⟨running, .combine op 0, decided, rfl⟩

theorem call?_eq_write_iff {machine : Machine} {text : String} :
    machine.call? = some (.write text) ↔
      machine.Executes .sta 0 ∧ machine.registers.acc.render = text := by
  rw [call?_eq_some_iff]
  constructor
  · rintro ⟨running, action, decided, write⟩
    obtain ⟨rfl, shown⟩ := Action.call?_eq_write_iff.mp write
    exact ⟨executes_sta_iff.mpr ⟨running, decided⟩, shown⟩
  · rintro ⟨executes, shown⟩
    obtain ⟨running, decided⟩ := executes_sta_iff.mp executes
    exact ⟨running, .store 0, decided, Action.call?_eq_write_iff.mpr ⟨rfl, shown⟩⟩

theorem call?_eq_none_iff {machine : Machine} :
    machine.call? = none ↔ ¬ machine.TakesLine ∧ ¬ machine.Executes .sta 0 := by
  rw [← call?_eq_read_iff]
  match call : machine.call? with
  | none =>
    have silent : ¬ machine.Executes .sta 0 := fun executes => by
      rw [call?_eq_write_iff.mpr ⟨executes, rfl⟩] at call
      cases call
    simp [silent]
  | some .read => simp
  | some (.write text) => simp [(call?_eq_write_iff.mp call).1]

theorem shown?_eq {machine : Machine} : machine.shown? = machine.call?.bind Call.text? := by
  unfold shown?
  split
  next executes => rw [call?_eq_write_iff.mpr ⟨executes, rfl⟩]; rfl
  next silent =>
    match call : machine.call? with
    | none | some .read => rfl
    | some (.write text) => exact absurd (call?_eq_write_iff.mp call).1 silent

/-! ### The calls of a cycle and of a run -/

theorem stepCalls_eq (machine : Machine) (console : κ) :
    machine.stepCalls console = machine.call?.toList := by
  rw [stepCalls, step_console, Monitor.after_eq, List.nil_append]

theorem calls_consoleAt (machine : Machine) (monitor : Monitor κ) (k : Nat) :
    (machine.consoleAt monitor k).calls = monitor.calls ++
      (List.range k).flatMap fun j => (machine.machineAt monitor.inside j).call?.toList := by
  induction k with
  | zero => simp [consoleAt]
  | succ k ih =>
    have same := (machine.machineAt_view Monitor.isView monitor k).1
    rw [consoleAt, cycleAt_eq_step, step_console, Monitor.after_eq, ih, ← same, List.range_succ,
      List.flatMap_append, List.flatMap_singleton, List.append_assoc]

theorem runCalls_eq (limit : Nat) (machine : Machine) (console : κ) :
    machine.runCalls limit console =
      (List.range limit).flatMap fun k => (machine.restart.machineAt console k).call?.toList := by
  rw [runCalls, (runFor_eq_machineAt _ _ _).2, calls_consoleAt, List.nil_append]

theorem text?_runCalls (limit : Nat) (machine : Machine) (console : κ) :
    (machine.runCalls limit console).filterMap Call.text? =
      (List.range limit).filterMap fun k => (machine.restart.machineAt console k).shown? := by
  simp only [runCalls_eq, ← List.filterMap_eq_flatMap_toList, List.filterMap_filterMap, shown?_eq]

/-! ### What a console prints -/

/-- A cycle that hands a text to the console faults exactly if that is refused. -/
theorem cause?_of_write {machine : Machine} {text : String}
    (write : machine.call? = some (.write text)) (console : κ) :
    (machine.step console).outcome.cause? =
      Answer.refusal? (Console.answer? console (some (.write text))) := by
  obtain ⟨running, action, decided, handed⟩ := call?_eq_some_iff.mp write
  obtain ⟨rfl, rfl⟩ := Action.call?_eq_write_iff.mp handed
  rw [step_of_action running decided, Effect.finish_cause?, perform, send_zero]
  rfl

/-- What the next cycle prints: nothing if it faults. -/
def printed? (machine : Machine) (console : κ) : Option String :=
  if (machine.step console).outcome.cause? = none then machine.shown? else none

variable {printed : κ → List String}

theorem printed_step (prints : Console.Prints printed) (machine : Machine) (console : κ) :
    printed (machine.step console).console =
      printed console ++ (machine.printed? console).toList := by
  rw [step_console, printed?, shown?_eq]
  match call : machine.call? with
  | none => simp [Console.after]
  | some .read => simp [Console.after, Call.text?, prints.read]
  | some (.write text) =>
    rw [cause?_of_write call, Console.after, Console.answer?]
    cases answered : (Console.writeLine console text).1 with
    | ok => simp [Answer.refusal?, Call.text?, prints.taken console text answered]
    | error message => simp [Answer.refusal?, prints.refused console text message answered]

theorem printed_consoleAt (prints : Console.Prints printed) (machine : Machine) (console : κ)
    (k : Nat) :
    printed (machine.consoleAt console k) = printed console ++
      (List.range k).filterMap fun j =>
        (machine.machineAt console j).printed? (machine.consoleAt console j) := by
  induction k with
  | zero => simp [consoleAt]
  | succ k ih =>
    rw [consoleAt, cycleAt_eq_step, printed_step prints, ih, List.range_succ, List.filterMap_append,
      List.append_assoc, List.filterMap_eq_flatMap_toList _ [k], List.flatMap_singleton]

/-- Without refusals, all that is shown is printed. -/
theorem printed?_eq_shown? (machine : Machine) {console : κ}
    (takes : ∀ text, (Console.writeLine console text).1 = .ok ()) :
    machine.printed? console = machine.shown? := by
  rw [printed?, shown?_eq]
  match call : machine.call? with
  | none | some .read => simp [Call.text?]
  | some (.write text) =>
    rw [cause?_of_write call, Console.answer?, takes text]
    rfl

/-! ### Cycles and runs -/

/-- No branch calls the console, whatever it goes to. -/
theorem call?_of_branch {machine : Machine} {opcode : Opcode} {target : Nat}
    (branch : opcode ∈ Opcode.branches) (executes : machine.Executes opcode target) :
    machine.call? = none := by
  -- The operation would be one of two kinds that have none in common.
  have apart : ∀ other ∈ Opcode.branches, other ∉ Opcode.takers ∧ other ≠ .sta := by decide
  refine call?_eq_none_iff.mpr ⟨?_, fun stores => (apart opcode branch).2 (executes.unique stores)⟩
  rintro ⟨other, taker, takes⟩
  rw [← executes.unique takes] at taker
  exact (apart opcode branch).1 taker

theorem call?_of_fetched? {machine : Machine} (none : machine.fetched? = none) :
    machine.call? = .none := by
  refine call?_eq_none_iff.mpr ⟨?_, ?_⟩
  · rintro ⟨_, -, -, code, fetched, -⟩
    cases none.symm.trans fetched
  · rintro ⟨-, code, fetched, -⟩
    cases none.symm.trans fetched

/-- A cycle asks the console for one line if it executes an operation that takes a word from address
0, hands it what the accumulator shows if it executes `sta` there, and otherwise leaves it alone. A
line that is given is used up, however the cycle ends. So what a run hands to the console is what its
`sta` instructions show, in order, and that is printed unless the console refuses it. -/
theorem step_calls (machine : Machine) (console : κ) :
    (machine.stepCalls console = [.read] ↔ machine.TakesLine) ∧
    (∀ text, machine.stepCalls console = [.write text] ↔
      machine.Executes .sta 0 ∧ machine.registers.acc.render = text) ∧
    (machine.stepCalls console = [] ↔ ¬ machine.TakesLine ∧ ¬ machine.Executes .sta 0) ∧
    (machine.isHalted = true ∨ machine.fetched? = none ∨
        (∃ opcode ∈ Opcode.branches, ∃ target, machine.Executes opcode target) →
      machine.stepCalls console = []) ∧
    (∀ line left, machine.TakesLine → Console.readLine console = (.ok (some line), left) →
      (machine.step console).heard = some line ∧ (machine.step console).console = left) ∧
    ∀ limit,
      let machineAt := machine.restart.machineAt console
      let consoleAt := machine.restart.consoleAt console
      machine.runCalls limit console =
          (List.range limit).flatMap (fun k => (machineAt k).stepCalls (consoleAt k)) ∧
        (machine.runCalls limit console).filterMap Call.text? =
          (List.range limit).filterMap (fun k => (machineAt k).shown?) ∧
        ∀ printed : κ → List String, Console.Prints printed →
          printed (machine.runFor limit console).console = printed console ++
            (List.range limit).filterMap (fun k => (machineAt k).printed? (consoleAt k)) ∧
          ((∀ (other : κ) text, (Console.writeLine other text).1 = .ok ()) →
            printed (machine.runFor limit console).console = printed console ++
              (List.range limit).filterMap fun k => (machineAt k).shown?) := by
  simp only [stepCalls_eq, Option.toList_eq_nil_iff, Option.toList_eq_singleton_iff]
  refine ⟨call?_eq_read_iff, fun text => call?_eq_write_iff, call?_eq_none_iff, ?_, ?_, ?_⟩
  · rintro (halted | unfetched | ⟨opcode, branch, target, executes⟩)
    · exact call?_of_halted halted
    · exact call?_of_fetched? unfetched
    · exact call?_of_branch branch executes
  · intro line left takes given
    rw [step_heard, step_console, call?_eq_read_iff.mpr takes, Console.answer?, Console.after, given]
    exact ⟨rfl, rfl⟩
  · intro limit
    refine ⟨runCalls_eq limit machine console, text?_runCalls limit machine console, ?_⟩
    intro printed prints
    have output := printed_consoleAt prints machine.restart console limit
    rw [← (runFor_eq_machineAt limit machine console).2] at output
    refine ⟨output, fun takes => output.trans ?_⟩
    simp only [printed?_eq_shown? _ (takes _)]

/-- A text is printed and then refused by an addition, which has used up the second line by then. -/
theorem step_calls_echo :
    let machine := (ofSource "lda stdin\nsta stdout\nadd stdin\nbri 0").1
    let console : Script := { input := ["six", "7"], output := #["start"] }
    let adding := machine.restart.machineAt console 2
    let left := machine.restart.consoleAt console 2
    (machine.runFor 9 console).console.output.toList = ["start", "six"] ∧
      (adding.step left).outcome.cause? = some (.nonNumeric (.text "six")) ∧
      left.input = ["7"] ∧ (adding.step left).console.input = [] ∧
      (ofSource "bri 0").1.stepCalls console = [] := by
  intro machine console adding left
  obtain ⟨-, -, -, -, -, run⟩ := step_calls machine console
  obtain ⟨-, -, prints⟩ := run 9
  have output := (prints _ Script.prints).2 fun _ _ => rfl
  have shown : (List.range 9).filterMap (fun k => (machine.restart.machineAt console k).shown?) =
      ["six"] := by decide +kernel
  have takes : adding.TakesLine := by decide +kernel
  have given : Console.readLine left = (.ok (some "7"), ⟨[], #["start", "six"]⟩) := by
    decide +kernel
  obtain ⟨-, -, -, -, consumed, -⟩ := step_calls adding left
  have branch : (ofSource "bri 0").1.Executes .bri 0 := by decide +kernel
  obtain ⟨-, -, -, silent, -, -⟩ := step_calls (ofSource "bri 0").1 console
  refine ⟨output.trans (by rw [shown]; rfl), by decide +kernel, by decide +kernel, ?_, ?_⟩
  · rw [(consumed _ _ takes given).2]
  · exact silent (.inr (.inr ⟨.bri, by decide, 0, branch⟩))

end Machine

end Console

end Accumulator
