import Accumulator.Proofs.Traffic

/-!
# What happens to a machine over time

An `Operation` is what can be done to a machine from outside, and `Machine.after` is the machine
after any number of them, each step and each run on a console of its own. Which lines these
consoles returned is read off the consoles, not off the machine: a `Recorder` keeps what the console
inside it returns, and a machine cannot tell it from that console (`runFor_recorder`).
-/
namespace Accumulator

/-- A console that keeps the lines that the console inside returned. -/
structure Recorder (κ : Type) where
  inside : κ
  returned : List String := []

/-- A run may be cut off after any number of cycles, so the states within a run are states after a
run too. -/
inductive Operation : Type 1 where
  | load (source : String)
  | poke (address : Nat) (word : Word)
  | step {κ : Type} [Console κ] (console : κ)
  | run {κ : Type} [Console κ] (limit : Nat) (console : κ)

variable {κ : Type} [Console κ]

namespace Recorder

instance : Console (Recorder κ) where
  readLine recorder :=
    let (answer, inside) := Console.readLine recorder.inside
    (answer, ⟨inside, recorder.returned ++ (Answer.heard (some (.read answer))).toList⟩)
  writeLine recorder text :=
    let (done, inside) := Console.writeLine recorder.inside text
    (done, { recorder with inside })

theorem answer?_eq (recorder : Recorder κ) (call : Option Call) :
    Console.answer? recorder call = Console.answer? recorder.inside call := by
  match call with
  | none | some .read | some (.write _) => rfl

theorem after_eq (recorder : Recorder κ) (call : Option Call) :
    Console.after recorder call =
      { inside := Console.after recorder.inside call
        returned := recorder.returned ++
          (Answer.heard (Console.answer? recorder.inside call)).toList } := by
  match call with
  | none | some (.write _) => simp [Console.after, Console.answer?, Answer.heard, Console.writeLine]
  | some .read => rfl

/-- Whatever is done to a recorder is done to the console inside. -/
theorem isView : Console.IsView (inside : Recorder κ → κ) where
  answer recorder call := (recorder.answer?_eq call).symm
  after recorder call := by rw [after_eq]

end Recorder

namespace Operation

/-- The machine after the operation. A poke that is refused changes nothing. -/
def apply (machine : Machine) : Operation → Machine
  | .load source => (machine.load source).1
  | .poke address word =>
    match machine.poke address word with
    | .ok poked => poked
    | .error _ => machine
  | @step _ _ console => (machine.step console).machine
  | @run _ _ limit console => (machine.runFor limit console).machine

/-- The lines that the console of the operation returned. -/
def returned (machine : Machine) : Operation → List String
  | .load _ | .poke _ _ => []
  | @step κ _ console => (machine.step { inside := console : Recorder κ }).console.returned
  | @run κ _ limit console =>
    (machine.runFor limit { inside := console : Recorder κ }).console.returned

end Operation

namespace Machine

def after (machine : Machine) : List Operation → Machine
  | [] => machine
  | operation :: later => (operation.apply machine).after later

/-- The lines that the consoles of the operations returned, in order. -/
def returned (machine : Machine) : List Operation → List String
  | [] => []
  | operation :: later => operation.returned machine ++ (operation.apply machine).returned later

/-! ### Recorders change nothing -/

theorem step_recorder (machine : Machine) (recorder : Recorder κ) :
    (machine.step recorder).inner = (machine.step recorder.inside).inner ∧
      (machine.step recorder).console =
        { inside := (machine.step recorder.inside).console
          returned := recorder.returned ++ (machine.step recorder.inside).heard.toList } := by
  refine ⟨step_congr machine (recorder.answer?_eq machine.call?), ?_⟩
  rw [step_console, step_console, step_heard, Recorder.after_eq]

theorem runFor_recorder (limit : Nat) (machine : Machine) (console : κ) :
    (machine.runFor limit { inside := console : Recorder κ }).machine =
      (machine.runFor limit console).machine := by
  have run := continueFor_view Recorder.isView limit machine.restart { inside := console } 0
  exact (congrArg Run.machine run).symm

end Machine

/-! ### Invariants -/

/-- Does every operation of a kind keep what holds of the lines returned so far and the machine?
A run is a restart and steps. -/
structure Preserved (allowed : Operation → Prop) (holds : List String → Machine → Prop) : Prop where
  load : ∀ returned machine source, allowed (.load source) → holds returned machine →
    holds returned (machine.load source).1
  poke : ∀ returned machine address word poked, allowed (.poke address word) →
    machine.poke address word = .ok poked → holds returned machine → holds returned poked
  restart : ∀ returned machine, holds returned machine → holds returned machine.restart
  step : ∀ {κ : Type} [Console κ] returned machine (console : κ), holds returned machine →
    holds (returned ++ (machine.step console).heard.toList) (machine.step console).machine

namespace Preserved

variable {allowed : Operation → Prop} {holds : List String → Machine → Prop}

theorem step_recorder (preserved : Preserved allowed holds) (returned : List String)
    (machine : Machine) (recorder : Recorder κ)
    (before : holds (returned ++ recorder.returned) machine) :
    holds (returned ++ (machine.step recorder).console.returned)
      (machine.step recorder).machine := by
  obtain ⟨same, console⟩ := machine.step_recorder recorder
  have cycle : (machine.step recorder).machine = (machine.step recorder.inside).machine :=
    congrArg Cycle.machine same
  rw [cycle, console, ← List.append_assoc]
  exact preserved.step _ machine recorder.inside before

theorem continueFor (preserved : Preserved allowed holds) (returned : List String) (limit : Nat)
    (machine : Machine) (recorder : Recorder κ) (done : Nat)
    (before : holds (returned ++ recorder.returned) machine) :
    holds (returned ++ (machine.continueFor limit recorder done).console.returned)
      (machine.continueFor limit recorder done).machine := by
  induction limit generalizing machine recorder done with
  | zero => exact before
  | succ limit ih =>
    have next := preserved.step_recorder returned machine recorder before
    simp only [Machine.continueFor]
    split
    · exact ih _ _ _ next
    · exact next
    · exact next

theorem apply (preserved : Preserved allowed holds) (returned : List String) (machine : Machine)
    {operation : Operation} (permitted : allowed operation) (before : holds returned machine) :
    holds (returned ++ operation.returned machine) (operation.apply machine) := by
  -- The recorder of each operation starts with no lines.
  have fresh : holds (returned ++ []) machine := by simpa using before
  cases operation with
  | load source =>
    rw [Operation.returned, List.append_nil]
    exact preserved.load returned machine source permitted before
  | poke address word =>
    simp only [Operation.apply, Operation.returned, List.append_nil]
    split
    next poked written => exact preserved.poke _ _ _ _ _ permitted written before
    next => exact before
  | @step κ _ console =>
    have recorded := preserved.step_recorder returned machine { inside := console : Recorder κ } fresh
    have same : (machine.step { inside := console : Recorder κ }).machine =
        (machine.step console).machine :=
      congrArg Cycle.machine (machine.step_recorder { inside := console : Recorder κ }).1
    rw [same] at recorded
    exact recorded
  | @run κ _ limit console =>
    have recorded : holds
        (returned ++ (machine.runFor limit { inside := console : Recorder κ }).console.returned)
        (machine.runFor limit { inside := console : Recorder κ }).machine :=
      preserved.continueFor returned limit machine.restart _ 0 (preserved.restart _ _ fresh)
    rw [machine.runFor_recorder limit console] at recorded
    exact recorded

/-- What holds at first still holds after any number of operations of this kind. -/
theorem after (preserved : Preserved allowed holds) (operations : List Operation)
    (permitted : ∀ operation ∈ operations, allowed operation) (machine : Machine)
    (initial : holds [] machine) :
    holds (machine.returned operations) (machine.after operations) := by
  -- The lines returned before the operations are free, as they grow from one operation to the next.
  have extended (returned : List String) (before : holds returned machine) :
      holds (returned ++ machine.returned operations) (machine.after operations) := by
    clear initial
    induction operations generalizing machine returned with
    | nil =>
      rw [Machine.returned, List.append_nil]
      exact before
    | cons operation later ih =>
      have next := preserved.apply returned machine (permitted operation List.mem_cons_self) before
      rw [Machine.returned, ← List.append_assoc]
      exact ih (fun operation member => permitted operation (List.mem_cons_of_mem _ member)) _ _ next
  exact extended [] initial

end Preserved

end Accumulator
