import Accumulator.Machine.Trace
import Accumulator.Proofs.ConsoleCalls

/-!
# What a trace tells

The lines of a trace stand for events: a word is fetched, the program counter advances, an instruction
is executed, the console gives a line, the cycle faults. Which of them a cycle brings, and in which
order, is said by `Machine.events` from the address, the word that is held there, the instruction's
request to the console and the cause of the fault. The trace of a row of cycles is the events of one
cycle after the other (`traceFor_eq_told`). So it has one execution for each cycle of a row that halts
(`countP_told`), and it ends with the fault of a row that faults (`getLast?_told`).
-/
namespace Accumulator

/-- What a line of a trace is about. -/
inductive Event where
  /-- A word was fetched from an address. -/
  | fetched (address : Nat) (word : Word)
  /-- The program counter went on to an address. -/
  | advanced (address : Nat)
  | executes (word : Word)
  /-- The console gave a line. -/
  | heard (line : String)
  | faulted (address : Nat) (cause : Cause)
  deriving DecidableEq, Repr

namespace Event

def render : Event → String
  | .fetched address word => "fetch      AR=" ++ toString address ++ " IR=" ++ word.render
  | .advanced address => "increment  PC=" ++ toString address
  | .executes word => "execute    IR=" ++ word.render
  | .heard line => "read       " ++ Text.quoted line
  | .faulted address cause => "fault at " ++ toString address ++ ": " ++ cause.message

def isExecution : Event → Bool
  | .executes _ => true
  | .fetched _ _ | .advanced _ | .heard _ | .faulted _ _ => false

end Event

theorem Effect.address_of_finish {κ : Type} {effect : Effect κ} {address : Nat} {fault : Fault}
    (faulted : (effect.finish address).outcome = .faulted fault) : fault.address = address := by
  cases failure : effect.failure with
  | none =>
    rw [finish_of_success failure] at faulted
    dsimp only at faulted
    split at faulted <;> cases faulted
  | some cause =>
    rw [finish_of_failure failure] at faulted
    cases faulted
    rfl

namespace Machine

variable {κ : Type} [Console κ]

/-- The line that the next cycle gets from its console, if it asks for one and gets one. -/
def lineTaken? (machine : Machine) (console : κ) : Option String :=
  if machine.TakesLine then
    match (Console.readLine console).1 with
    | .ok line => line
    | .error _ => none
  else none

/-- What there is to tell of the next cycle. A halted machine has nothing to tell. -/
def events (machine : Machine) (console : κ) : List Event :=
  if machine.isHalted then []
  else
    .fetched machine.registers.pc (machine.memory.get machine.registers.pc) ::
      (if machine.fetched?.isSome then
        [.advanced (machine.registers.pc + 1),
          .executes (machine.memory.get machine.registers.pc)]
      else []) ++
      (machine.lineTaken? console).toList.map .heard ++
      (machine.step console).outcome.cause?.toList.map (.faulted machine.registers.pc)

/-- What there is to tell of so many cycles. -/
def told (machine : Machine) (console : κ) (count : Nat) : List Event :=
  (List.range count).flatMap fun k =>
    (machine.machineAt console k).events (machine.consoleAt console k)

/-! ### Single cycles -/

theorem heard_eq_lineTaken? (machine : Machine) (console : κ) :
    (machine.step console).heard = machine.lineTaken? console := by
  rw [step_heard, lineTaken?]
  split
  next takes =>
    rw [call?_eq_read_iff.mpr takes, Console.answer?]
    cases (Console.readLine console).1 <;> rfl
  next silent =>
    -- Without a call, and in answer to a write, no line comes.
    rcases call : machine.call? with _ | (_ | text)
    · rfl
    · exact absurd (call?_eq_read_iff.mp call) silent
    · rfl

/-- A fault names the address that its cycle fetched from. -/
theorem address_of_faulted {machine : Machine} {console : κ} {fault : Fault}
    (faulted : (machine.step console).outcome = .faulted fault) :
    fault.address = machine.registers.pc := by
  -- A halted machine does not fault; a refusal and an action both end the same cycle.
  rcases machine.step_cases console with
    ⟨-, same⟩ | ⟨cause, -, -, same⟩ | ⟨action, -, -, same⟩
  · rw [same] at faulted
    cases faulted
  · rw [same] at faulted
    cases faulted
    rfl
  · rw [same] at faulted
    exact Effect.address_of_finish faulted

theorem cycleTrace_eq_events {machine : Machine} (running : machine.isHalted = false)
    (console : κ) :
    cycleTrace machine.registers.pc (machine.memory.get machine.registers.pc)
        (machine.step console).heard (machine.step console).outcome =
      (machine.events console).map Event.render := by
  -- Three parts: what was fetched, what was heard, and the fault if there was one.
  rw [events, if_neg (by simp [running]), List.map_append, List.map_append, heard_eq_lineTaken?]
  refine congrArg₂ (· ++ ·) (congrArg₂ (· ++ ·) ?_ ?_) ?_
  · cases found : machine.memory.get machine.registers.pc <;> simp [fetched?, found, Event.render]
  · cases machine.lineTaken? console <;> rfl
  · cases outcome : (machine.step console).outcome with
    | faulted fault =>
      rw [← address_of_faulted outcome]
      rfl
    | continued | halted => rfl

/-! ### Rows of cycles -/

theorem told_succ (machine : Machine) (console : κ) (count : Nat) :
    machine.told console (count + 1) =
      machine.events console ++
        (machine.step console).machine.told (machine.step console).console count := by
  -- Behind its first cycle the row is that of the machine and the console that this cycle leaves.
  rw [told, List.range_succ_eq_map, List.flatMap_cons, List.flatMap_map]
  simp only [machineAt_succ]
  rfl

theorem told_of_halted {machine : Machine} (halted : machine.isHalted = true) (console : κ)
    (count : Nat) : machine.told console count = [] := by
  rw [told, List.flatMap_eq_nil_iff]
  intro k _
  obtain ⟨rested, -⟩ := (rests_of_halted halted console).machineAt k
  rw [rested, events, if_pos halted]

/-- Behind a cycle that does not go on there is nothing to tell, as the machine is at rest. -/
theorem told_of_stopped {machine : Machine} {console : κ}
    (stopped : (machine.step console).outcome ≠ .continued) (count : Nat) :
    machine.told console (count + 1) = machine.events console := by
  rw [told_succ, told_of_halted (isHalted_of_step stopped), List.append_nil]

theorem traceFor_eq_told (limit : Nat) (machine : Machine) (console : κ) (trace : Array String) :
    (machine.traceFor limit console trace).toList =
      trace.toList ++ (machine.told console limit).map Event.render := by
  -- The tracer stops with the run; a row of cycles goes on, but has nothing more to tell.
  induction limit generalizing machine console trace with
  | zero => simp [traceFor, told]
  | succ limit ih =>
    cases state : machine.isHalted with
    | true => simp [traceFor, state, told_of_halted state]
    | false =>
      simp only [traceFor, state, cycleTrace_eq_events state]
      cases outcome : (machine.step console).outcome with
      | continued => simp [ih, told_succ]
      | halted | faulted => simp [told_of_stopped, outcome]

/-! ### Executions and faults -/

theorem isSome_fetched? {machine : Machine} {console : κ} (running : machine.isHalted = false)
    (unfaulted : (machine.step console).outcome.cause? = none) : machine.fetched?.isSome = true := by
  -- Only an instruction decides on an action; whatever else is fetched is refused.
  cases decided : machine.action? with
  | ok action =>
    obtain ⟨code, found, -⟩ := action?_eq_ok_iff.mp decided
    rw [fetched?_eq_some_iff.mpr found]
    rfl
  | error cause =>
    rw [step_of_error running decided] at unfaulted
    cases unfaulted

/-- A cycle that does not fault executes an instruction, and one only. -/
theorem countP_events {machine : Machine} {console : κ} (running : machine.isHalted = false)
    (unfaulted : (machine.step console).outcome.cause? = none) :
    (machine.events console).countP Event.isExecution = 1 := by
  rw [events, if_neg (by simp [running]), if_pos (isSome_fetched? running unfaulted), unfaulted]
  cases machine.lineTaken? console <;> rfl

/-- A fault is the last thing that there is to tell of a cycle. -/
theorem getLast?_events {machine : Machine} {console : κ} {fault : Fault}
    (faulted : (machine.step console).outcome = .faulted fault) :
    (machine.events console).getLast? = some (.faulted fault.address fault.cause) := by
  have running : machine.isHalted = false := by
    cases state : machine.isHalted with
    | false => rfl
    | true =>
      rw [step_of_halted state] at faulted
      cases faulted
  rw [events, if_neg (by simp [running]), faulted, address_of_faulted faulted]
  exact List.getLast?_concat

theorem countP_told {machine : Machine} {console : κ} {number : Nat}
    (running : machine.isHalted = false) (stops : machine.Stops console number .halted)
    {limit : Nat} (enough : number ≤ limit) :
    (machine.told console limit).countP Event.isExecution = number := by
  -- No cycle of a row that halts has faulted, so each of them adds one to the count.
  induction limit generalizing machine console number with
  | zero => exact absurd stops.positive (by omega)
  | succ limit ih =>
    rcases stops.one_or_succ with ⟨rfl, last⟩ | ⟨later, rfl, first, stops⟩
    · rw [told_of_stopped (by simp [last]), countP_events running (by rw [last]; rfl)]
    · rw [told_succ, List.countP_append, countP_events running (by rw [first]; rfl),
        ih (isHalted_of_continued first) stops (by omega), Nat.add_comm]

theorem getLast?_told {machine : Machine} {console : κ} {number : Nat} {fault : Fault}
    (stops : machine.Stops console number (.faulted fault)) {limit : Nat}
    (enough : number ≤ limit) :
    (machine.told console limit).getLast? = some (.faulted fault.address fault.cause) := by
  induction limit generalizing machine console number with
  | zero => exact absurd stops.positive (by omega)
  | succ limit ih =>
    rcases stops.one_or_succ with ⟨rfl, last⟩ | ⟨later, rfl, first, stops⟩
    · rw [told_of_stopped (by simp [last]), getLast?_events last]
    · -- What comes behind the first cycle is not empty, so the end of it is the end of all.
      rw [told_succ, List.getLast?_append, ih stops (by omega)]
      rfl

/-! ### Runs -/

theorem trace_eq_told (limit : Nat) (machine : Machine) (console : κ) :
    machine.trace limit console = (machine.restart.told console limit).map Event.render := by
  rw [trace, traceFor_eq_told]
  rfl

/-- A run that halts has as many executions to tell of as it counts cycles. -/
theorem countP_told_of_runFor {machine : Machine} {console : κ} {limit cycles : Nat}
    (halted : (machine.runFor limit console).ending = some (.halted cycles)) :
    (machine.restart.told console limit).countP Event.isExecution = cycles := by
  obtain ⟨number, within, outcome, stops, ending⟩ := exists_stops_within halted
  obtain ⟨rfl, rfl⟩ := Outcome.ending?_eq_halted_iff.mp ending
  exact countP_told rfl stops within

theorem getLast?_told_of_runFor {machine : Machine} {console : κ} {limit : Nat} {fault : Fault}
    (faulted : (machine.runFor limit console).ending = some (.faulted fault)) :
    (machine.restart.told console limit).getLast? =
      some (.faulted fault.address fault.cause) := by
  obtain ⟨number, within, outcome, stops, ending⟩ := exists_stops_within faulted
  obtain rfl := Outcome.ending?_eq_faulted_iff.mp ending
  exact getLast?_told stops within

end Machine

end Accumulator
