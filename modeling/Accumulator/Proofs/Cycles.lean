import Accumulator.Console.Script
import Accumulator.Proofs.Traffic

/-!
# Runs, cycle by cycle

The cycles that a run performs can be performed one at a time, each on the machine and the console
that the one before left (`Machine.cycleAt`). A run resets the registers, counts its cycles and
returns early at a halt or a fault; a row of single cycles goes on, but a machine that has stopped
does nothing any more. The counter has 64 bits, so what a run returns is compared below
`UInt64.size` cycles. Main statement: `returns_iff_stops`.
-/
namespace Accumulator

variable {κ : Type}

/-- How a run ends whose last cycle, counted from 1, had this number and this outcome. -/
def Outcome.ending? (number : Nat) : Outcome → Option Ending
  | .continued => none
  | .halted => some (.halted number)
  | .faulted fault => some (.faulted fault)

theorem Outcome.ending?_eq_halted_iff {number cycles : Nat} {outcome : Outcome} :
    outcome.ending? number = some (.halted cycles) ↔ outcome = .halted ∧ number = cycles := by
  cases outcome <;> simp [ending?]

theorem Outcome.ending?_eq_faulted_iff {number : Nat} {outcome : Outcome} {fault : Fault} :
    outcome.ending? number = some (.faulted fault) ↔ outcome = .faulted fault := by
  cases outcome <;> simp [ending?]

theorem Outcome.ne_continued_of_ending? {number : Nat} {outcome : Outcome} {ending : Ending}
    (ends : outcome.ending? number = some ending) : outcome ≠ .continued := by
  rintro rfl
  cases ends

theorem Effect.finish_continued_iff (effect : Effect κ) (address : Nat) :
    (effect.finish address).outcome = .continued ↔
      (effect.finish address).machine.registers.pc ≠ 0 := by
  cases failure : effect.failure with
  | none =>
    rw [finish_of_success failure]
    by_cases stopped : effect.machine.registers.pc = 0
    · simp [Machine.isHalted, stopped]
    · simp [Machine.isHalted, stopped]
  | some cause =>
    -- A fault is no way to go on, and it leaves 0 in PC.
    rw [finish_of_failure failure]
    simp

namespace Machine

variable [Console κ]

/-- The cycle with this number, counted from 0, of a row of cycles. -/
def cycleAt (machine : Machine) (console : κ) : Nat → Cycle κ
  | 0 => machine.step console
  | k + 1 => (machine.cycleAt console k).machine.step (machine.cycleAt console k).console

/-- The machine before the cycle with this number. -/
def machineAt (machine : Machine) (console : κ) : Nat → Machine
  | 0 => machine
  | k + 1 => (machine.cycleAt console k).machine

/-- The console before the cycle with this number. -/
def consoleAt (machine : Machine) (console : κ) : Nat → κ
  | 0 => console
  | k + 1 => (machine.cycleAt console k).console

/-- Does a row of cycles go on up to the one with this number, counted from 1, which has this
outcome? -/
structure Stops (machine : Machine) (console : κ) (number : Nat) (outcome : Outcome) : Prop where
  positive : 1 ≤ number
  before : ∀ k < number - 1, (machine.cycleAt console k).outcome = .continued
  last : (machine.cycleAt console (number - 1)).outcome = outcome

/-- Has the machine stopped for good? -/
structure Rests (machine : Machine) (console : κ) : Prop where
  halted : machine.registers.pc = 0
  idle : ∀ k, machine.cycleAt console k = { machine, console, heard := none, outcome := .halted }

/-- Does a run end so, under every limit that is large enough? -/
def Returns (machine : Machine) (console : κ) (ending : Ending) (after : Machine) (left : κ) :
    Prop :=
  ∃ enough, ∀ limit, enough ≤ limit →
    machine.runFor limit console = { machine := after, console := left, ending := ending }

/-- Does a run end so in fewer cycles than this? A run counts its cycles in 64 bits. -/
def ReturnsBefore (machine : Machine) (console : κ) (bound : Nat) (ending : Ending)
    (after : Machine) (left : κ) : Prop :=
  ∃ enough < bound, ∀ limit, enough ≤ limit →
    machine.runFor limit console = { machine := after, console := left, ending := ending }

/-! ### Rows of cycles -/

theorem step_continued_iff (machine : Machine) (console : κ) :
    (machine.step console).outcome = .continued ↔
      (machine.step console).machine.registers.pc ≠ 0 := by
  unfold step
  split
  next halted =>
    have zero : machine.registers.pc = 0 := by simpa [isHalted] using halted
    simp [zero]
  next => exact Effect.finish_continued_iff _ _

theorem isHalted_of_step {machine : Machine} {console : κ}
    (stopped : (machine.step console).outcome ≠ .continued) :
    (machine.step console).machine.isHalted = true := by
  have zero := mt (step_continued_iff machine console).mpr stopped
  simpa [isHalted] using zero

theorem isHalted_of_continued {machine : Machine} {console : κ}
    (continued : (machine.step console).outcome = .continued) :
    (machine.step console).machine.isHalted = false := by
  simpa [isHalted] using (step_continued_iff machine console).mp continued

theorem cycleAt_eq_step (machine : Machine) (console : κ) (k : Nat) :
    machine.cycleAt console k =
      (machine.machineAt console k).step (machine.consoleAt console k) := by
  cases k <;> rfl

theorem machineAt_eq_step (machine : Machine) (console : κ) (k : Nat) :
    machine.machineAt console (k + 1) =
      ((machine.machineAt console k).step (machine.consoleAt console k)).machine := by
  rw [machineAt, cycleAt_eq_step]

theorem cycleAt_succ (machine : Machine) (console : κ) (k : Nat) :
    machine.cycleAt console (k + 1) =
      (machine.step console).machine.cycleAt (machine.step console).console k := by
  induction k with
  | zero => rfl
  | succ k ih => rw [cycleAt, ih, cycleAt]

theorem cycleAt_view {μ : Type} [Console μ] {view : κ → μ} (faithful : Console.IsView view)
    (machine : Machine) (console : κ) (k : Nat) :
    machine.cycleAt (view console) k = (machine.cycleAt console k).map view := by
  induction k with
  | zero => exact step_view faithful machine console
  | succ k ih =>
    rw [cycleAt, ih]
    exact step_view faithful _ _

theorem machineAt_view {μ : Type} [Console μ] {view : κ → μ} (faithful : Console.IsView view)
    (machine : Machine) (console : κ) (k : Nat) :
    machine.machineAt (view console) k = machine.machineAt console k ∧
      machine.consoleAt (view console) k = view (machine.consoleAt console k) := by
  cases k with
  | zero => exact ⟨rfl, rfl⟩
  | succ k =>
    rw [machineAt, consoleAt, cycleAt_view faithful]
    exact ⟨rfl, rfl⟩

theorem rests_of_halted {machine : Machine} (halted : machine.isHalted = true) (console : κ) :
    machine.Rests console where
  halted := by simpa [isHalted] using halted
  idle k := by
    induction k with
    | zero => rw [cycleAt, step_of_halted halted]
    | succ k ih => rw [cycleAt, ih, step_of_halted halted]

/-- Whatever the last cycle was, unless it continued, there is nothing left to do. -/
theorem rests_of_cycleAt {machine : Machine} {console : κ} {k : Nat}
    (stopped : (machine.cycleAt console k).outcome ≠ .continued) :
    (machine.cycleAt console k).machine.Rests (machine.cycleAt console k).console := by
  have halted : (machine.cycleAt console k).machine.isHalted = true := by
    cases k with
    | zero => exact isHalted_of_step stopped
    | succ k => exact isHalted_of_step stopped
  exact rests_of_halted halted _

/-! ### Rows that stop -/

theorem stops_one {machine : Machine} {console : κ} :
    machine.Stops console 1 (machine.step console).outcome :=
  ⟨Nat.le_refl 1, fun k first => absurd first (by omega), rfl⟩

/-- The last cycle of a row is one earlier in the row behind its first cycle. -/
theorem cycleAt_last (machine : Machine) (console : κ) {later : Nat} (positive : 1 ≤ later) :
    machine.cycleAt console (later + 1 - 1) =
      (machine.step console).machine.cycleAt (machine.step console).console (later - 1) := by
  have shifted : later + 1 - 1 = later - 1 + 1 := by omega
  rw [shifted, cycleAt_succ]

/-- A row that stops can begin a cycle earlier. -/
theorem Stops.succ {machine : Machine} {console : κ} {later : Nat} {outcome : Outcome}
    (first : (machine.step console).outcome = .continued)
    (stops : (machine.step console).machine.Stops (machine.step console).console later outcome) :
    machine.Stops console (later + 1) outcome where
  positive := Nat.succ_pos later
  before k earlier := by
    cases k with
    | zero => exact first
    | succ k =>
      rw [cycleAt_succ]
      exact stops.before k (by omega)
  last := by
    rw [cycleAt_last _ _ stops.positive]
    exact stops.last

/-- A row that stops does so in its first cycle, or behind it. -/
theorem Stops.one_or_succ {machine : Machine} {console : κ} {number : Nat} {outcome : Outcome}
    (stops : machine.Stops console number outcome) :
    (number = 1 ∧ (machine.step console).outcome = outcome) ∨
      ∃ later, number = later + 1 ∧ (machine.step console).outcome = .continued ∧
        (machine.step console).machine.Stops (machine.step console).console later outcome := by
  have positive := stops.positive
  obtain ⟨later, rfl⟩ : ∃ later, number = later + 1 := ⟨number - 1, by omega⟩
  cases later with
  | zero => exact .inl ⟨rfl, stops.last⟩
  | succ later =>
    have positive : 1 ≤ later + 1 := Nat.succ_pos later
    refine .inr ⟨later + 1, rfl, stops.before 0 (by omega), positive, fun k earlier => ?_, ?_⟩
    · rw [← cycleAt_succ]
      exact stops.before (k + 1) (by omega)
    · rw [← cycleAt_last _ _ positive]
      exact stops.last

/-- A row goes on through its first cycles, or one of them is its last. -/
theorem continued_or_stops (machine : Machine) (console : κ) (count : Nat) :
    (∀ k < count, (machine.cycleAt console k).outcome = .continued) ∨
      ∃ number ≤ count, ∃ outcome, outcome ≠ .continued ∧
        machine.Stops console number outcome := by
  induction count with
  | zero => exact .inl fun k first => absurd first (by omega)
  | succ count ih =>
    rcases ih with before | ⟨number, within, stopped⟩
    · by_cases next : (machine.cycleAt console count).outcome = .continued
      · refine .inl fun k earlier => ?_
        rcases Nat.lt_succ_iff_lt_or_eq.mp earlier with earlier | rfl
        · exact before k earlier
        · exact next
      · exact .inr ⟨count + 1, Nat.le_refl _, _, next, Nat.succ_pos count, before, rfl⟩
    · exact .inr ⟨number, by omega, stopped⟩

/-! ### Runs -/

theorem continueFor_of_stops {machine : Machine} {console : κ} {number : Nat} {outcome : Outcome}
    (stops : machine.Stops console number outcome) (stopped : outcome ≠ .continued) {limit : Nat}
    (enough : number ≤ limit) (done : Nat) :
    machine.continueFor limit console done =
      { machine := (machine.cycleAt console (number - 1)).machine
        console := (machine.cycleAt console (number - 1)).console
        ending := outcome.ending? (done + number) } := by
  -- By induction on the limit, of which every cycle takes one away.
  induction limit generalizing machine console number done with
  | zero => exact absurd stops.positive (by omega)
  | succ limit ih =>
    rcases stops.one_or_succ with ⟨rfl, last⟩ | ⟨later, rfl, first, stops⟩
    · rw [continueFor]
      cases outcome with
      | continued => exact absurd rfl stopped
      | halted => simp [last, cycleAt, Outcome.ending?]
      | faulted fault => simp [last, cycleAt, Outcome.ending?]
    · -- What is done and what is left to do add up to the same number.
      have counted : done + (later + 1) = done + 1 + later := by omega
      rw [continueFor, cycleAt_last _ _ stops.positive, counted]
      simp only [first]
      exact ih stops (by omega) (done + 1)

theorem stops_of_continueFor {machine : Machine} {console : κ} {limit done : Nat}
    (ended : (machine.continueFor limit console done).ending ≠ none) :
    ∃ number outcome, number ≤ limit ∧ outcome ≠ .continued ∧
      machine.Stops console number outcome := by
  induction limit generalizing machine console done with
  | zero => exact absurd rfl ended
  | succ limit ih =>
    cases first : (machine.step console).outcome with
    | continued =>
      simp only [continueFor, first] at ended
      obtain ⟨number, outcome, within, stopped, stops⟩ := ih ended
      exact ⟨number + 1, outcome, by omega, stopped, stops.succ first⟩
    | halted => exact ⟨1, .halted, by omega, by simp, first ▸ stops_one⟩
    | faulted fault => exact ⟨1, .faulted fault, by omega, by simp, first ▸ stops_one⟩

/-- A row behind its first cycle is the row that begins there. -/
theorem machineAt_succ (machine : Machine) (console : κ) (k : Nat) :
    machine.machineAt console (k + 1) =
        (machine.step console).machine.machineAt (machine.step console).console k ∧
      machine.consoleAt console (k + 1) =
        (machine.step console).machine.consoleAt (machine.step console).console k := by
  rw [machineAt, consoleAt]
  cases k with
  | zero => exact ⟨rfl, rfl⟩
  | succ k =>
    rw [cycleAt_succ]
    exact ⟨rfl, rfl⟩

theorem Rests.machineAt {machine : Machine} {console : κ} (rests : machine.Rests console) (k : Nat) :
    machine.machineAt console k = machine ∧ machine.consoleAt console k = console := by
  cases k with
  | zero => exact ⟨rfl, rfl⟩
  | succ k =>
    rw [Machine.machineAt, consoleAt, rests.idle]
    exact ⟨rfl, rfl⟩

/-- What a run leaves is what a row of so many cycles leaves: those behind the end of the run find the
machine at rest. -/
theorem continueFor_eq_machineAt (limit : Nat) (machine : Machine) (console : κ) (done : Nat) :
    (machine.continueFor limit console done).machine = machine.machineAt console limit ∧
      (machine.continueFor limit console done).console = machine.consoleAt console limit := by
  induction limit generalizing machine console done with
  | zero => exact ⟨rfl, rfl⟩
  | succ limit ih =>
    obtain ⟨machines, consoles⟩ := machine.machineAt_succ console limit
    rw [machines, consoles]
    cases outcome : (machine.step console).outcome with
    | continued =>
      simp only [continueFor, outcome]
      exact ih _ _ _
    | halted | faulted fault =>
      have stopped : (machine.step console).outcome ≠ .continued := by simp [outcome]
      have rests := rests_of_halted (isHalted_of_step stopped) (machine.step console).console
      obtain ⟨rested, left⟩ := rests.machineAt limit
      simp only [continueFor, outcome]
      exact ⟨rested.symm, left.symm⟩

theorem runFor_eq_machineAt (limit : Nat) (machine : Machine) (console : κ) :
    (machine.runFor limit console).machine = machine.restart.machineAt console limit ∧
      (machine.runFor limit console).console = machine.restart.consoleAt console limit :=
  continueFor_eq_machineAt limit machine.restart console 0

/-- A limit that is large enough does not show in the run. -/
theorem runFor_of_stops {machine : Machine} {console : κ} {number : Nat} {outcome : Outcome}
    (stops : machine.restart.Stops console number outcome) (stopped : outcome ≠ .continued)
    {limit : Nat} (enough : number ≤ limit) :
    machine.runFor limit console =
      { machine := (machine.restart.cycleAt console (number - 1)).machine
        console := (machine.restart.cycleAt console (number - 1)).console
        ending := outcome.ending? number } := by
  rw [runFor, continueFor_of_stops stops stopped enough, Nat.zero_add]

/-- A run that ends is a row that stops within the limit. -/
theorem exists_stops_within {machine : Machine} {console : κ} {limit : Nat} {ending : Ending}
    (ended : (machine.runFor limit console).ending = some ending) :
    ∃ number ≤ limit, ∃ outcome, machine.restart.Stops console number outcome ∧
      outcome.ending? number = some ending := by
  have returned : (machine.runFor limit console).ending ≠ none := by
    rw [ended]
    nofun
  obtain ⟨number, outcome, within, stopped, stops⟩ := stops_of_continueFor returned
  rw [runFor_of_stops stops stopped within] at ended
  exact ⟨number, within, outcome, stops, ended⟩

/-- A run faults in one of its cycles. -/
theorem exists_faulted_of_runFor {machine : Machine} {console : κ} {limit : Nat} {fault : Fault}
    (faulted : (machine.runFor limit console).ending = some (.faulted fault)) :
    ∃ k, (machine.restart.cycleAt console k).outcome = .faulted fault := by
  obtain ⟨number, -, outcome, stops, ending⟩ := exists_stops_within faulted
  obtain rfl := Outcome.ending?_eq_faulted_iff.mp ending
  exact ⟨number - 1, stops.last⟩

theorem ReturnsBefore.returns {machine : Machine} {console : κ} {bound : Nat} {ending : Ending}
    {after : Machine} {left : κ} (run : machine.ReturnsBefore console bound ending after left) :
    machine.Returns console ending after left := by
  obtain ⟨enough, -, run⟩ := run
  exact ⟨enough, run⟩

theorem returnsBefore_iff {machine : Machine} {console : κ} {bound : Nat} {ending : Ending}
    {after : Machine} {left : κ} :
    machine.ReturnsBefore console bound ending after left ↔
      ∃ number < bound, ∃ outcome, machine.restart.Stops console number outcome ∧
        outcome.ending? number = some ending ∧
        after = (machine.restart.cycleAt console (number - 1)).machine ∧
        left = (machine.restart.cycleAt console (number - 1)).console := by
  constructor
  · rintro ⟨enough, below, run⟩
    -- The least limit will do: the row stops within it, hence below the bound.
    have returned := run enough (Nat.le_refl enough)
    have ended : (machine.runFor enough console).ending = some ending := by rw [returned]
    obtain ⟨number, within, outcome, stops, ends⟩ := exists_stops_within ended
    rw [runFor_of_stops stops (Outcome.ne_continued_of_ending? ends) within,
      Run.mk.injEq] at returned
    obtain ⟨after, left, -⟩ := returned
    exact ⟨number, by omega, outcome, stops, ends, after.symm, left.symm⟩
  · rintro ⟨number, below, outcome, stops, ends, rfl, rfl⟩
    refine ⟨number, below, fun limit enough => ?_⟩
    rw [runFor_of_stops stops (Outcome.ne_continued_of_ending? ends) enough, ends]

theorem returns_iff {machine : Machine} {console : κ} {ending : Ending} {after : Machine}
    {left : κ} :
    machine.Returns console ending after left ↔
      ∃ number outcome, machine.restart.Stops console number outcome ∧
        outcome.ending? number = some ending ∧
        after = (machine.restart.cycleAt console (number - 1)).machine ∧
        left = (machine.restart.cycleAt console (number - 1)).console := by
  constructor
  · rintro ⟨enough, run⟩
    -- A run that returns does so before some bound.
    obtain ⟨number, -, row⟩ := returnsBefore_iff.mp ⟨enough, Nat.lt_succ_self enough, run⟩
    exact ⟨number, row⟩
  · rintro ⟨number, row⟩
    exact (returnsBefore_iff.mpr ⟨number, Nat.lt_succ_self number, row⟩).returns

/-- A run is a row of single cycles from fresh registers, up to the first that does not go on. Both
sides end before the counter of the run is full. -/
theorem returns_iff_stops (machine : Machine) (console : κ) :
    let fresh : Machine :=
      { machine with
        registers := { pc := 1, ar := none, ir := .unset, acc := .unset, b := .unset } }
    (∀ number after left,
      machine.ReturnsBefore console UInt64.size (.halted number) after left ↔
        number < UInt64.size ∧ fresh.Stops console number .halted ∧
          after = (fresh.cycleAt console (number - 1)).machine ∧
          left = (fresh.cycleAt console (number - 1)).console) ∧
    (∀ fault after left,
      machine.ReturnsBefore console UInt64.size (.faulted fault) after left ↔
        ∃ number < UInt64.size, fresh.Stops console number (.faulted fault) ∧
          after = (fresh.cycleAt console (number - 1)).machine ∧
          left = (fresh.cycleAt console (number - 1)).console) ∧
    (∀ ending after left, machine.Returns console ending after left → after.Rests left) ∧
    ((machine.step console).outcome = .continued ↔
      (machine.step console).machine.registers.pc ≠ 0) := by
  intro fresh
  -- The registers that a run starts from are the ones written out above.
  have restarted : fresh = machine.restart := rfl
  rw [restarted]
  refine ⟨fun number after left => ?_, fun fault after left => ?_, fun ending after left run => ?_,
    step_continued_iff machine console⟩
  · rw [returnsBefore_iff]
    constructor
    · rintro ⟨counted, below, outcome, stops, ends, after, left⟩
      -- The number that the run reports is the number of its last cycle.
      obtain ⟨rfl, rfl⟩ := Outcome.ending?_eq_halted_iff.mp ends
      exact ⟨below, stops, after, left⟩
    · rintro ⟨below, stops, after, left⟩
      exact ⟨number, below, .halted, stops, rfl, after, left⟩
  · rw [returnsBefore_iff]
    constructor
    · rintro ⟨number, below, outcome, stops, ends, after, left⟩
      obtain rfl := Outcome.ending?_eq_faulted_iff.mp ends
      exact ⟨number, below, stops, after, left⟩
    · rintro ⟨number, below, stops, after, left⟩
      exact ⟨number, below, .faulted fault, stops, rfl, after, left⟩
  · obtain ⟨number, outcome, stops, ends, rfl, rfl⟩ := returns_iff.mp run
    apply rests_of_cycleAt
    rw [stops.last]
    exact Outcome.ne_continued_of_ending? ends

/-- Six cycles, the last of which halts, on a machine that an earlier run has stopped. -/
theorem returns_iff_stops_countdown :
    let machine : Machine :=
      { (ofSource "set 2\nagain, dec\nbrp again\nhlt").1 with
        registers := { pc := 0, ar := some 4, ir := .text "hlt", acc := .integer 7 } }
    let fresh : Machine :=
      { machine with
        registers := { pc := 1, ar := none, ir := .unset, acc := .unset, b := .unset } }
    let last := fresh.cycleAt ({} : Script) 5
    machine.ReturnsBefore ({} : Script) UInt64.size (.halted 6) last.machine last.console ∧
      last.machine.Rests last.console := by
  intro machine fresh last
  have stops : fresh.Stops ({} : Script) 6 .halted :=
    ⟨by decide, by decide +kernel, by decide +kernel⟩
  obtain ⟨halts, -, rests, -⟩ := returns_iff_stops machine ({} : Script)
  have run := (halts 6 last.machine last.console).mpr ⟨by decide, stops, rfl, rfl⟩
  exact ⟨run, rests _ _ _ run.returns⟩

end Machine

end Accumulator
