import Accumulator.Proofs.SingleLines

/-!
# Tracing a run

A run is traced if an option or a variable asks for it. That changes nothing else: standard output,
the exit code and the failure are those of the run without a trace. The trace itself is a function of
the program and of its console: what the load says, and then what the cycles have to tell
(`Session.told`). Main statement: `run_traced`.
-/
namespace Accumulator

namespace World

/-- The world with another value of the variable that asks for a trace. -/
def withVerbose (world : World) (setting : Option String) : World :=
  { world with
    environment := fun name =>
      if name = "ONEADDR_VERBOSE" then setting else world.environment name }

/-- The console of a run: standard input, or the lines of the file that takes its place. -/
def console (world : World) (options : RunOptions) : Except String Pipe :=
  match options.input with
  | none => .ok (Pipe.ofContent world.stdin)
  | some file => (world.readText file).map fun text => (Script.ofText text).toPipe

end World

namespace Session

/-- What there is to tell of a run: the messages of the load, and then its cycles. -/
def told (limit : Nat) (world : World) (path : String) (options : RunOptions) : List String :=
  match readSource world path with
  | .error _ => []
  | .ok source =>
    (Machine.ofSource source).2.trace ++
      match world.console options with
      | .error _ => []
      | .ok console => ((Machine.ofSource source).1.restart.told console limit).map Event.render

def isExecutionLine (line : String) : Bool := "execute".toList.isPrefixOf line.toList

/-! ### The parts of a run -/

section Parts

variable {world : World} {path source : String}

theorem run_of_unreadable {text : String} (unreadable : readSource world path = .error text)
    (limit : Nat) (options : RunOptions) :
    run limit world path options =
      after [targetMessage "Assembling" path] [] { failure := some (.message text) } := by
  rw [run, unreadable]

/-- What is said of a program that was loaded comes before what its run says, if it can be run. -/
theorem run_of_readable (readable : readSource world path = .ok source) (limit : Nat)
    (options : RunOptions) :
    run limit world path options =
      after [targetMessage "Assembling" path] []
        (after
          (rangeMessages (Machine.ofSource source).2 ++ [loadedMessage (Machine.ofSource source).2])
          (loadTrace (options.verbose || world.asksVerbose) (Machine.ofSource source).2)
          (match world.console options with
          | .error text => { failure := some (.message text) }
          | .ok console =>
            execute limit path (options.verbose || world.asksVerbose)
              (options.dump || world.asksDump) (Machine.ofSource source).1 console
              Pipe.output)) := by
  rw [run, readable, World.console]
  cases options.input with
  | none => rfl
  | some file =>
    dsimp only
    cases world.readText file with
    | error text => rfl
    | ok text =>
      -- A run cannot tell a script from the pipe with the same lines.
      simp only [Except.map, execute_toPipe]

end Parts

theorem run_trace (limit : Nat) (world : World) (path : String) (options : RunOptions) :
    (run limit world path options).trace =
      if options.verbose || world.asksVerbose then told limit world path options else [] := by
  -- What cannot be read is not loaded, and what has no console is not run.
  rw [told]
  cases readable : readSource world path with
  | error text => simp [run_of_unreadable readable, after]
  | ok source =>
    rw [run_of_readable readable]
    cases world.console options with
    | error text => simp [after, loadTrace]
    | ok console =>
      simp only [after, loadTrace, execute, Machine.trace_eq_told, List.nil_append]
      split <;> rfl

/-- Whether a run is traced shows in its trace only. -/
theorem run_withVerbose (limit : Nat) (world : World) (path : String) (options : RunOptions)
    (setting : Option String) (verbose : Bool) :
    (run limit (world.withVerbose setting) path { options with verbose }).lines =
        (run limit world path options).lines ∧
      (run limit (world.withVerbose setting) path { options with verbose }).failure =
        (run limit world path options).failure := by
  -- Neither the program nor the console nor the dump depends on who asks for a trace.
  have console : (world.withVerbose setting).console { options with verbose } =
    world.console options := rfl
  have dump : (world.withVerbose setting).asksDump = world.asksDump := rfl
  cases readable : readSource world path with
  | error text =>
    have unreadable : readSource (world.withVerbose setting) path = .error text := readable
    rw [run_of_unreadable readable, run_of_unreadable unreadable]
    exact ⟨rfl, rfl⟩
  | ok source =>
    have again : readSource (world.withVerbose setting) path = .ok source := readable
    rw [run_of_readable readable, run_of_readable again, console, dump]
    cases world.console options with
    | error text => exact ⟨rfl, rfl⟩
    | ok console => exact ⟨rfl, rfl⟩

/-! ### Lines -/

theorem isExecutionLine_render (event : Event) :
    isExecutionLine event.render = event.isExecution := by
  cases event <;> simp [isExecutionLine, Event.render, Event.isExecution, List.isPrefixOf]

/-- The last message of a load begins with a digit, the others with words of their own. -/
theorem isExecutionLine_of_mem_trace {report : Report} {line : String}
    (member : line ∈ report.trace) : isExecutionLine line = false := by
  simp only [Report.trace, List.mem_append, List.mem_map, List.mem_singleton] at member
  rcases member with ((⟨_, _, rfl⟩ | ⟨⟨_, _⟩, _, rfl⟩) | ⟨⟨_, _⟩, _, rfl⟩) | rfl
  · simp [isExecutionLine, List.isPrefixOf]
  · simp [isExecutionLine, List.isPrefixOf]
  · simp [isExecutionLine, List.isPrefixOf]
  · obtain ⟨digit, rest, digits⟩ :=
      List.exists_cons_of_ne_nil (Nat.toDigits_ne_nil : Nat.toDigits 10 report.loaded ≠ [])
    have decimal : digit.isDigit = true :=
      Nat.isDigit_of_mem_toDigits (by decide) (by decide) (digits ▸ List.mem_cons_self)
    have other : 'e' ≠ digit := by
      rintro rfl
      cases decimal
    simp [isExecutionLine, List.isPrefixOf, digits, other]

theorem oneLine_console {world : World} {options : RunOptions} {console : Pipe}
    (given : world.console options = .ok console) : console.OneLine := by
  unfold World.console at given
  split at given
  · cases given
    exact Pipe.oneLine_ofContent world.stdin
  next file =>
    obtain ⟨text, -, rfl⟩ := exists_of_map_eq_ok given
    exact Pipe.oneLine_toPipe text

theorem oneLine_of_mem_told {limit : Nat} {world : World} {path : String} {options : RunOptions}
    {line : String} (member : line ∈ told limit world path options) : Text.OneLine line := by
  unfold told at member
  split at member
  · cases member
  next source readable =>
    rcases List.mem_append.mp member with loaded | ran
    · exact Report.oneLine_of_mem_trace loaded
    · split at ran
      · cases ran
      next console given =>
        obtain ⟨event, inside, rfl⟩ := List.mem_map.mp ran
        have hold := (Machine.oneLine_ofSource source).restart Word.oneLine_inherited
        exact Machine.told_oneLine hold (oneLine_console given) inside

/-- The load tells of no execution. -/
theorem countP_told {limit : Nat} {world : World} {path source : String} {options : RunOptions}
    {console : Pipe} (readable : readSource world path = .ok source)
    (given : world.console options = .ok console) :
    (told limit world path options).countP isExecutionLine =
      ((Machine.ofSource source).1.restart.told console limit).countP Event.isExecution := by
  have loaded : (Machine.ofSource source).2.trace.countP isExecutionLine = 0 :=
    List.countP_eq_zero.mpr fun line member => by simp [isExecutionLine_of_mem_trace member]
  simp [told, readable, given, loaded, List.countP_map, Function.comp_def, isExecutionLine_render]

/-! ### Endings -/

theorem runFailure_eq_none_iff {ending : Option Ending} :
    runFailure ending = none ↔ ∃ cycles, ending = some (.halted cycles) := by
  rcases ending with _ | (cycles | fault) <;> simp [runFailure]

theorem runFailure_eq_fault_iff {ending : Option Ending} {fault : Fault} :
    runFailure ending = some (.fault fault) ↔ ending = some (.faulted fault) := by
  rcases ending with _ | (cycles | fault) <;> simp [runFailure]

/-- A run whose failure is no message has read its program and has a console. -/
theorem exists_console_of_run {limit : Nat} {world : World} {path : String} {options : RunOptions}
    (ended : ∀ text, (run limit world path options).failure ≠ some (.message text)) :
    ∃ source console, readSource world path = .ok source ∧ world.console options = .ok console := by
  -- Either of the two may be missing, and then a message says so.
  cases readable : readSource world path with
  | error text =>
    rw [run_of_unreadable readable] at ended
    exact absurd rfl (ended text)
  | ok source =>
    rw [run_of_readable readable] at ended
    cases given : world.console options with
    | error text =>
      rw [given] at ended
      exact absurd rfl (ended text)
    | ok console => exact ⟨source, console, rfl, rfl⟩

section Ended

variable {limit : Nat} {world : World} {path source : String} {options : RunOptions}
  {console : Pipe}

/-- What is printed of a run comes last. -/
theorem run_of_console (readable : readSource world path = .ok source)
    (given : world.console options = .ok console) :
    let finished := (Machine.ofSource source).1.runFor limit console
    (run limit world path options).failure = runFailure finished.ending ∧
      runLines path (options.dump || world.asksDump) finished.console.output.toList
          finished.machine finished.ending <:+
        (run limit world path options).lines := by
  intro finished
  rw [run_of_readable readable, given]
  exact ⟨rfl, (List.suffix_cons _ _).trans ((List.suffix_append _ _).trans (List.suffix_append _ _))⟩

theorem run_halted (quiet : (run limit world path options).failure = none) :
    ∃ cycles,
      [message "Halted" ("after " ++ toString cycles ++ " instructions"),
          targetMessage "Completed" path] <:+ (run limit world path options).lines ∧
        (told limit world path options).countP isExecutionLine = cycles := by
  obtain ⟨source, console, readable, given⟩ := exists_console_of_run (by rw [quiet]; nofun)
  obtain ⟨failure, last⟩ := run_of_console readable given
  obtain ⟨cycles, halted⟩ := runFailure_eq_none_iff.mp (failure.symm.trans quiet)
  rw [halted] at last
  -- The message counts the cycles of the run, the trace has an execution for each of them.
  have executions := Machine.countP_told_of_runFor halted
  exact ⟨cycles, (List.suffix_append _ _).trans last, (countP_told readable given).trans executions⟩

theorem run_faulted {fault : Fault}
    (failed : (run limit world path options).failure = some (.fault fault)) :
    [message "Faulted" ("at address " ++ toString fault.address)] <:+
        (run limit world path options).lines ∧
      [(Event.faulted fault.address fault.cause).render] <:+ told limit world path options := by
  obtain ⟨source, console, readable, given⟩ := exists_console_of_run (by rw [failed]; nofun)
  obtain ⟨failure, last⟩ := run_of_console readable given
  have faulted := runFailure_eq_fault_iff.mp (failure.symm.trans failed)
  rw [faulted] at last
  obtain ⟨earlier, events⟩ := List.getLast?_eq_some_iff.mp (Machine.getLast?_told_of_runFor faulted)
  refine ⟨(List.suffix_append _ _).trans last, ?_⟩
  simp only [told, readable, given, events, List.map_append, List.map_singleton]
  exact (List.suffix_append _ _).trans (List.suffix_append _ _)

end Ended

/-- A trace changes nothing but the trace: standard output, exit code and failure are the same with
it and without it. It tells, line by line, what the load left open and then the events of each cycle,
so a run that halts has as many lines of execution as its message counts instructions, and the last
line of a run that faults is the fault at the address in its message. -/
theorem run_traced (limit : Nat) (world : World) (path : String) (options : RunOptions) :
    let response := run limit world path options
    (∀ setting verbose,
      let other := run limit (world.withVerbose setting) path { options with verbose }
      other.stdout = response.stdout ∧ other.exitCode = response.exitCode ∧
        other.failure = response.failure) ∧
    ((options.verbose || world.asksVerbose) = false → response.trace = []) ∧
    ((options.verbose || world.asksVerbose) = true →
      response.trace = told limit world path options ∧
      (∀ line ∈ response.trace, '\n' ∉ line.toList) ∧
      (response.failure = none → ∃ cycles,
        [message "Halted" ("after " ++ toString cycles ++ " instructions"),
            targetMessage "Completed" path] <:+ response.lines ∧
          response.trace.countP isExecutionLine = cycles) ∧
      ∀ fault, response.failure = some (.fault fault) →
        [message "Faulted" ("at address " ++ toString fault.address)] <:+ response.lines ∧
          [(Event.faulted fault.address fault.cause).render] <:+ response.trace) := by
  have trace := run_trace limit world path options
  refine ⟨fun setting verbose => ?_, fun silent => ?_, fun asked => ?_⟩
  · -- Standard output is made of the lines, and the exit code of the failure.
    obtain ⟨lines, failure⟩ := run_withVerbose limit world path options setting verbose
    exact ⟨by simp only [Response.stdout, lines], by simp only [Response.exitCode, failure], failure⟩
  · simpa [silent] using trace
  · rw [if_pos asked] at trace
    rw [trace]
    exact ⟨rfl, fun line => oneLine_of_mem_told, run_halted, fun fault => run_faulted⟩

/-- A program that adds two lines, given two numbers and given one. -/
theorem run_traced_sum :
    let world (stdin : String) : World :=
      { read := fun _ => .ok (.text "lda stdin\nadd stdin\nhlt"), contains := fun _ => true,
        stdin := .text stdin }
    let halts := run 9 (world "4\n3\n") "sum.asm" { verbose := true }
    let faults := run 9 (world "4\nx\n") "sum.asm" { verbose := true }
    halts.trace =
        [ "3 instructions loaded",
          "fetch      AR=1 IR=lda 0", "increment  PC=2", "execute    IR=lda 0",
          "read       \"4\"",
          "fetch      AR=2 IR=add 0", "increment  PC=3", "execute    IR=add 0",
          "read       \"3\"",
          "fetch      AR=3 IR=hlt", "increment  PC=4", "execute    IR=hlt" ] ∧
      (∃ cycles,
        [message "Halted" ("after " ++ toString cycles ++ " instructions"),
            targetMessage "Completed" "sum.asm"] <:+ halts.lines ∧
          halts.trace.countP isExecutionLine = cycles) ∧
      [message "Faulted" "at address 2"] <:+ faults.lines ∧
      ["fault at 2: Value `x` is not a number."] <:+ faults.trace := by
  intro world halts faults
  have sum := run_traced 9 (world "4\n3\n") "sum.asm" { verbose := true }
  have wrong := run_traced 9 (world "4\nx\n") "sum.asm" { verbose := true }
  have halted : halts.failure = none := by decide +kernel
  have faulted : faults.failure =
    some (.fault ⟨2, .instruction ⟨.add, some (.literal 0)⟩, .nonNumeric (.text "x")⟩) := by
    decide +kernel
  obtain ⟨-, -, counted, -⟩ := sum.2.2 rfl
  obtain ⟨-, -, -, blamed⟩ := wrong.2.2 rfl
  exact ⟨by decide +kernel, counted halted, blamed _ faulted⟩

end Session

end Accumulator
