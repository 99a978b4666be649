import Accumulator.CommandLine.Session
import Accumulator.Proofs.Chomp
import Accumulator.Proofs.Lines

/-!
# Input from a pipe and input from a file

A pipe and a script of the same text give a line each at the same calls, and the pipe gives the
script's lines chomped (`ofContent_eq_toPipe`). The two differ where a line keeps a carriage return
in the script, which is where a second one stands before a line feed, or one at the end of the text
(`Text.PlainEndings`). For any other text a program cannot tell them apart. For these it can, but
only by what it prints and keeps as text: up to carriage returns at the ends of texts, all runs are
the same. Main statement: `runFor_piped`.
-/
namespace Accumulator

namespace Text

/-- Does the text have one carriage return at most before each line feed, and none at its end? -/
def PlainEndings (text : String) : Prop :=
  ¬ ['\r', '\r', '\n'] <:+: text.toList ∧ text.toList.getLast? ≠ some '\r'

instance (text : String) : Decidable (PlainEndings text) := inferInstanceAs (Decidable (_ ∧ _))

/-! ### Lines -/

theorem pieces_of_not_mem {line : List Char} (oneLine : '\n' ∉ line) :
    Pipe.pieces '\n' line = [line].filter fun rest => !rest.isEmpty := by
  rw [Pipe.pieces, List.splitOn_eq_singleton oneLine]
  cases line <;> simp

theorem pieces_append_newline {line : List Char} (oneLine : '\n' ∉ line) (rest : List Char) :
    Pipe.pieces '\n' (line ++ '\n' :: rest) = line :: Pipe.pieces '\n' rest := by
  have split : (line ++ '\n' :: rest).splitOn '\n' = line :: rest.splitOn '\n' :=
    List.splitOn_append_cons_self_of_not_mem oneLine rest
  obtain ⟨piece, pieces, shape⟩ := List.exists_cons_of_ne_nil (List.splitOn_ne_nil '\n' rest)
  simp only [Pipe.pieces, split, shape, List.getLast?_cons_cons, List.dropLast_cons_cons]
  split <;> rfl

theorem dropReturns_dropReturn (line : List Char) :
    Pipe.dropReturns (dropReturn line) = Pipe.dropReturns line := by
  unfold dropReturn
  split
  next returned =>
    -- The carriage return that is gone already would have been dropped first.
    obtain ⟨front, rfl⟩ := List.getLast?_eq_some_iff.mp returned
    rw [List.dropLast_concat, dropReturns_eq_rdropWhile, dropReturns_eq_rdropWhile,
      List.rdropWhile_concat_pos _ _ _ (by decide)]
  next => rfl

theorem dropReturns_pieces (s : List Char) :
    (Pipe.pieces '\n' s).map Pipe.dropReturns = (lines s).map Pipe.dropReturns := by
  induction s using line_induction with
  | last line oneLine => rw [pieces_of_not_mem oneLine, lines_of_not_mem oneLine]
  | terminated line rest oneLine ih =>
    rw [pieces_append_newline oneLine, lines_append_newline line rest oneLine, List.map_cons,
      List.map_cons, dropReturns_dropReturn, ih]

/-! ### Lines that end in a carriage return -/

theorem getLast?_dropReturn_iff {line : List Char} :
    (dropReturn line).getLast? = some '\r' ↔ ['\r', '\r'] <:+ line := by
  unfold dropReturn
  split
  next returned =>
    obtain ⟨front, rfl⟩ := List.getLast?_eq_some_iff.mp returned
    rw [List.dropLast_concat, List.getLast?_eq_some_iff]
    constructor
    · rintro ⟨before, rfl⟩
      exact ⟨before, by simp⟩
    · rintro ⟨before, same⟩
      have shorter : before ++ ['\r'] ++ ['\r'] = front ++ ['\r'] := by simpa using same
      exact ⟨before, (List.append_cancel_right shorter).symm⟩
  next other =>
    constructor
    · intro returned
      exact absurd returned other
    · rintro ⟨before, rfl⟩
      exact absurd (by simp) other

/-- Two carriage returns before a line feed are at the end of one line. -/
theorem infix_append_newline_iff {line rest : List Char} (oneLine : '\n' ∉ line) :
    ['\r', '\r', '\n'] <:+: line ++ '\n' :: rest ↔
      ['\r', '\r'] <:+ line ∨ ['\r', '\r', '\n'] <:+: rest := by
  constructor
  · rintro ⟨before, behind, same⟩
    have split : before ++ '\r' :: '\r' :: '\n' :: behind = line ++ '\n' :: rest := by
      simpa using same
    rcases List.append_eq_append_iff.mp split with ⟨more, rfl, back⟩ | ⟨more, rfl, back⟩
    · -- The three characters start in the line, so the line feed can only be the one behind it.
      match more with
      | [] => simp at back
      | [_] => simp at back
      | [_, _] =>
        obtain ⟨rfl, rfl, -⟩ : '\r' = _ ∧ '\r' = _ ∧ behind = rest := by simpa using back
        exact .inl ⟨before, rfl⟩
      | _ :: _ :: _ :: _ =>
        obtain ⟨-, -, rfl, -⟩ : _ ∧ _ ∧ '\n' = _ ∧ _ := by simpa using back
        exact absurd (by simp) oneLine
    · cases more with
      | nil => simp at back
      | cons _ more =>
        obtain ⟨-, rfl⟩ := List.cons.inj back
        exact .inr ⟨more, behind, by simp⟩
  · rintro (⟨before, rfl⟩ | ⟨before, behind, rfl⟩)
    · exact ⟨before, rest, by simp⟩
    · exact ⟨line ++ '\n' :: before, behind, by simp⟩

theorem plainEndings_iff {text : String} :
    PlainEndings text ↔ ∀ line ∈ lines text.toList, line.getLast? ≠ some '\r' := by
  unfold PlainEndings
  generalize text.toList = s
  induction s using line_induction with
  | last line oneLine =>
    -- Without a line feed there is one line, or none if the text is empty.
    have unbroken : ¬ ['\r', '\r', '\n'] <:+: line := by
      rintro ⟨before, behind, rfl⟩
      exact oneLine (by simp)
    rw [lines_of_not_mem oneLine]
    cases line <;> simp [unbroken]
  | terminated line rest oneLine ih =>
    rw [infix_append_newline_iff oneLine, lines_append_newline line rest oneLine,
      List.forall_mem_cons, ← ih, Ne, Ne, Ne, getLast?_dropReturn_iff, not_or, and_assoc]
    cases rest <;> simp [List.getLast?_cons_cons]

end Text

namespace Script

/-- The pipe with the lines of a script in it. -/
def toPipe (script : Script) : Pipe :=
  { input := script.input.map .ok, output := script.output }

theorem isView_toPipe : Console.IsView toPipe where
  answer script call := by
    obtain ⟨input, output⟩ := script
    match call with
    | none | some (.write _) => rfl
    | some .read => cases input <;> rfl
  after script call := by
    obtain ⟨input, output⟩ := script
    match call with
    | none | some (.write _) => rfl
    | some .read => cases input <;> rfl

theorem chomp_input (text : String) :
    (ofText text).chomp.input = Pipe.linesOfText text := by
  have pieces := congrArg (List.map String.ofList) (Text.dropReturns_pieces text.toList)
  rw [List.map_map, List.map_map] at pieces
  simpa [chomp, ofText, Pipe.linesOfText, Text.chomp, Function.comp_def] using pieces.symm

theorem chomp_input_iff {text : String} :
    (ofText text).chomp.input = (ofText text).input ↔ Text.PlainEndings text := by
  rw [Text.plainEndings_iff, chomp, ofText, List.map_map]
  simp [List.map_inj_left, Text.chomp_eq_self_iff]

/-- The lines of a text with plain endings are chomped from the start. -/
theorem chomp_ofText {text : String} (plain : Text.PlainEndings text) :
    (ofText text).chomp = ofText text := by
  have input : (ofText text).input.map Text.chomp = (ofText text).input := chomp_input_iff.mpr plain
  have output : (ofText text).output.map Text.chomp = (ofText text).output := Array.map_empty
  rw [chomp, input, output]

end Script

theorem Pipe.ofContent_eq_toPipe (text : String) :
    ofContent (.text text) = (Script.ofText text).chomp.toPipe := by
  rw [Script.toPipe, Script.chomp_input, ofContent]
  simp [Script.chomp, Script.ofText]

namespace Console

variable {κ μ : Type} [Console κ] [Console μ]

/-- What a read brings after this many reads. -/
def readAt (console : κ) : Nat → Except String (Option String)
  | 0 => (readLine console).1
  | k + 1 => readAt (readLine console).2 k

theorem readAt_view {view : κ → μ} (faithful : IsView view) (console : κ) (k : Nat) :
    readAt (view console) k = readAt console k := by
  induction k generalizing console with
  | zero =>
    have answer := faithful.answer console (some .read)
    simp only [answer?, Option.some.injEq, Answer.read.injEq] at answer
    exact answer
  | succ k ih =>
    have after : (readLine (view console)).2 = view (readLine console).2 :=
      faithful.after console (some .read)
    rw [readAt, after, ih, readAt]

theorem readAt_script (script : Script) (k : Nat) : readAt script k = .ok script.input[k]? := by
  obtain ⟨input, output⟩ := script
  induction k generalizing input with
  | zero => cases input <;> rfl
  | succ k ih =>
    cases input with
    | nil => exact ih []
    | cons line rest => exact ih rest

end Console

namespace Machine

variable {κ μ : Type} [Console κ] [Console μ]

theorem traceFor_view {view : κ → μ} (faithful : Console.IsView view) (limit : Nat)
    (machine : Machine) (console : κ) (trace : Array String) :
    machine.traceFor limit (view console) trace = machine.traceFor limit console trace := by
  induction limit generalizing machine console trace with
  | zero => rfl
  | succ limit ih =>
    simp only [traceFor, step_view faithful, Cycle.map]
    split
    · rfl
    · split
      · exact ih _ _ _
      · rfl

end Machine

theorem Session.execute_toPipe (limit : Nat) (path : String) (verbose dump : Bool)
    (machine : Machine) (script : Script) :
    execute limit path verbose dump machine script.toPipe Pipe.output =
      execute limit path verbose dump machine script Script.output := by
  have run : machine.runFor limit script.toPipe = (machine.runFor limit script).map Script.toPipe :=
    Machine.continueFor_view Script.isView_toPipe limit machine.restart script 0
  have trace : machine.trace limit script.toPipe = machine.trace limit script := by
    rw [Machine.trace, Machine.traceFor_view Script.isView_toPipe, Machine.trace]
  rw [execute, execute, run, trace]
  rfl

theorem Session.run_piped {text file : String} {world : World} (plain : Text.PlainEndings text)
    (limit : Nat) (path : String) (options : RunOptions) (found : world.readText file = .ok text) :
    run limit { world with stdin := .text text } path { options with input := none } =
      run limit world path { options with input := some file } := by
  -- Standard input is of no account until the program is there.
  have sources : readSource { world with stdin := .text text } path = readSource world path := rfl
  have verbose : World.asksVerbose { world with stdin := .text text } = world.asksVerbose := rfl
  have dump : World.asksDump { world with stdin := .text text } = world.asksDump := rfl
  simp only [run, sources, verbose, dump]
  cases readSource world path with
  | error message => rfl
  | ok source =>
    simp only [found, Pipe.ofContent_eq_toPipe, Script.chomp_ofText plain, execute_toPipe]

namespace Machine

theorem runFor_ofContent (limit : Nat) (machine : Machine) (text : String) :
    machine.runFor limit (Pipe.ofContent (.text text)) =
      (machine.runFor limit (Script.ofText text).chomp).map Script.toPipe := by
  rw [Pipe.ofContent_eq_toPipe]
  exact continueFor_view Script.isView_toPipe limit machine.restart _ 0

/-! ### A program that prints what it reads -/

/-- Reads a line, prints it, and starts again. -/
def echo : Machine where
  memory :=
    { cells :=
        #[ .unset, .instruction ⟨.lda, some (.literal 0)⟩, .instruction ⟨.sta, some (.literal 0)⟩,
           .instruction ⟨.br, some (.literal 1)⟩ ] }

theorem continueFor_echo {registers : Registers} (start : registers.pc = 1) (limit : Nat)
    (line : String) (rest : List String) (output : Array String) (done : Nat) :
    ∃ later : Registers, later.pc = 1 ∧
      continueFor (limit + 3) { echo with registers } (⟨line :: rest, output⟩ : Script) done =
        continueFor limit { echo with registers := later } ⟨rest, output.push line⟩ (done + 3) := by
  obtain ⟨pc, ar, ir, acc, b⟩ := registers
  cases start
  -- Neither the line nor the words left in the registers matter, so the three cycles compute.
  exact ⟨⟨1, some 3, .instruction ⟨.br, some (.literal 1)⟩, .text line, b⟩, rfl, rfl⟩

theorem output_echo {registers : Registers} (start : registers.pc = 1) (input : List String)
    (output : Array String) (done : Nat) :
    (continueFor (3 * input.length) { echo with registers } (⟨input, output⟩ : Script)
      done).console.output = output ++ input := by
  induction input generalizing registers output done with
  | nil => simp [continueFor]
  | cons line rest ih =>
    -- Three cycles for the first line, and the program is back at its start.
    obtain ⟨later, again, same⟩ := continueFor_echo start (3 * rest.length) line rest output done
    rw [List.length_cons, Nat.mul_succ, same, ih again]
    simp

/-- Printing all lines shows where they differ. -/
theorem plainEndings_of_runs {text : String}
    (same : ∀ limit machine, (runFor limit machine (Pipe.ofContent (.text text))).map Pipe.output =
      (runFor limit machine (Script.ofText text)).map Script.output) : Text.PlainEndings text := by
  have printed (script : Script) (fresh : script.output = #[]) :
      (echo.runFor (3 * script.input.length) script).console.output = script.input.toArray := by
    obtain ⟨input, output⟩ := script
    cases fresh
    exact (output_echo rfl input #[] 0).trans (by simp)
  -- Both have the same number of lines, so one limit is enough for both.
  have length : (Script.ofText text).chomp.input.length = (Script.ofText text).input.length :=
    List.length_map _
  have outputs := congrArg Run.console (same (3 * (Script.ofText text).input.length) echo)
  rw [runFor_ofContent] at outputs
  have outputs : (echo.runFor (3 * (Script.ofText text).input.length)
      (Script.ofText text).chomp).console.output =
    (echo.runFor (3 * (Script.ofText text).input.length) (Script.ofText text)).console.output :=
    outputs
  rw [printed _ rfl, ← length, printed _ Array.map_empty] at outputs
  exact Script.chomp_input_iff.mp (by simpa using outputs)

/-- A pipe and a script of one text end together, and the lines of the pipe are those of the script
without the carriage returns at their ends. No program can tell the two apart if and only if the
endings in the text are plain, and then a session answers in the same way for both. In any other
text programs can see these carriage returns and nothing else. -/
theorem runFor_piped (text : String) :
    (∀ k, Console.readAt (Pipe.ofContent (.text text)) k =
      (Console.readAt (Script.ofText text) k).map (Option.map Text.chomp)) ∧
    ((∀ k, Console.readAt (Pipe.ofContent (.text text)) k =
        Console.readAt (Script.ofText text) k) ↔ Text.PlainEndings text) ∧
    ((∀ limit machine, (runFor limit machine (Pipe.ofContent (.text text))).map Pipe.output =
        (runFor limit machine (Script.ofText text)).map Script.output) ↔ Text.PlainEndings text) ∧
    (∀ limit machine,
      let piped := runFor limit machine (Pipe.ofContent (.text text))
      let scripted := runFor limit machine (Script.ofText text)
      piped.machine.chomp = scripted.machine.chomp ∧
        piped.ending.map Ending.chomp = scripted.ending.map Ending.chomp ∧
        piped.console.output.map Text.chomp = scripted.console.output.map Text.chomp) ∧
    (Text.PlainEndings text →
      ∀ limit (world : World) path (options : RunOptions) file,
        world.readText file = .ok text →
          Session.run limit { world with stdin := .text text } path { options with input := none } =
            Session.run limit world path { options with input := some file }) := by
  have piped (k : Nat) : Console.readAt (Pipe.ofContent (.text text)) k =
      .ok (Script.ofText text).chomp.input[k]? := by
    rw [Pipe.ofContent_eq_toPipe, Console.readAt_view Script.isView_toPipe, Console.readAt_script]
  refine ⟨fun k => ?_, ?_, ⟨plainEndings_of_runs, fun plain limit machine => ?_⟩,
    fun limit machine => ?_, fun plain limit world path options file found => ?_⟩
  · rw [piped, Console.readAt_script]
    simp [Script.chomp, Except.map]
  · -- All reads are the same exactly if the lines are.
    rw [← Script.chomp_input_iff]
    simp only [piped, Console.readAt_script, Except.ok.injEq]
    exact List.ext_getElem?_iff.symm
  · rw [runFor_ofContent, Script.chomp_ofText plain]
    rfl
  · -- The pipe stands for the chomped script, and chomping once more changes nothing.
    have alike := runFor_chomp_congr limit (rfl : machine.chomp = _)
      (Script.chomp_chomp (Script.ofText text))
    rw [runFor_ofContent]
    exact ⟨congrArg Run.machine alike, congrArg Run.ending alike,
      congrArg (fun run => run.console.output) alike⟩
  · exact Session.run_piped plain limit path options found

/-- Text with line feeds, with carriage returns before them, with an empty line and with a last line
that nothing ends. -/
theorem runFor_piped_mixed :
    let text := "4\r\n\n\r\nx \r y"
    Text.PlainEndings text ∧ (Script.ofText text).input = ["4", "", "", "x \r y"] ∧
      ∀ k, Console.readAt (Pipe.ofContent (.text text)) k = Console.readAt (Script.ofText text) k :=
  have plain : Text.PlainEndings "4\r\n\n\r\nx \r y" := by decide +kernel
  ⟨plain, by decide +kernel, (runFor_piped _).2.1.mpr plain⟩

/-- A last line that ends in a carriage return, read and printed. -/
theorem output_unterminated :
    let machine := (ofSource "lda stdin\nsta stdout\nhlt").1
    let piped := machine.runFor 3 (Pipe.ofContent (.text "a\r"))
    let scripted := machine.runFor 3 (Script.ofText "a\r")
    piped.ending = some (.halted 3) ∧ scripted.ending = some (.halted 3) ∧
      piped.machine.registers.acc = .text "a" ∧ scripted.machine.registers.acc = .text "a\r" ∧
      piped.console.output = #["a"] ∧ scripted.console.output = #["a\r"] := by
  decide +kernel

end Machine

end Accumulator
