import Accumulator.Console.Pipe
import Accumulator.Console.Script
import Accumulator.Proofs.Blur
import Mathlib.Data.List.DropRight

/-!
# Carriage returns at the ends of texts

To chomp a text is to take away the carriage returns that it ends with; to chomp a machine, a script
or what a run leaves is to chomp every text in it. A chomped text stands for the same integer and
names the same label, so chomping is a blur of texts (`carriageReturns`), and runs that start the
same up to these carriage returns end so too (`runFor_chomp_congr`).
-/
namespace Accumulator

namespace Text

/-- The text without the carriage returns at its end. -/
def chomp (text : String) : String := String.ofList (Pipe.dropReturns text.toList)

theorem dropReturns_eq_rdropWhile (s : List Char) :
    Pipe.dropReturns s = s.rdropWhile (· == '\r') := rfl

theorem dropReturns_eq_self_iff {s : List Char} :
    Pipe.dropReturns s = s ↔ s.getLast? ≠ some '\r' := by
  rw [dropReturns_eq_rdropWhile, List.rdropWhile_eq_self_iff]
  rcases s.eq_nil_or_concat' with rfl | ⟨front, c, rfl⟩
  · simp
  · simp

@[simp] theorem dropReturns_dropReturns (s : List Char) :
    Pipe.dropReturns (Pipe.dropReturns s) = Pipe.dropReturns s :=
  List.rdropWhile_idempotent _ _

@[simp] theorem chomp_chomp (text : String) : chomp (chomp text) = chomp text := by
  simp [chomp]

theorem chomp_eq_self_iff {text : String} :
    chomp text = text ↔ text.toList.getLast? ≠ some '\r' := by
  rw [← dropReturns_eq_self_iff, chomp, ← String.toList_inj, String.toList_ofList]

/-- Blanks at the end are trimmed anyway. -/
theorem trim_append_blanks {blanks : List Char} (blank : ∀ c ∈ blanks, isBlank c = true)
    (s : List Char) : trim (s ++ blanks) = trim s := by
  -- If only blanks are left of the text, those behind it go with them; otherwise they are the first
  -- to be dropped from the end.
  have front : blanks.dropWhile isBlank = [] := List.dropWhile_eq_nil_iff.mpr blank
  have back : blanks.reverse.dropWhile isBlank = [] :=
    List.dropWhile_eq_nil_iff.mpr fun c member => blank c (List.mem_reverse.mp member)
  unfold trim
  rw [List.dropWhile_append, front]
  split
  next empty => rw [List.isEmpty_iff.mp empty]
  next => rw [List.reverse_append, List.dropWhile_append, back, List.isEmpty_nil, if_pos rfl]

theorem trim_chomp (text : String) : trim (chomp text).toList = trim text.toList := by
  have blank : ∀ c ∈ text.toList.rtakeWhile (· == '\r'), isBlank c = true := by
    intro c member
    have same : c = '\r' := by simpa using List.mem_rtakeWhile_imp member
    rw [same]
    decide
  rw [chomp, String.toList_ofList, dropReturns_eq_rdropWhile, ← trim_append_blanks blank,
    List.rdropWhile_append_rtakeWhile]

end Text

/-! ### Chomped data -/

def Word.chomp : Word → Word
  | .text content => .text (Text.chomp content)
  | .unset => .unset
  | .integer value => .integer value
  | .instruction code => .instruction code

def Memory.chomp (memory : Memory) : Memory :=
  ⟨memory.cells.map Word.chomp, by rw [Array.size_map]; exact memory.nonempty⟩

def Registers.chomp (registers : Registers) : Registers :=
  { registers with
    ir := registers.ir.chomp
    acc := registers.acc.chomp
    b := registers.b.chomp }

def Machine.chomp (machine : Machine) : Machine :=
  { machine with memory := machine.memory.chomp, registers := machine.registers.chomp }

def Cause.chomp : Cause → Cause
  | .illegalInstruction word => .illegalInstruction word.chomp
  | .nonNumeric word => .nonNumeric word.chomp
  | cause => cause

def Fault.chomp (fault : Fault) : Fault :=
  { fault with word := fault.word.chomp, cause := fault.cause.chomp }

def Ending.chomp : Ending → Ending
  | .halted cycles => .halted cycles
  | .faulted fault => .faulted fault.chomp

def Script.chomp (script : Script) : Script :=
  { input := script.input.map Text.chomp, output := script.output.map Text.chomp }

def Run.chomp (run : Run Script) : Run Script :=
  { machine := run.machine.chomp
    console := run.console.chomp
    ending := run.ending.map Ending.chomp }

@[simp] theorem Script.chomp_chomp (script : Script) : script.chomp.chomp = script.chomp := by
  simp [chomp, Function.comp_def]

/-! ### Chomping as a blur -/

/-- All of a text but the carriage returns at its end. No name is chomped: no name has one. -/
def carriageReturns : Blur where
  text := Text.chomp
  name := id
  integer?_text s := by rw [Word.integer?, Word.integer?, Text.trim_chomp]
  lowercase_name _ := rfl
  text_name _ := rfl
  text_operand _ _ := rfl

namespace carriageReturns

theorem instruction_eq (code : Instruction) : carriageReturns.instruction code = code := by
  obtain ⟨opcode, operand⟩ := code
  rcases operand with _ | (_ | _ | _) <;> rfl

theorem word_eq (word : Word) : carriageReturns.word word = word.chomp := by
  cases word with
  | instruction code => exact congrArg Word.instruction (instruction_eq code)
  | unset | integer | text => rfl

theorem memory_eq (memory : Memory) : carriageReturns.memory memory = memory.chomp := by
  simp only [Blur.memory, Memory.chomp, funext word_eq]

theorem registers_eq (registers : Registers) :
    carriageReturns.registers registers = registers.chomp := by
  simp only [Blur.registers, Registers.chomp, word_eq]

theorem machine_eq (machine : Machine) : carriageReturns.machine machine = machine.chomp := by
  simp only [Blur.machine, Machine.chomp, memory_eq, registers_eq]

theorem cause_eq (cause : Cause) : carriageReturns.cause cause = cause.chomp := by
  cases cause with
  | illegalInstruction word => exact congrArg Cause.illegalInstruction (word_eq word)
  | nonNumeric word => exact congrArg Cause.nonNumeric (word_eq word)
  | _ => rfl

theorem ending_eq (ending : Ending) : carriageReturns.ending ending = ending.chomp := by
  cases ending with
  | halted cycles => rfl
  | faulted fault => simp only [Blur.ending, Blur.fault, Ending.chomp, Fault.chomp, word_eq, cause_eq]

end carriageReturns

namespace Script

theorem readLine_chomp (script : Script) :
    Console.readLine script.chomp =
      Prod.map (Except.map (Option.map Text.chomp)) chomp (Console.readLine script) := by
  obtain ⟨input, output⟩ := script
  cases input <;> rfl

theorem chomp_writeLine (script : Script) (text : String) :
    (Console.writeLine script text).2.chomp =
      (Console.writeLine script.chomp (Text.chomp text)).2 := by
  simp only [Console.writeLine, chomp, Array.map_push]

/-- Scripts that are the same but for carriage returns give, and take, the same lines but for them. -/
theorem alike_chomp :
    Console.Alike carriageReturns fun (script another : Script) => script.chomp = another.chomp where
  answer := by
    intro script another call counter start calls
    rcases Blur.call_eq_cases calls with rfl | ⟨text, other, rfl, rfl, -⟩
    · rcases call with _ | (_ | text)
      · rfl
      · have lines := congrArg (fun script => (Console.readLine script).1) start
        rw [readLine_chomp, readLine_chomp] at lines
        exact congrArg (fun line => some (Answer.read line)) lines
      · rfl
    · rfl
  after := by
    intro script another call counter start calls
    rcases Blur.call_eq_cases calls with rfl | ⟨text, other, rfl, rfl, texts⟩
    · rcases call with _ | (_ | text)
      · exact start
      · have left := congrArg (fun script => (Console.readLine script).2) start
        rw [readLine_chomp, readLine_chomp] at left
        exact left
      · exact (chomp_writeLine script text).trans (start ▸ (chomp_writeLine another text).symm)
    · have chomped : Text.chomp text = Text.chomp other := texts
      simp only [Console.after]
      rw [chomp_writeLine, start, chomped, chomp_writeLine]

end Script

/-- Runs that start alike end alike. -/
theorem Machine.runFor_chomp_congr (limit : Nat) {machine other : Machine}
    {script another : Script} (machines : machine.chomp = other.chomp)
    (scripts : script.chomp = another.chomp) :
    (machine.runFor limit script).chomp = (other.runFor limit another).chomp := by
  rw [← carriageReturns.machine_eq, ← carriageReturns.machine_eq] at machines
  obtain ⟨runs, left⟩ := Blur.runFor_alike Script.alike_chomp limit machines scripts
  have ends : carriageReturns.machine (machine.runFor limit script).machine =
      carriageReturns.machine (other.runFor limit another).machine := congrArg Run.machine runs
  have endings : Option.map carriageReturns.ending (machine.runFor limit script).ending =
      Option.map carriageReturns.ending (other.runFor limit another).ending :=
    congrArg Run.ending runs
  rw [carriageReturns.machine_eq, carriageReturns.machine_eq] at ends
  rw [funext carriageReturns.ending_eq] at endings
  rw [Run.chomp, ends, left, endings, Run.chomp]

end Accumulator
