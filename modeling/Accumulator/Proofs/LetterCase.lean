import Accumulator.Console.Interrupted
import Accumulator.Console.Pipe
import Accumulator.Console.Script
import Accumulator.Proofs.Blur
import Accumulator.Proofs.LowerCase

/-!
# Letter case

Two sources that differ only in the case of ASCII letters give the same program up to the case of
the names that are left over, and these names become texts when the program runs. Letter case is a
blur of texts: no integer and no label depends on it. So the two programs take the same cycles and
print the same up to letter case, on every console that pays no attention to the case of what is
written to it (`Console.CaseBlind`). Main statement: `load_letterCase`.
-/
namespace Accumulator

/-! ### Letter case as a blur -/

namespace Text

theorem lowercase_append (s t : String) : lowercase (s ++ t) = lowercase s ++ lowercase t := by
  rw [← String.toList_inj]
  simp only [toList_lowercase, String.toList_append, List.map_append]

theorem natural?_map_toLower (s : List Char) : natural? (s.map Char.toLower) = natural? s := by
  cases numeral : isNumeral s with
  | true => rw [map_toLower_of_isDigit (isDigit_of_isNumeral numeral)]
  | false => rw [natural?, isNumeral_map_toLower, natural?, numeral]; rfl

theorem integer?_of_unsigned {c : Char} (notMinus : c ≠ '-') (notPlus : c ≠ '+') (s : List Char) :
    integer? (c :: s) = (natural? (c :: s)).map fun n => (n : Int) := by
  rw [integer?]
  · intro digits same
    exact notMinus (List.cons.inj same).1
  · intro digits same
    exact notPlus (List.cons.inj same).1

theorem integer?_map_toLower (s : List Char) : integer? (s.map Char.toLower) = integer? s := by
  cases s with
  | nil => rfl
  | cons c s =>
    have minus := toLower_eq_iff (by decide : inRanges letterRanges '-' = false) c
    have plus := toLower_eq_iff (by decide : inRanges letterRanges '+' = false) c
    by_cases negative : c = '-'
    · rw [List.map_cons, minus.mpr negative, negative, integer?, integer?, natural?_map_toLower]
    · by_cases positive : c = '+'
      · rw [List.map_cons, plus.mpr positive, positive, integer?, integer?, natural?_map_toLower]
      · rw [integer?_of_unsigned negative positive, ← natural?_map_toLower, List.map_cons,
          integer?_of_unsigned (mt minus.mp negative) (mt plus.mp positive)]

theorem trim_map_toLower (s : List Char) : trim (s.map Char.toLower) = (trim s).map Char.toLower := by
  have blanks : isBlank ∘ Char.toLower = isBlank := funext isBlank_toLower
  simp only [trim, List.dropWhile_map, blanks, ← List.map_reverse]

end Text

/-- All of a text but the case of its ASCII letters. -/
def letterCase : Blur where
  text := Text.lowercase
  name := Text.lowercase
  integer?_text s := by
    rw [Word.integer?, Word.integer?, Text.toList_lowercase, Text.trim_map_toLower,
      Text.integer?_map_toLower]
  lowercase_name := Text.lowercase_lowercase
  text_name := Text.lowercase_lowercase
  text_operand opcode s := by
    rw [Text.lowercase_append, Text.lowercase_lowercase, ← Text.lowercase_append]

/-! ### Loaded programs -/

theorem Operand.ofToken_lowercase (symbols : SymbolTable) (token : String) :
    ofToken symbols (Text.lowercase token) = letterCase.operand (ofToken symbols token) := by
  cases numeral : Text.isNumeral token.toList with
  | true =>
    have kept : Text.lowercase token = token := by
      rw [← String.toList_inj, Text.toList_lowercase,
        Text.map_toLower_of_isDigit (Text.isDigit_of_isNumeral numeral)]
    rw [kept, ofToken, natural?_eq_of_isNumeral numeral]
    dsimp only
    split <;> rfl
  | false =>
    have letters : Text.isNumeral (Text.lowercase token).toList = false := by
      rw [Text.toList_lowercase, Text.isNumeral_map_toLower, numeral]
    have found : symbols.get? (Text.lowercase token) = symbols.get? token := by
      rw [SymbolTable.get?, Text.lowercase_lowercase, SymbolTable.get?]
    rw [ofToken, natural?_eq_none letters, ofToken, natural?_eq_none numeral, found]
    cases symbols.get? token <;> rfl

namespace Code

/-- The code with the names that are left over in lower case. -/
def lower (code : Code) : Code :=
  code.map fun (line, instruction) => (line, letterCase.instruction instruction)

theorem memory_lower (code : Code) : code.lower.memory = letterCase.memory code.memory := by
  apply Memory.ext_toList
  simp only [Blur.memory, Array.toList_map, toList_memory, lower, List.map_cons, List.map_map]
  rfl

theorem unresolved_lower (code : Code) :
    code.lower.unresolved = code.unresolved.map fun (line, name) => (line, Text.lowercase name) := by
  rw [unresolved, lower, unresolved, List.filterMap_map, List.map_filterMap]
  apply List.filterMap_congr
  rintro ⟨line, opcode, operand⟩ -
  rcases operand with _ | (_ | _ | _) <;> rfl

theorem outOfRange_lower (code : Code) : code.lower.outOfRange = code.outOfRange := by
  rw [outOfRange, lower, outOfRange, List.filterMap_map]
  apply List.filterMap_congr
  rintro ⟨line, opcode, operand⟩ -
  rcases operand with _ | (_ | _ | _) <;> rfl

end Code

theorem Instruction.ofStatement_lower (symbols : SymbolTable) (statement : Statement) :
    ofStatement symbols statement.lower = letterCase.instruction (ofStatement symbols statement) := by
  obtain ⟨label, opcode, token⟩ := statement
  cases token with
  | none => rfl
  | some token =>
    simp only [ofStatement, Statement.lower, Option.map_some, Operand.ofToken_lowercase,
      Blur.instruction]

theorem Listing.code_lower (listing : Listing) : listing.lower.code = listing.code.lower := by
  rw [code, symbols_lower, code, Code.lower, lower, List.map_map, List.map_map]
  apply List.map_congr_left
  rintro ⟨line, statement⟩ -
  exact congrArg (Prod.mk line) (Instruction.ofStatement_lower listing.symbols statement)

/-- What the images of two sources have in common that differ in letter case only. -/
structure Image.SameButCase (image other : Image) : Prop where
  symbols : image.symbols = other.symbols
  loaded : image.report.loaded = other.report.loaded
  skipped : image.report.skipped = other.report.skipped
  outOfRange : image.report.outOfRange = other.report.outOfRange
  unresolved :
    image.report.unresolved.map (fun (line, name) => (line, Text.lowercase name)) =
      other.report.unresolved.map fun (line, name) => (line, Text.lowercase name)
  memory : letterCase.memory image.memory = letterCase.memory other.memory

theorem Listing.image_sameButCase {listing other : Listing} (lowered : listing.lower = other.lower) :
    listing.image.SameButCase other.image := by
  have code : listing.code.lower = other.code.lower := by rw [← code_lower, lowered, code_lower]
  have malformed : listing.malformed = other.malformed := (Listing.mk.inj lowered).2
  rw [image_eq, image_eq]
  constructor
  case symbols => rw [← symbols_lower, lowered, symbols_lower]
  case loaded =>
    have lengths := congrArg List.length code
    simpa only [Code.lower, List.length_map, length_code] using lengths
  case skipped => exact malformed
  case outOfRange => rw [← Code.outOfRange_lower, code, Code.outOfRange_lower]
  case unresolved => rw [← Code.unresolved_lower, code, Code.unresolved_lower]
  case memory => rw [← Code.memory_lower, code, Code.memory_lower]

theorem assemble_sameButCase {first second : String}
    (same : Text.lowercase first = Text.lowercase second) :
    (assemble first).SameButCase (assemble second) := by
  apply Listing.image_sameButCase
  rw [← Listing.ofSource_lowercase, same, Listing.ofSource_lowercase]

/-! ### Consoles -/

variable {κ : Type} [Console κ]

/-- Do consoles that are alike give the same answers, and stay alike, whatever the case of what is
written to them? -/
structure Console.CaseBlind (alike : κ → κ → Prop) : Prop where
  read : ∀ console twin, alike console twin →
    (readLine console).1 = (readLine twin).1 ∧ alike (readLine console).2 (readLine twin).2
  write : ∀ console twin text other, alike console twin →
    Text.lowercase text = Text.lowercase other →
    (writeLine console text).1 = (writeLine twin other).1 ∧
      alike (writeLine console text).2 (writeLine twin other).2

namespace Console.CaseBlind

variable {alike : κ → κ → Prop}

theorem traffic (blind : CaseBlind alike) {console twin : κ} (start : alike console twin)
    {call counter : Option Call} (calls : call.map letterCase.call = counter.map letterCase.call) :
    answer? console call = answer? twin counter ∧
      alike (after console call) (after twin counter) := by
  rcases Blur.call_eq_cases calls with rfl | ⟨text, other, rfl, rfl, texts⟩
  · rcases call with _ | (_ | text)
    · exact ⟨rfl, start⟩
    · obtain ⟨answers, left⟩ := blind.read console twin start
      exact ⟨by rw [answer?, answers, answer?], left⟩
    · obtain ⟨answers, left⟩ := blind.write console twin text text start rfl
      exact ⟨by rw [answer?, answers, answer?], left⟩
  · obtain ⟨answers, left⟩ := blind.write console twin text other start texts
    exact ⟨by rw [answer?, answers, answer?], left⟩

theorem isAlike (blind : CaseBlind alike) : Console.Alike letterCase alike where
  answer console twin call counter start calls := by rw [(blind.traffic start calls).1]
  after console twin call counter start calls := (blind.traffic start calls).2

end Console.CaseBlind

/-- Scripts with the same lines to read that were written the same up to letter case. -/
def Script.SameButCase (script other : Script) : Prop :=
  script.input = other.input ∧
    script.output.map Text.lowercase = other.output.map Text.lowercase

theorem Script.caseBlind : Console.CaseBlind Script.SameButCase where
  read := by
    rintro ⟨input, output⟩ ⟨_, written⟩ ⟨rfl, same⟩
    cases input <;> exact ⟨rfl, rfl, same⟩
  write := by
    rintro ⟨input, output⟩ ⟨_, written⟩ text other ⟨rfl, same⟩ texts
    refine ⟨rfl, rfl, ?_⟩
    simp only [Console.writeLine, Array.map_push, texts]
    rw [same]

def Pipe.SameButCase (pipe other : Pipe) : Prop :=
  pipe.input = other.input ∧ pipe.output.map Text.lowercase = other.output.map Text.lowercase

theorem Pipe.caseBlind : Console.CaseBlind Pipe.SameButCase where
  read := by
    rintro ⟨input, output⟩ ⟨_, written⟩ ⟨rfl, same⟩
    rcases input with _ | ⟨_ | _, rest⟩ <;> exact ⟨rfl, rfl, same⟩
  write := by
    rintro ⟨input, output⟩ ⟨_, written⟩ text other ⟨rfl, same⟩ texts
    refine ⟨rfl, rfl, ?_⟩
    simp only [Console.writeLine, Array.map_push, texts]
    rw [same]

/-- Interrupted consoles that fail in the same calls, around consoles that are alike. -/
def Interrupted.SameButCase (alike : κ → κ → Prop) (console twin : Interrupted κ) : Prop :=
  alike console.inside twin.inside ∧ console.failingReads = twin.failingReads ∧
    console.failingWrites = twin.failingWrites ∧ console.reads = twin.reads ∧
    console.writes = twin.writes

theorem Interrupted.caseBlind {alike : κ → κ → Prop} (blind : Console.CaseBlind alike) :
    Console.CaseBlind (Interrupted.SameButCase alike) where
  read := by
    rintro ⟨inside, failing, _, count, _⟩ ⟨other, _, _, _, _⟩ ⟨start, rfl, rfl, rfl, rfl⟩
    simp only [Console.readLine]
    cases failing.lookup count with
    | some message => exact ⟨rfl, start, rfl, rfl, rfl, rfl⟩
    | none =>
      obtain ⟨answers, left⟩ := blind.read inside other start
      exact ⟨answers, left, rfl, rfl, rfl, rfl⟩
  write := by
    rintro ⟨inside, _, failing, _, count⟩ ⟨other, _, _, _, _⟩ text twin ⟨start, rfl, rfl, rfl, rfl⟩ texts
    simp only [Console.writeLine]
    cases failing.lookup count with
    | some message => exact ⟨rfl, start, rfl, rfl, rfl, rfl⟩
    | none =>
      obtain ⟨answers, left⟩ := blind.write inside other text twin start texts
      exact ⟨answers, left, rfl, rfl, rfl, rfl⟩

/-! ### Runs -/

/-- What two cycles have in common in which nothing but letter case differs. -/
structure Cycle.SameButCase (alike : κ → κ → Prop) (cycle other : Cycle κ) : Prop where
  pc : cycle.machine.registers.pc = other.machine.registers.pc
  ar : cycle.machine.registers.ar = other.machine.registers.ar
  acc : cycle.machine.registers.acc.integer? = other.machine.registers.acc.integer?
  cell : ∀ address,
    (cycle.machine.memory.get address).integer? = (other.machine.memory.get address).integer?
  machine : letterCase.machine cycle.machine = letterCase.machine other.machine
  heard : cycle.heard = other.heard
  outcome : letterCase.outcome cycle.outcome = letterCase.outcome other.outcome
  console : alike cycle.console other.console

variable {alike : κ → κ → Prop}

theorem cycleAt_sameButCase (blind : Console.CaseBlind alike) {console twin : κ}
    (start : alike console twin) {machine other : Machine}
    (same : letterCase.machine machine = letterCase.machine other) (k : Nat) :
    (machine.cycleAt console k).SameButCase alike (other.cycleAt twin k) := by
  obtain ⟨cycles, left⟩ := Blur.cycleAt_alike blind.isAlike same start k
  have machines : letterCase.machine (machine.cycleAt console k).machine =
      letterCase.machine (other.cycleAt twin k).machine := congrArg Cycle.machine cycles
  obtain ⟨-, -, registers⟩ := Blur.machine_eq_iff.mp machines
  obtain ⟨pc, ar, -, acc, -⟩ := Blur.registers_eq_iff.mp registers
  -- The blur only says that what is heard is the same up to case; but a read is answered the same.
  have heard : (machine.cycleAt console k).heard = (other.cycleAt twin k).heard := by
    have calls := Blur.call?_congr (Blur.machineAt_alike blind.isAlike same start k)
    have before := Blur.consoleAt_alike blind.isAlike same start k
    rw [Machine.cycleAt_eq_step, Machine.cycleAt_eq_step, Machine.step_heard, Machine.step_heard,
      (blind.traffic before calls).1]
  exact
    { pc, ar, heard
      acc := Blur.integer?_congr acc
      cell := fun address => Blur.integer?_congr (Blur.get_congr machines address)
      machine := machines
      outcome := congrArg Cycle.outcome cycles
      console := left }

theorem machine_load_letterCase {first second : String}
    (same : Text.lowercase first = Text.lowercase second) (machine : Machine) :
    letterCase.machine (machine.load first).1 = letterCase.machine (machine.load second).1 := by
  have images := assemble_sameButCase same
  rw [Machine.load_eq_assemble, Machine.load_eq_assemble]
  generalize assemble first = image at images ⊢
  generalize assemble second = other at images ⊢
  exact Blur.machine_eq_iff.mpr ⟨images.memory, images.symbols, rfl⟩

/-- Letter case never matters to a program. Sources that differ in nothing else are loaded the same,
and then they call their consoles the same, go through the same cycles and end the same, all up to
the case of texts and of the names that are left over. -/
theorem load_letterCase {first second : String}
    (same : Text.lowercase first = Text.lowercase second) (machine : Machine)
    (blind : Console.CaseBlind alike) {console twin : κ} (start : alike console twin) :
    let left := (machine.load first).1
    let right := (machine.load second).1
    (assemble first).SameButCase (assemble second) ∧
      (∀ k, (left.machineAt console k).call?.map letterCase.call =
          (right.machineAt twin k).call?.map letterCase.call ∧
        (left.cycleAt console k).SameButCase alike (right.cycleAt twin k)) ∧
      ∀ limit, letterCase.run (left.runFor limit console) = letterCase.run (right.runFor limit twin) ∧
        alike (left.runFor limit console).console (right.runFor limit twin).console := by
  intro left right
  have loaded : letterCase.machine left = letterCase.machine right := machine_load_letterCase same machine
  refine ⟨assemble_sameButCase same, fun k => ⟨?_, cycleAt_sameButCase blind start loaded k⟩, fun limit => ?_⟩
  · exact Blur.call?_congr (Blur.machineAt_alike blind.isAlike loaded start k)
  · exact Blur.runFor_alike blind.isAlike limit loaded start

/-- Both programs print a name as it is written in their source, and fault over another one. -/
theorem load_letterCase_hello :
    let first := "loop, LDA stdin\nset Hello\nsta Stdout\nbr NOWHERE\n"
    let second := "Loop, lda STDIN\nSET hELLO\nsta stdout\nbr nowhere\n"
    let script : Script := { input := ["7"] }
    let left := (Machine.load {} first).1.runFor 9 script
    let right := (Machine.load {} second).1.runFor 9 script
    Text.lowercase first = Text.lowercase second ∧
      letterCase.run left = letterCase.run right ∧ left.console.SameButCase right.console ∧
      left.console = ⟨[], #["Hello"]⟩ ∧ right.console = ⟨[], #["hELLO"]⟩ ∧
      left.ending = some (.faulted
        ⟨4, .instruction ⟨.br, some (.label "NOWHERE")⟩, .undefinedLabel "NOWHERE"⟩) := by
  intro first second script left right
  have same : Text.lowercase first = Text.lowercase second := by
    rw [← String.toList_inj, Text.toList_lowercase, Text.toList_lowercase]
    decide +kernel
  have start : script.SameButCase script := ⟨rfl, rfl⟩
  obtain ⟨-, -, runs⟩ := load_letterCase same {} Script.caseBlind start
  exact ⟨same, (runs 9).1, (runs 9).2, by decide +kernel⟩

end Accumulator
