import Accumulator.Proofs.Linking
import Accumulator.Proofs.Warnings

/-!
# What a check prints

A check goes by line numbers: the assembly reports them, and the check cuts the source up again to
show the lines that they stand for. Both count alike, so a check says of every line and of every
operand what is wrong with it, once and with the right number, and says that nothing is wrong exactly
if nothing is (`Faultless`). Main statement: `check_reports`.
-/
namespace Accumulator

namespace Grammar

/-- Does the line say something that is not of the grammar? -/
def Odd (line : List Char) : Prop := ¬ Remark line ∧ ∀ statement, ¬ Derives line statement

instance (line : List Char) : Decidable (Odd line) := decidable_of_iff _ read_eq_malformed_iff

end Grammar

namespace Session

def skippedMessage (line : List Char) (number : Nat) : String :=
  message "Skipped" ("line " ++ toString number ++ ": `" ++ String.ofList (Text.trim line) ++ "`")

def rangeMessage (number : Nat) (digits : String) : String :=
  message "Range" ("line " ++ toString number ++ ": literal `" ++ digits ++ "` is out of range")

def successMessage : String := message "Success" "no problems found!"

/-- What is to be said of the lines, the first of which has number 1. -/
def skippedMessages (lines : List (List Char)) : List String :=
  (lines.zipIdx 1).filterMap fun (line, number) =>
    if Grammar.Odd line then some (skippedMessage line number) else none

/-- What is to be said of the operands of these statements, the first of which is at address 1. -/
def operandMessages (select : Operand → Option String) (say : Nat → String → String)
    (statements : List (Nat × Statement)) (memory : Memory) : List String :=
  (statements.zipIdx 1).filterMap fun (entry, address) =>
    ((memory.operandAt address).bind select).map (say entry.1)

end Session

/-- Is every line of the source a remark or a statement, and is every operand an address? -/
structure Faultless (source : String) : Prop where
  lines : ∀ line ∈ Text.lines source.toList,
    Grammar.Remark line ∨ ∃ statement, Grammar.Derives line statement
  operands : ∀ address operand, (assemble source).memory.operandAt address = some operand →
    ∃ target, operand = .literal target

/-! ### Lines -/

namespace Listing

/-- Every line is a statement, malformed or blank, and it is only one of them. -/
theorem length_ofLines (lines : List Line) (number : Nat) :
    (ofLines lines number).statements.length + (ofLines lines number).malformed.length +
      lines.countP (· = .blank) = lines.length := by
  induction lines with
  | nil => rfl
  | cons line lines ih =>
    have one : (ofLines [line] number).statements.length +
        (ofLines [line] number).malformed.length + (if line = .blank then 1 else 0) = 1 := by
      cases line <;> rfl
    rw [ofLines_cons]
    simp only [append, raise, List.length_append, List.length_map, List.countP_cons,
      List.length_cons, decide_eq_true_eq]
    omega

end Listing

namespace Session

/-- The line that is looked up for a malformed line is that line. -/
theorem skippedMessages_eq (source : String) :
    skippedMessages (Text.lines source.toList) =
      (Listing.ofSource source).malformed.map fun number =>
        skippedMessage ((Text.lines source.toList).toArray.getD (number - 1) []) number := by
  generalize lines_eq : Text.lines source.toList = lines
  rw [Listing.ofSource, lines_eq]
  simp only [Listing.ofLines, List.zipIdx_map, List.filterMap_map, List.map_filterMap,
    skippedMessages]
  apply List.filterMap_congr
  rintro ⟨line, number⟩ member
  -- Numbers begin with 1 and positions with 0, in the report as in the lookup.
  obtain ⟨-, found⟩ := List.mk_mem_zipIdx_iff_le_and_getElem?_sub.mp member
  have odd : (Line.read line).isMalformed = true ↔ Grammar.Odd line := by
    rw [isMalformed_iff, Grammar.read_eq_malformed_iff, Grammar.Odd]
  by_cases skipped : Grammar.Odd line
  · simp [skipped, odd, found]
  · simp [skipped, odd]

/-- What the report says of the operands is what there is to say of them in memory. -/
theorem operandMessages_eq (listing : Listing) (select : Operand → Option String)
    (say : Nat → String → String) :
    operandMessages select say listing.statements listing.code.memory =
      (listing.code.filterMap (Code.selected select)).map fun (number, text) => say number text := by
  -- What is selected from the code is selected from the cells that the code was put into.
  rw [List.map_filterMap]
  refine (listing.filterMap_code fun number operand =>
    (operand.bind select).map (say number)).symm.trans (List.filterMap_congr fun entry _ => ?_)
  rw [Code.selected, Option.map_map]
  rfl

end Session

/-! ### Clean reports -/

theorem mem_lines_iff {source : String} {line : List Char} :
    line ∈ Text.lines source.toList ↔ ∃ number, LineAt source number line := by
  rw [List.mem_iff_getElem?]
  constructor
  · rintro ⟨k, found⟩
    exact ⟨k + 1, Nat.succ_pos k, found⟩
  · rintro ⟨number, -, found⟩
    exact ⟨number - 1, found⟩

/-- The operands in memory are those of the code. -/
theorem Code.exists_operandAt_iff {code : Code} {operand : Operand} :
    (∃ address, code.memory.operandAt address = some operand) ↔
      ∃ number instruction, (number, instruction) ∈ code ∧
        instruction.operand = some operand := by
  constructor
  · rintro ⟨address, held⟩
    unfold Memory.operandAt at held
    split at held
    next instruction found =>
      obtain ⟨-, -, number, member⟩ := mem_of_get_memory found
      exact ⟨number, instruction, member, held⟩
    next => cases held
  · rintro ⟨number, instruction, member, held⟩
    obtain ⟨k, found⟩ := List.mem_iff_getElem?.mp member
    exact ⟨k + 1, by rw [Memory.operandAt, get_memory_succ, found]; exact held⟩

theorem malformed_eq_nil_iff {source : String} :
    (Listing.ofSource source).malformed = [] ↔
      ∀ line ∈ Text.lines source.toList,
        Grammar.Remark line ∨ ∃ statement, Grammar.Derives line statement := by
  simp only [List.eq_nil_iff_forall_not_mem, (Listing.skips_ofSource source).mem_iff, mem_lines_iff]
  constructor
  · rintro none line ⟨number, position⟩
    by_contra odd
    obtain ⟨inked, underived⟩ := not_or.mp odd
    exact none number ⟨line, position, inked, not_exists.mp underived⟩
  · rintro fine number ⟨line, position, inked, underived⟩
    rcases fine line ⟨number, position⟩ with blank | ⟨statement, derived⟩
    · exact inked blank
    · exact underived statement derived

theorem Code.unresolved_outOfRange_eq_nil_iff {code : Code} :
    code.unresolved = [] ∧ code.outOfRange = [] ↔
      ∀ address operand, code.memory.operandAt address = some operand →
        ∃ target, operand = .literal target := by
  simp only [List.eq_nil_iff_forall_not_mem, Prod.forall, mem_unresolved_iff, mem_outOfRange_iff]
  constructor
  · rintro ⟨resolved, inRange⟩ address operand held
    obtain ⟨number, instruction, member, same⟩ := exists_operandAt_iff.mp ⟨address, held⟩
    cases operand with
    | literal target => exact ⟨target, rfl⟩
    | label name => exact absurd ⟨instruction, member, same⟩ (resolved number name)
    | outOfRange digits => exact absurd ⟨instruction, member, same⟩ (inRange number digits)
  · intro literal
    constructor
    · rintro number name ⟨instruction, member, same⟩
      obtain ⟨address, held⟩ := exists_operandAt_iff.mpr ⟨number, instruction, member, same⟩
      obtain ⟨_, clash⟩ := literal address _ held
      cases clash
    · rintro number digits ⟨instruction, member, same⟩
      obtain ⟨address, held⟩ := exists_operandAt_iff.mpr ⟨number, instruction, member, same⟩
      obtain ⟨_, clash⟩ := literal address _ held
      cases clash

theorem memory_assemble (source : String) :
    (assemble source).memory = (Listing.ofSource source).code.memory := by
  rw [assemble, Listing.image_eq]

theorem report_assemble (source : String) :
    (assemble source).report =
      { loaded := (Listing.ofSource source).statements.length
        skipped := (Listing.ofSource source).malformed
        unresolved := (Listing.ofSource source).code.unresolved
        outOfRange := (Listing.ofSource source).code.outOfRange } := by
  rw [assemble, Listing.image_eq]

theorem faultless_iff {source : String} :
    Faultless source ↔
      (Listing.ofSource source).malformed = [] ∧ (Listing.ofSource source).code.unresolved = [] ∧
        (Listing.ofSource source).code.outOfRange = [] := by
  rw [malformed_eq_nil_iff, Code.unresolved_outOfRange_eq_nil_iff, ← memory_assemble]
  exact ⟨fun ⟨lines, operands⟩ => ⟨lines, operands⟩, fun ⟨lines, operands⟩ => ⟨lines, operands⟩⟩

theorem isClean_iff {source : String} :
    (assemble source).report.isClean = true ↔ Faultless source := by
  rw [report_assemble, faultless_iff]
  simp [Report.isClean, and_assoc]

instance (source : String) : Decidable (Faultless source) := decidable_of_iff _ isClean_iff

namespace Session

/-! ### Subjects -/

/-- The subject of a message stands in its first twelve characters. -/
theorem take_message {subject : String} (short : subject.length ≤ 12) (details : String) :
    (message subject details).toList.take 12 = (alignRight 12 subject).toList := by
  have width : (alignRight 12 subject).toList.length = 12 := by
    simp [alignRight, String.length_toList]
    omega
  rw [message, String.append_assoc, String.toList_append, List.take_left' width]

theorem message_ne_success {subject : String} (short : subject.length ≤ 12)
    (other : (alignRight 12 subject).toList ≠ (alignRight 12 "Success").toList) (details : String) :
    message subject details ≠ successMessage := by
  intro same
  apply other
  rw [← take_message short details, same, successMessage, take_message (by decide)]

theorem success_not_mem_skipped (lines : List (List Char)) :
    successMessage ∉ skippedMessages lines := by
  intro member
  obtain ⟨⟨line, number⟩, -, said⟩ := List.mem_filterMap.mp member
  obtain ⟨-, same⟩ := Option.ite_none_right_eq_some.mp said
  exact message_ne_success (by decide) (by decide +kernel) _ (Option.some.inj same)

theorem success_not_mem_operands {select : Operand → Option String} {say : Nat → String → String}
    (other : ∀ number text, say number text ≠ successMessage)
    (statements : List (Nat × Statement)) (memory : Memory) :
    successMessage ∉ operandMessages select say statements memory := by
  intro member
  obtain ⟨⟨entry, address⟩, -, said⟩ := List.mem_filterMap.mp member
  obtain ⟨text, -, same⟩ := Option.map_eq_some_iff.mp said
  exact other _ _ same

theorem checkLines_eq (source : String) :
    checkLines source (assemble source).report =
      skippedMessages (Text.lines source.toList) ++
        operandMessages Operand.name? unknownMessage (Listing.ofSource source).statements
          (assemble source).memory ++
        operandMessages Operand.digits? rangeMessage (Listing.ofSource source).statements
          (assemble source).memory ++
        message "Loaded" (toString (Listing.ofSource source).statements.length ++ " instructions") ::
          if Faultless source then [successMessage] else [] := by
  rw [memory_assemble, skippedMessages_eq, operandMessages_eq, operandMessages_eq,
    ← Code.unresolved_eq, ← Code.outOfRange_eq, checkLines]
  simp only [isClean_iff]
  rw [report_assemble]
  simp only [loadedMessage, rangeMessages, List.append_assoc, List.singleton_append]
  rfl

theorem success_mem_checkLines_iff {source : String} :
    successMessage ∈ checkLines source (assemble source).report ↔ Faultless source := by
  have loaded (count : Nat) :
      successMessage ≠ message "Loaded" (toString count ++ " instructions") := fun same =>
    message_ne_success (by decide) (by decide +kernel) _ same.symm
  have unknown (number : Nat) (name : String) : unknownMessage number name ≠ successMessage :=
    message_ne_success (by decide) (by decide +kernel) _
  have range (number : Nat) (digits : String) : rangeMessage number digits ≠ successMessage :=
    message_ne_success (by decide) (by decide +kernel) _
  -- Every other message has another subject, so only the last part of the list can hold this one.
  rw [checkLines_eq]
  simp only [List.mem_append, List.mem_cons, success_not_mem_skipped, loaded,
    success_not_mem_operands unknown, success_not_mem_operands range, false_or]
  split
  next faultless => simp [faultless]
  next faulty => simp [faulty]

end Session

/-- A check says of every line that is neither a remark nor a statement that it was skipped, of every
operand that is still a name that the label is unknown, and of every numeral that is too large that
it is out of range, each once, in the order of the lines and by their numbers. Then it counts what
was loaded, which accounts for all other lines, and it reports success exactly if there was nothing
to say. -/
theorem check_reports (source : String) :
    ∃ statements, Lists source statements ∧
      let image := assemble source
      let lines := Text.lines source.toList
      let printed := Session.checkLines source image.report
      printed =
        Session.skippedMessages lines ++
          Session.operandMessages Operand.name? unknownMessage statements image.memory ++
          Session.operandMessages Operand.digits? Session.rangeMessage statements image.memory ++
          Session.message "Loaded" (toString statements.length ++ " instructions") ::
            (if Faultless source then [Session.successMessage] else []) ∧
      statements.length + (Session.skippedMessages lines).length +
        lines.countP (Grammar.Remark ·) = lines.length ∧
      (Session.successMessage ∈ printed ↔ Faultless source) ∧
      (∀ number ∈ image.report.skipped, ∃ line, LineAt source number line) ∧
      ∀ world path, Session.readSource world path = .ok source →
        (Session.check world path).lines = Session.targetMessage "Checking" path :: printed ∧
          (Session.check world path).failure = none := by
  refine ⟨_, Listing.lists_ofSource source, Session.checkLines_eq source, ?_, ?_, ?_, ?_⟩
  · rw [Session.skippedMessages_eq, List.length_map]
    have counted := Listing.length_ofLines ((Text.lines source.toList).map Line.read) 1
    rw [List.countP_map, List.length_map] at counted
    simp only [Function.comp_def, Grammar.read_eq_blank_iff] at counted
    exact counted
  · exact Session.success_mem_checkLines_iff
  · intro number member
    have skipped : number ∈ (Listing.ofSource source).malformed := by
      rwa [report_assemble] at member
    obtain ⟨line, position, -⟩ := ((Listing.skips_ofSource source).mem_iff number).mp skipped
    exact ⟨line, position⟩
  · intro world path readable
    simp [Session.check, readable, Session.after]

/-- A comment, a blank line, two statements with a problem, and a line that is no statement. -/
theorem check_reports_notes :
    let source := "# notes\n\nfirst, br lost\r\n non sense\t\nset 18446744073709551616\n"
    let world : World := { read := fun _ => .ok (.text source), contains := fun _ => true }
    (Session.check world "notes.asm").lines =
        [ "    Checking target notes.asm",
          "     Skipped line 4: `non sense`",
          "     Unknown line 3: label `lost` is never defined",
          "       Range line 5: literal `18446744073709551616` is out of range",
          "      Loaded 2 instructions" ] ∧
      Session.successMessage ∉ Session.checkLines source (assemble source).report ∧
      ¬ Faultless source := by
  intro source world
  obtain ⟨statements, -, -, -, success, -, checks⟩ := check_reports source
  have readable : Session.readSource world "notes.asm" = .ok source := by rfl
  have faulty : ¬ Faultless source := by decide +kernel
  refine ⟨(checks world "notes.asm" readable).1.trans (by decide +kernel), ?_, faulty⟩
  rwa [success]

end Accumulator
