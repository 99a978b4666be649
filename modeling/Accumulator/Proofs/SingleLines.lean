import Accumulator.Proofs.Disassembly
import Accumulator.Proofs.Interchange
import Accumulator.Proofs.Narration
import Accumulator.Proofs.PrintedWords
import Accumulator.Proofs.Warnings

/-!
# One line each

What is told of a load or of a cycle is told in one line. The words of a running program hold no line
feed: its code was taken from the fields of lines, and its texts are names in that code or lines of the
console. So none is in the message of a fault, which names such words.
-/
namespace Accumulator

namespace Text

/-- Is there no line feed in the text? -/
def OneLine (text : String) : Prop := '\n' ∉ text.toList

instance (text : String) : Decidable (OneLine text) := inferInstanceAs (Decidable (_ ∉ _))

end Text

/-- Is the word written in one line? -/
def Word.OneLine (word : Word) : Prop := Text.OneLine word.render

/-- Are the lines that the pipe has still to give, and its messages, single lines? -/
structure Pipe.OneLine (pipe : Pipe) : Prop where
  line : ∀ line, .ok line ∈ pipe.input → Text.OneLine line
  message : ∀ message, .error message ∈ pipe.input → Text.OneLine message

namespace Text

/-! ### Texts -/

theorem oneLine_append_iff {front back : String} :
    OneLine (front ++ back) ↔ OneLine front ∧ OneLine back := by
  simp [OneLine]

theorem OneLine.between {text : String} (oneLine : OneLine text) {front back : String}
    (before : OneLine front) (behind : OneLine back) : OneLine (front ++ text ++ back) :=
  oneLine_append_iff.mpr ⟨oneLine_append_iff.mpr ⟨before, oneLine⟩, behind⟩

/-- A line feed is a blank. -/
theorem oneLine_of_solid {text : String} (solid : ∀ c ∈ text.toList, isBlank c = false) :
    OneLine text :=
  fun member => absurd (solid '\n' member) (by decide)

theorem oneLine_of_token {text : String} (token : Grammar.Token text.toList) : OneLine text :=
  oneLine_of_solid (Grammar.isField_of_token token).2

theorem oneLine_toString (n : Nat) : OneLine (toString n) :=
  oneLine_of_token (Grammar.token_of_isNumeral (isNumeral_toString n))

theorem oneLine_toString_int (n : Int) : OneLine (toString n) :=
  oneLine_of_solid fun _ => isBlank_of_mem_toString

theorem newline_not_mem_toDigits {base : Nat} (large : 1 < base) (n : Nat) :
    '\n' ∉ Nat.toDigits base n := by
  induction n using Nat.strongRecOn with
  | _ n ih =>
    rw [Nat.toDigits_eq_if large]
    split
    · simp
    next further =>
      have smaller : n / base < n := Nat.div_lt_self (by omega) large
      simp [ih _ smaller]

theorem newline_not_mem_quotedChar (c : Char) : '\n' ∉ quotedChar c := by
  unfold quotedChar
  split
  next letter escaped =>
    unfold escapeLetter? at escaped
    split at escaped <;> cases escaped <;> decide
  next unescaped =>
    split
    · -- A line feed has a letter to stand for it.
      rw [List.mem_singleton]
      rintro rfl
      cases unescaped
    · simp [newline_not_mem_toDigits]

theorem oneLine_quoted (text : String) : OneLine (quoted text) := by
  simp [OneLine, quoted, newline_not_mem_quotedChar]

/-- A piece of a list does not hold what the list was split at. -/
theorem not_mem_of_mem_splitOn {α : Type} [BEq α] [LawfulBEq α] {separator : α} {piece s : List α}
    (member : piece ∈ s.splitOn separator) : separator ∉ piece := by
  -- By induction on the length: what is behind the first separator is split in the same way.
  induction length : s.length using Nat.strongRecOn generalizing s with
  | _ n ih =>
    by_cases more : separator ∈ s
    · obtain ⟨first, rest, rfl, oneLine⟩ := List.eq_append_cons_of_mem more
      rw [List.splitOn_append_cons_self_of_not_mem oneLine] at member
      rcases List.mem_cons.mp member with rfl | member
      · exact oneLine
      · exact ih rest.length (by simp at length; omega) member rfl
    · rw [List.splitOn_eq_singleton more, List.mem_singleton] at member
      rwa [member]

theorem not_mem_of_mem_pieces {α : Type} [BEq α] [LawfulBEq α] {separator : α}
    {piece s : List α} (member : piece ∈ Pipe.pieces separator s) : separator ∉ piece := by
  apply not_mem_of_mem_splitOn (s := s)
  unfold Pipe.pieces at member
  dsimp only at member
  split at member
  · exact List.mem_of_mem_dropLast member
  · exact member

theorem newline_not_mem_of_mem_lines {line s : List Char} (member : line ∈ lines s) :
    '\n' ∉ line := by
  induction s using line_induction with
  | last line oneLine =>
    rw [lines_of_not_mem oneLine] at member
    obtain ⟨same, -⟩ := List.mem_filter.mp member
    rwa [List.mem_singleton.mp same]
  | terminated first rest oneLine ih =>
    rw [lines_append_newline first rest oneLine] at member
    rcases List.mem_cons.mp member with rfl | member
    · -- A carriage return may be gone from the end; what is left was there before.
      unfold dropReturn
      split
      · exact fun inside => oneLine (List.mem_of_mem_dropLast inside)
      · exact oneLine
    · exact ih member

theorem newline_not_mem_dropReturns {line : List Char} (oneLine : '\n' ∉ line) :
    '\n' ∉ Pipe.dropReturns line := by
  rw [dropReturns_eq_rdropWhile]
  exact fun inside => oneLine ((List.rdropWhile_prefix _ _).subset inside)

/-- A line feed is encoded by a byte of its own. -/
theorem oneLine_of_decode {line : List UInt8} {text : String} (oneLine : 10 ∉ line)
    (decoded : decode ⟨line.toArray⟩ = .ok text) : OneLine text := by
  have encoded : text.toByteArray = ⟨line.toArray⟩ := by
    unfold decode String.fromUTF8? at decoded
    split at decoded
    next content found =>
      cases decoded
      split at found
      · obtain rfl := Option.some.inj found
        rfl
      · cases found
    next => cases decoded
  -- The bytes of the text are those of its characters, one after the other.
  have bytes : text.toList.flatMap String.utf8EncodeChar = line := by
    rw [← String.utf8Encode_toList, List.utf8Encode] at encoded
    simpa using congrArg (fun bytes => bytes.data.toList) encoded
  intro member
  have byte : 10 ∈ String.utf8EncodeChar '\n' := by decide
  exact oneLine (bytes ▸ List.mem_flatMap.mpr ⟨'\n', member, byte⟩)

theorem error_of_decode {bytes : ByteArray} {message : String}
    (failed : decode bytes = .error message) : message = notText := by
  unfold decode at failed
  split at failed
  · cases failed
  · exact (Except.error.inj failed).symm

end Text

/-! ### Words -/

theorem Opcode.oneLine_mnemonic (opcode : Opcode) : Text.OneLine opcode.mnemonic := by
  cases opcode <;> decide

theorem Instruction.oneLine_render {code : Instruction}
    (operand : ∀ operand, code.operand = some operand → Text.OneLine operand.render) :
    Text.OneLine code.render := by
  have mnemonic := code.opcode.oneLine_mnemonic
  unfold render
  split
  · exact mnemonic
  next found =>
    have space : Text.OneLine " " := by decide
    simp only [Text.oneLine_append_iff, mnemonic, space, operand _ found, and_self]

theorem Instruction.oneLine_operand {code : Instruction} {operand : Operand}
    (oneLine : Text.OneLine code.render) (written : code.operand = some operand) :
    Text.OneLine operand.render := by
  rw [render, written] at oneLine
  exact (Text.oneLine_append_iff.mp oneLine).2

namespace Word

theorem oneLine_integer (value : Integer) : OneLine (.integer value) :=
  Text.oneLine_toString_int value.toInt

theorem oneLine_inherited : Inherited OneLine where
  unset := show Text.OneLine "?" by decide
  integer := oneLine_integer
  label _ name oneLine written :=
    show Text.OneLine name from Instruction.oneLine_operand oneLine written

end Word

theorem Operand.oneLine_ofToken (symbols : SymbolTable) {token : String}
    (spelled : Grammar.Token token.toList) : Text.OneLine (ofToken symbols token).render := by
  have oneLine := Text.oneLine_of_token spelled
  -- It is an address, or the token as it was written.
  unfold ofToken
  split
  · split
    · exact Text.oneLine_toString _
    · exact oneLine
  · split
    · exact Text.oneLine_toString _
    · exact oneLine

theorem Listing.oneLine_code {source : String} {entry : Nat × Instruction}
    (member : entry ∈ (ofSource source).code) : Text.OneLine entry.2.render := by
  obtain ⟨⟨number, statement⟩, listed, rfl⟩ := List.mem_map.mp member
  obtain ⟨line, -, derived⟩ := ((lists_ofSource source).mem_iff number statement).mp listed
  apply Instruction.oneLine_render
  intro operand written
  obtain ⟨token, tokenWritten, rfl⟩ := Option.map_eq_some_iff.mp written
  exact Operand.oneLine_ofToken _ (Grammar.token_of_derives derived tokenWritten)

theorem Machine.oneLine_ofSource (source : String) : (ofSource source).1.Hold Word.OneLine where
  cell address := by
    rw [memory_ofSource]
    rcases Code.get_memory_cases (Listing.ofSource source).code address with
      unset | ⟨instruction, found⟩
    · rw [unset]
      exact Word.oneLine_inherited.unset
    · obtain ⟨-, -, line, member⟩ := Code.mem_of_get_memory found
      rw [found]
      exact Listing.oneLine_code member
  registers := Registers.hold_initial Word.oneLine_inherited

/-- The messages of a load name operands of the code. -/
theorem Report.oneLine_of_mem_trace {source line : String}
    (member : line ∈ (Machine.ofSource source).2.trace) : Text.OneLine line := by
  have operands {number : Nat} {instruction : Instruction} {operand : Operand}
      (listed : (number, instruction) ∈ (Listing.ofSource source).code)
      (written : instruction.operand = some operand) : Text.OneLine operand.render :=
    Instruction.oneLine_operand (Listing.oneLine_code listed) written
  simp only [Report.trace, List.mem_append, List.mem_map, List.mem_singleton] at member
  rcases member with ((⟨number, _, rfl⟩ | ⟨⟨number, name⟩, named, rfl⟩) |
    ⟨⟨number, digits⟩, large, rfl⟩) | rfl
  · exact (Text.oneLine_toString number).between (by decide) (by decide)
  · rw [Machine.unresolved_ofSource, Code.mem_unresolved_iff] at named
    obtain ⟨instruction, listed, written⟩ := named
    have front : Text.OneLine ("line " ++ toString number ++ ": `") :=
      (Text.oneLine_toString number).between (by decide) (by decide)
    exact Text.OneLine.between (operands listed written) front (by decide)
  · rw [Machine.ofSource, Machine.load_eq, Listing.image_eq, Code.mem_outOfRange_iff] at large
    obtain ⟨instruction, listed, written⟩ := large
    have front : Text.OneLine ("line " ++ toString number ++ ": literal `") :=
      (Text.oneLine_toString number).between (by decide) (by decide)
    exact Text.OneLine.between (operands listed written) front (by decide)
  · exact Text.oneLine_append_iff.mpr ⟨Text.oneLine_toString _, by decide⟩

/-! ### Pipes -/

namespace Pipe

theorem oneLine_ofContent (content : Text.Content) : (ofContent content).OneLine := by
  cases content with
  | text text =>
    refine ⟨fun line member => ?_, fun message member => ?_⟩
    · obtain ⟨_, listed, same⟩ := List.mem_map.mp member
      cases same
      obtain ⟨piece, cut, rfl⟩ := List.mem_map.mp listed
      have oneLine := Text.newline_not_mem_dropReturns (Text.not_mem_of_mem_pieces cut)
      simpa [Text.OneLine] using oneLine
    · obtain ⟨_, _, same⟩ := List.mem_map.mp member
      cases same
  | binary bytes =>
    refine ⟨fun line member => ?_, fun message member => ?_⟩
    · obtain ⟨piece, cut, decoded⟩ := List.mem_map.mp member
      obtain ⟨text, encoded, rfl⟩ := exists_of_map_eq_ok decoded
      have oneLine := Text.oneLine_of_decode (Text.not_mem_of_mem_pieces cut) encoded
      simpa [Text.OneLine] using Text.newline_not_mem_dropReturns oneLine
    · obtain ⟨piece, _, failed⟩ := List.mem_map.mp member
      rw [Text.error_of_decode (map_eq_error_iff.mp failed)]
      decide

theorem oneLine_toPipe (text : String) : (Script.ofText text).toPipe.OneLine := by
  refine ⟨fun line member => ?_, fun message member => ?_⟩
  · obtain ⟨_, listed, same⟩ := List.mem_map.mp member
    cases same
    obtain ⟨piece, cut, rfl⟩ := List.mem_map.mp listed
    simpa [Text.OneLine] using Text.newline_not_mem_of_mem_lines cut
  · obtain ⟨_, _, same⟩ := List.mem_map.mp member
    cases same

namespace OneLine

variable {pipe : Pipe}

theorem after (oneLine : pipe.OneLine) (call : Option Call) :
    (Console.after pipe call).OneLine := by
  match call, pipe, oneLine with
  | none, _, oneLine => exact oneLine
  | some (.write _), ⟨_, _⟩, oneLine => exact ⟨oneLine.line, oneLine.message⟩
  | some .read, ⟨[], _⟩, oneLine => exact oneLine
  | some .read, ⟨.ok _ :: _, _⟩, oneLine | some .read, ⟨.error _ :: _, _⟩, oneLine =>
    exact ⟨fun line later => oneLine.line line (List.mem_cons_of_mem _ later),
      fun message later => oneLine.message message (List.mem_cons_of_mem _ later)⟩

theorem heard (oneLine : pipe.OneLine) {call : Option Call} {line : String}
    (given : Answer.heard (Console.answer? pipe call) = some line) : Text.OneLine line := by
  match call, pipe, oneLine with
  | some .read, ⟨.ok _ :: _, _⟩, oneLine =>
    cases given
    exact oneLine.line line List.mem_cons_self
  | none, _, _ | some (.write _), _, _ | some .read, ⟨[], _⟩, _
  | some .read, ⟨.error _ :: _, _⟩, _ => cases given

theorem message_of_unread (oneLine : pipe.OneLine) {call : Option Call} {message : String}
    (answered : Console.answer? pipe call = some (.read (.error message))) :
    Text.OneLine message := by
  match call, pipe, oneLine with
  | some .read, ⟨.error _ :: _, _⟩, oneLine =>
    cases answered
    exact oneLine.message message List.mem_cons_self
  | none, _, _ | some (.write _), _, _ | some .read, ⟨[], _⟩, _
  | some .read, ⟨.ok _ :: _, _⟩, _ => cases answered

end OneLine

/-- A pipe takes every line. -/
theorem answer?_ne_unwritten {pipe : Pipe} {call : Option Call} {message : String} :
    Console.answer? pipe call ≠ some (.written (.error message)) := by
  rcases call with _ | (_ | text) <;> nofun

end Pipe

/-! ### Causes -/

section Causes

variable {machine : Machine} {pipe : Pipe} {cause : Cause}

theorem Cause.oneLine_nonNumeric {word : Word} (oneLine : word.OneLine) :
    Text.OneLine (nonNumeric word).message :=
  Text.OneLine.between oneLine (by decide) (by decide)

theorem Cause.oneLine_consoleFailure {message : String} (oneLine : Text.OneLine message) :
    Text.OneLine (consoleFailure message).message :=
  Text.oneLine_append_iff.mpr ⟨by decide, oneLine⟩

theorem Action.FailsOver.oneLine (hold : machine.Hold Word.OneLine) (oneLine : pipe.OneLine)
    {action : Action} {call : Option Call}
    (fails : action.FailsOver machine (Console.answer? pipe call) cause) :
    Text.OneLine cause.message := by
  cases fails with
  | quotient | result | exhausted => decide
  | destination value => exact (Text.oneLine_toString_int value).between (by decide) (by decide)
  | accumulator => exact Cause.oneLine_nonNumeric hold.registers.acc
  | operand received =>
    -- The second operand is in a cell, or it has just been read.
    exact Cause.oneLine_nonNumeric
      (Answer.word_hold (hold.cell _) (fun _ => oneLine.heard) received)
  | cell address => exact Cause.oneLine_nonNumeric (hold.cell address)
  | unread answered => exact Cause.oneLine_consoleFailure (oneLine.message_of_unread answered)
  | unwritten answered => exact absurd answered Pipe.answer?_ne_unwritten
  | refused _ refused =>
    obtain ⟨-, rfl⟩ := Memory.refusal?_eq_some_iff.mp refused
    exact (Text.oneLine_toString _).between (by decide) (by decide)

theorem Machine.action?_oneLine (hold : machine.Hold Word.OneLine)
    (refused : machine.action? = .error cause) : Text.OneLine cause.message := by
  rcases action?_eq_error refused with rfl | ⟨code, found, undecoded⟩
  · exact Text.OneLine.between (hold.cell _) (by decide) (by decide)
  · -- What is wrong with an instruction is said with its mnemonic or with its operand.
    have missing : Text.OneLine (Cause.missingOperand code.opcode).message :=
      code.opcode.oneLine_mnemonic.between (by decide) (by decide)
    have cell : Word.OneLine (.instruction code) := found ▸ hold.cell machine.registers.pc
    rcases Instruction.decode_error undecoded with unresolved | unread
    · rcases Instruction.resolve_error unresolved with
        ⟨-, rfl⟩ | ⟨digits, written, rfl⟩ | ⟨name, written, -, rfl⟩
      · exact missing
      · exact (Instruction.oneLine_operand cell written).between (by decide) (by decide)
      · exact (Instruction.oneLine_operand cell written).between (by decide) (by decide)
    · rcases Instruction.immediate_error unread with rfl | rfl
      · exact missing
      · decide

theorem Machine.cause_oneLine (hold : machine.Hold Word.OneLine) (oneLine : pipe.OneLine)
    (faulted : (machine.step pipe).outcome.cause? = some cause) : Text.OneLine cause.message := by
  rcases step_cause faulted with refused | ⟨action, -, failed⟩
  · exact action?_oneLine hold refused
  · exact (perform_failsOver failed).oneLine hold.fetch.advance oneLine

end Causes

/-! ### Cycles -/

namespace Machine

variable {machine : Machine} {pipe : Pipe}

/-- Words and lines stay what they are. -/
theorem step_oneLine (hold : machine.Hold Word.OneLine) (oneLine : pipe.OneLine) :
    (machine.step pipe).machine.Hold Word.OneLine ∧ (machine.step pipe).console.OneLine := by
  constructor
  · apply step_hold Word.oneLine_inherited hold
    intro line heard
    rw [step_heard] at heard
    exact oneLine.heard heard
  · rw [step_console]
    exact oneLine.after machine.call?

theorem events_oneLine (hold : machine.Hold Word.OneLine) (oneLine : pipe.OneLine) {event : Event}
    (member : event ∈ machine.events pipe) : Text.OneLine event.render := by
  have word : Text.OneLine (machine.memory.get machine.registers.pc).render := hold.cell _
  have address := Text.oneLine_toString machine.registers.pc
  unfold events at member
  split at member
  · cases member
  · simp only [List.cons_append, List.mem_cons, List.mem_append, List.mem_map] at member
    rcases member with rfl | (executed | ⟨line, -, rfl⟩) | ⟨cause, faulted, rfl⟩
    · exact Text.oneLine_append_iff.mpr ⟨address.between (by decide) (by decide), word⟩
    · split at executed
      · rcases List.mem_pair.mp executed with rfl | rfl
        · exact Text.oneLine_append_iff.mpr ⟨by decide, Text.oneLine_toString _⟩
        · exact Text.oneLine_append_iff.mpr ⟨by decide, word⟩
      · cases executed
    · exact Text.oneLine_append_iff.mpr ⟨by decide, Text.oneLine_quoted line⟩
    · have message := cause_oneLine hold oneLine (Option.mem_toList.mp faulted)
      exact Text.oneLine_append_iff.mpr ⟨address.between (by decide) (by decide), message⟩

theorem told_oneLine (hold : machine.Hold Word.OneLine) (oneLine : pipe.OneLine) {count : Nat}
    {event : Event} (member : event ∈ machine.told pipe count) : Text.OneLine event.render := by
  induction count generalizing machine pipe with
  | zero => cases member
  | succ count ih =>
    rw [told_succ, List.mem_append] at member
    obtain ⟨kept, left⟩ := step_oneLine hold oneLine
    exact member.elim (events_oneLine hold oneLine) (ih kept left)

end Machine

end Accumulator
