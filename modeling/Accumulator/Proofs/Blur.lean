import Accumulator.Proofs.Cycles
import Accumulator.Proofs.Causes

/-!
# Runs that differ in their texts

A machine acts on a text in two ways only: it takes it for an integer, and it looks it up as a
label. A `Blur` keeps as much of a text as is needed for both, and forgets the rest. Two machines
that are the same through a blur decode the same action, make the same call on their consoles and
are the same again after a cycle (`step_congr`), whatever the texts were that the blur forgets. If
their consoles are alike as well, so are their runs (`cycleAt_alike`, `runFor_alike`).
-/
namespace Accumulator

/-- What is kept of a text, and of a name that stands as an operand. -/
structure Blur where
  text : String → String
  name : String → String
  -- What a machine takes from a text, and from a name:
  integer?_text : ∀ s, (Word.text (text s)).integer? = (Word.text s).integer?
  lowercase_name : ∀ s, Text.lowercase (name s) = Text.lowercase s
  -- A name can become a text, by itself or printed with its instruction:
  text_name : ∀ s, text (name s) = text s
  text_operand : ∀ (opcode : Opcode) s,
    text (opcode.mnemonic ++ " " ++ name s) = text (opcode.mnemonic ++ " " ++ s)

variable {κ μ : Type}

namespace Blur

variable (blur : Blur)

/-! ### Blurred data -/

def operand : Operand → Operand
  | .literal address => .literal address
  | .label name => .label (blur.name name)
  | .outOfRange digits => .outOfRange digits

def instruction (code : Instruction) : Instruction :=
  { code with operand := code.operand.map blur.operand }

def word : Word → Word
  | .unset => .unset
  | .instruction code => .instruction (blur.instruction code)
  | .integer value => .integer value
  | .text content => .text (blur.text content)

def memory (memory : Memory) : Memory :=
  ⟨memory.cells.map blur.word, by rw [Array.size_map]; exact memory.nonempty⟩

def registers (registers : Registers) : Registers :=
  { registers with
    ir := blur.word registers.ir
    acc := blur.word registers.acc
    b := blur.word registers.b }

def machine (machine : Machine) : Machine :=
  { machine with
    memory := blur.memory machine.memory
    registers := blur.registers machine.registers }

def cause : Cause → Cause
  | .undefinedLabel name => .undefinedLabel (blur.name name)
  | .illegalInstruction word => .illegalInstruction (blur.word word)
  | .nonNumeric word => .nonNumeric (blur.word word)
  | cause => cause

def fault (fault : Fault) : Fault :=
  { fault with word := blur.word fault.word, cause := blur.cause fault.cause }

def outcome : Outcome → Outcome
  | .continued => .continued
  | .halted => .halted
  | .faulted fault => .faulted (blur.fault fault)

def ending : Ending → Ending
  | .halted cycles => .halted cycles
  | .faulted fault => .faulted (blur.fault fault)

def action : Action → Action
  | .assign word => .assign (blur.word word)
  | action => action

def call : Call → Call
  | .read => .read
  | .write text => .write (blur.text text)

def answer : Answer → Answer
  | .read line => .read (line.map (Option.map blur.text))
  | .written done => .written done

/-- A result or the reason for having none, the result under a function. -/
def result {α β : Type} (f : α → β) (found : Except Cause α) : Except Cause β :=
  (found.mapError blur.cause).map f

/-- The effect without its console. -/
def effect (effect : Effect κ) : Effect Unit where
  machine := blur.machine effect.machine
  console := ()
  heard := effect.heard.map blur.text
  failure := effect.failure.map blur.cause

/-- The cycle without its console. -/
def cycle (cycle : Cycle κ) : Cycle Unit where
  machine := blur.machine cycle.machine
  console := ()
  heard := cycle.heard.map blur.text
  outcome := blur.outcome cycle.outcome

/-- The run without its console. -/
def run (run : Run κ) : Run Unit where
  machine := blur.machine run.machine
  console := ()
  ending := run.ending.map blur.ending

variable {blur}

/-! ### Data that is the same through a blur -/

/-- Instructions that are the same differ at most in a name. -/
theorem instruction_eq_cases {code other : Instruction}
    (same : blur.instruction code = blur.instruction other) :
    (∃ opcode name twin, code = ⟨opcode, some (.label name)⟩ ∧
        other = ⟨opcode, some (.label twin)⟩ ∧ blur.name name = blur.name twin) ∨
      code = other := by
  obtain ⟨opcode, operand⟩ := code
  obtain ⟨opcode', operand'⟩ := other
  obtain ⟨rfl, operands⟩ : opcode = opcode' ∧ operand.map blur.operand = operand'.map blur.operand :=
    Instruction.mk.inj same
  rcases operand with _ | (_ | name | _) <;> rcases operand' with _ | (_ | twin | _) <;>
    simp only [Option.map_none, Option.map_some, Blur.operand, reduceCtorEq, Option.some.injEq,
      Operand.literal.injEq, Operand.label.injEq, Operand.outOfRange.injEq] at operands
  · exact .inr rfl
  · exact .inr (by rw [operands])
  · exact .inl ⟨opcode, name, twin, rfl, rfl, operands⟩
  · exact .inr (by rw [operands])

/-- Words that are the same are instructions, texts, or one word with nothing in it to forget. -/
theorem word_eq_cases {word other : Word} (same : blur.word word = blur.word other) :
    (∃ code twin, word = .instruction code ∧ other = .instruction twin ∧
        blur.instruction code = blur.instruction twin) ∨
      (∃ content twin, word = .text content ∧ other = .text twin ∧
        blur.text content = blur.text twin) ∨
      word = other ∧ ∀ code, word ≠ .instruction code := by
  cases word with
  | unset =>
    cases other with
    | unset => exact .inr (.inr ⟨rfl, nofun⟩)
    | instruction | integer | text => cases same
  | instruction code =>
    cases other with
    | instruction twin => exact .inl ⟨code, twin, rfl, rfl, Word.instruction.inj same⟩
    | unset | integer | text => cases same
  | integer value =>
    cases other with
    | integer => exact .inr (.inr ⟨same, nofun⟩)
    | unset | instruction | text => cases same
  | text content =>
    cases other with
    | text twin => exact .inr (.inl ⟨content, twin, rfl, rfl, Word.text.inj same⟩)
    | unset | instruction | integer => cases same

theorem action_eq_cases {action other : Action} (same : blur.action action = blur.action other) :
    action = other ∨
      ∃ word twin, action = .assign word ∧ other = .assign twin ∧
        blur.word word = blur.word twin := by
  cases action with
  | assign word =>
    cases other with
    | assign twin => exact .inr ⟨word, twin, rfl, rfl, Action.assign.inj same⟩
    | _ => cases same
  | _ =>
    cases other with
    | assign => cases same
    | _ => exact .inl same

theorem call_eq_cases {call counter : Option Call}
    (same : call.map blur.call = counter.map blur.call) :
    call = counter ∨
      ∃ text other, call = some (.write text) ∧ counter = some (.write other) ∧
        blur.text text = blur.text other := by
  rcases call with _ | (_ | text)
  · rcases counter with _ | _
    · exact .inl rfl
    · cases same
  · rcases counter with _ | (_ | _)
    · cases same
    · exact .inl rfl
    · cases same
  · rcases counter with _ | (_ | other)
    · cases same
    · cases same
    · exact .inr ⟨text, other, rfl, rfl, Call.write.inj (Option.some.inj same)⟩

theorem outcome_eq_cases {outcome other : Outcome} (same : blur.outcome outcome = blur.outcome other) :
    (outcome = .continued ∧ other = .continued) ∨ (outcome = .halted ∧ other = .halted) ∨
      ∃ fault twin, outcome = .faulted fault ∧ other = .faulted twin ∧
        blur.fault fault = blur.fault twin := by
  cases outcome with
  | continued =>
    cases other with
    | continued => exact .inl ⟨rfl, rfl⟩
    | halted | faulted => cases same
  | halted =>
    cases other with
    | halted => exact .inr (.inl ⟨rfl, rfl⟩)
    | continued | faulted => cases same
  | faulted fault =>
    cases other with
    | faulted twin => exact .inr (.inr ⟨fault, twin, rfl, rfl, Outcome.faulted.inj same⟩)
    | continued | halted => cases same

theorem result_eq_cases {α β : Type} {f : α → β} {found other : Except Cause α}
    (same : blur.result f found = blur.result f other) :
    (∃ cause twin, found = .error cause ∧ other = .error twin ∧
        blur.cause cause = blur.cause twin) ∨
      ∃ value twin, found = .ok value ∧ other = .ok twin ∧ f value = f twin := by
  cases found with
  | error cause =>
    cases other with
    | error twin => exact .inl ⟨cause, twin, rfl, rfl, Except.error.inj same⟩
    | ok => cases same
  | ok value =>
    cases other with
    | error => cases same
    | ok twin => exact .inr ⟨value, twin, rfl, rfl, Except.ok.inj same⟩

theorem registers_eq_iff {registers other : Registers} :
    blur.registers registers = blur.registers other ↔
      registers.pc = other.pc ∧ registers.ar = other.ar ∧
        blur.word registers.ir = blur.word other.ir ∧
        blur.word registers.acc = blur.word other.acc ∧
        blur.word registers.b = blur.word other.b := by
  simp only [Blur.registers, Registers.mk.injEq]

theorem machine_eq_iff {machine other : Machine} :
    blur.machine machine = blur.machine other ↔
      blur.memory machine.memory = blur.memory other.memory ∧ machine.symbols = other.symbols ∧
        blur.registers machine.registers = blur.registers other.registers := by
  simp only [Blur.machine, Machine.mk.injEq]

theorem result_map {α β γ : Type} (f : β → γ) (g : α → β) (found : Except Cause α) :
    blur.result f (found.map g) = blur.result (f ∘ g) found := by
  cases found <;> rfl

theorem map_result {α β γ : Type} (f : β → γ) (g : α → β) (found : Except Cause α) :
    (blur.result g found).map f = blur.result (f ∘ g) found := by
  cases found <;> rfl

/-! ### What is kept of words and operands -/

@[simp] theorem integer?_word (word : Word) : (blur.word word).integer? = word.integer? := by
  cases word with
  | text content => exact blur.integer?_text content
  | unset | integer | instruction => rfl

theorem integer?_congr {word other : Word} (same : blur.word word = blur.word other) :
    word.integer? = other.integer? := by
  rw [← integer?_word word, same, integer?_word]

theorem text_congr {name other : String} (same : blur.name name = blur.name other) :
    blur.text name = blur.text other := by
  rw [← blur.text_name name, same, blur.text_name]

theorem render_instruction_congr {code other : Instruction}
    (same : blur.instruction code = blur.instruction other) :
    blur.text code.render = blur.text other.render := by
  rcases instruction_eq_cases same with ⟨opcode, name, twin, rfl, rfl, names⟩ | rfl
  · -- What is printed with a name is kept as far as the name is.
    simp only [Instruction.render, Operand.render]
    rw [← blur.text_operand, names, blur.text_operand]
  · rfl

/-- Words that are the same print the same. -/
theorem render_congr {word other : Word} (same : blur.word word = blur.word other) :
    blur.text word.render = blur.text other.render := by
  rcases word_eq_cases same with
    ⟨code, twin, rfl, rfl, codes⟩ | ⟨content, twin, rfl, rfl, texts⟩ | ⟨rfl, -⟩
  · exact render_instruction_congr codes
  · exact texts
  · rfl

/-! ### Blurring commutes with what a machine does to its words -/

theorem get_memory (memory : Memory) (address : Nat) :
    (blur.memory memory).get address = blur.word (memory.get address) := by
  simp only [Memory.get, Blur.memory, Array.getD_eq_getD_getElem?, Array.getElem?_map]
  cases memory.cells[address]? <;> rfl

theorem put_memory (memory : Memory) (address : Nat) (word : Word) :
    blur.memory (memory.put address word) = (blur.memory memory).put address (blur.word word) := by
  simp only [Memory.put, Blur.memory, Array.size_map]
  split
  next inside => simp [Array.map_set]
  next outside => simp [Blur.word]

theorem fetch_machine (machine : Machine) :
    blur.machine machine.fetch = (blur.machine machine).fetch := by
  simp only [Machine.fetch, Blur.machine, Blur.registers, get_memory]

theorem cause_of_narrow {n : Int} {cause : Cause} (failed : narrow n = .error cause) :
    blur.cause cause = cause := by
  rw [narrow_error failed]
  rfl

theorem cause_of_refusal? {address : Nat} {cause : Cause}
    (refused : Memory.refusal? address = some cause) : blur.cause cause = cause := by
  obtain ⟨-, rfl⟩ := Memory.refusal?_eq_some_iff.mp refused
  rfl

variable (blur) in
/-- What an action makes of the registers. -/
def registered (outcome : Registers × Option Cause) : Registers × Option Cause :=
  (blur.registers outcome.1, outcome.2.map blur.cause)

theorem accept_registers (registers : Registers) (found : Except Cause Integer)
    (exact : ∀ cause, found = .error cause → blur.cause cause = cause) :
    blur.registered (registers.accept found) = (blur.registers registers).accept found := by
  cases found with
  | ok value => rfl
  | error cause => simp only [registered, Registers.accept, Option.map_some, exact cause rfl]

theorem combine_registers (registers : Registers) (op : Arithmetic) (word : Word) :
    blur.registered (registers.combine op word) =
      (blur.registers registers).combine op (blur.word word) := by
  have acc : (blur.registers registers).acc = blur.word registers.acc := rfl
  unfold Registers.combine
  rw [integer?_word]
  cases word.integer? with
  | none => rfl
  | some b =>
    dsimp only
    rw [acc, integer?_word]
    cases registers.acc.integer? with
    | none => rfl
    | some a =>
      -- Both words are integers, so what can still fail is the arithmetic, which blames no word.
      refine accept_registers { registers with b := .integer b } _ fun cause failed => ?_
      rcases bind_eq_error failed with inexact | ⟨value, -, large⟩
      · rw [Arithmetic.exact_error inexact]
        rfl
      · exact cause_of_narrow large

theorem adjust_registers (registers : Registers) (op : Adjustment) :
    blur.registered (registers.adjust op) = (blur.registers registers).adjust op := by
  have acc : (blur.registers registers).acc = blur.word registers.acc := rfl
  unfold Registers.adjust
  rw [acc, integer?_word]
  cases registers.acc.integer? with
  | none => rfl
  | some a => exact accept_registers registers _ fun cause failed => cause_of_narrow failed

theorem goTo_registers (registers : Registers) (word : Word) :
    blur.registered (registers.goTo word) = (blur.registers registers).goTo (blur.word word) := by
  unfold Registers.goTo
  rw [integer?_word]
  cases word.integer? with
  | none => rfl
  | some target =>
    dsimp only
    split <;> rfl

theorem enter_machine (machine : Machine) (console : κ) (target : Nat) :
    blur.effect (machine.enter console target) = (blur.machine machine).enter () target := by
  have pc : (blur.machine machine).registers.pc = machine.registers.pc := rfl
  unfold Machine.enter
  rw [pc]
  split
  · rfl
  · split
    next narrowed => simp [Blur.effect, cause_of_narrow narrowed]
    next refused => simp [Blur.effect, cause_of_refusal? refused]
    next => simp [Blur.effect, Blur.machine, put_memory, Blur.word, Blur.registers]

theorem settle_machine (machine : Machine) (console : κ) (heard : Option String)
    (outcome : Registers × Option Cause) :
    blur.effect (machine.settle console heard outcome) =
      (blur.machine machine).settle () (heard.map blur.text) (blur.registered outcome) := rfl

theorem finish_effect (effect : Effect κ) (address : Nat) :
    blur.cycle (effect.finish address) = (blur.effect effect).finish address := by
  obtain ⟨machine, console, heard, failure⟩ := effect
  have halted : (blur.machine machine).isHalted = machine.isHalted := rfl
  cases failure with
  | none =>
    simp only [Effect.finish, Blur.cycle, Blur.effect, Option.map_none, halted]
    split <;> rfl
  | some cause => rfl

/-! ### Decoding -/

theorem resolve_instruction (code : Instruction) (symbols : SymbolTable) :
    (blur.instruction code).resolve symbols = (code.resolve symbols).mapError blur.cause := by
  obtain ⟨opcode, operand⟩ := code
  rcases operand with _ | (address | name | digits)
  · rfl
  · rfl
  · have found : symbols.get? (blur.name name) = symbols.get? name := by
      rw [SymbolTable.get?, blur.lowercase_name, SymbolTable.get?]
    simp only [Instruction.resolve, Blur.instruction, Option.map_some, Blur.operand, found]
    cases symbols.get? name <;> rfl
  · rfl

theorem resolve_congr {α : Type} (f : Nat → α) {code other : Instruction}
    (same : blur.instruction code = blur.instruction other) (symbols : SymbolTable) :
    blur.result f (code.resolve symbols) = blur.result f (other.resolve symbols) := by
  rw [result, result, ← resolve_instruction, same, resolve_instruction]

theorem immediate_congr {code other : Instruction}
    (same : blur.instruction code = blur.instruction other) :
    blur.result blur.word code.immediate = blur.result blur.word other.immediate := by
  rcases instruction_eq_cases same with ⟨opcode, name, twin, rfl, rfl, names⟩ | rfl
  · exact congrArg (fun content => Except.ok (Word.text content)) (text_congr names)
  · rfl

theorem decode_congr {code other : Instruction}
    (same : blur.instruction code = blur.instruction other) {acc twin : Word}
    (accs : acc.integer? = twin.integer?) (symbols : SymbolTable) :
    blur.result blur.action (code.decode symbols acc) =
      blur.result blur.action (other.decode symbols twin) := by
  have opcodes : code.opcode = other.opcode := (Instruction.mk.inj same).1
  unfold Instruction.decode
  rw [← opcodes, ← accs]
  cases code.opcode with
  | add | sub | mlt | div | lda | sta | br | bri | brs =>
    simp only [result_map]
    exact resolve_congr _ same symbols
  | set =>
    rw [result_map, result_map]
    have words := congrArg (Except.map Action.assign) (immediate_congr same)
    rwa [map_result, map_result] at words
  | brp | brz =>
    simp only [Instruction.branchIf]
    split
    · simp only [result_map]
      exact resolve_congr _ same symbols
    · rfl
  | neg | inc | dec | hlt | noop => rfl

/-! ### Cycles -/

variable {machine other : Machine}

theorem get_congr (same : blur.machine machine = blur.machine other) (address : Nat) :
    blur.word (machine.memory.get address) = blur.word (other.memory.get address) := by
  obtain ⟨memory, -, -⟩ := machine_eq_iff.mp same
  rw [← get_memory, memory, get_memory]

/-- Machines that are the same decide on the same action. -/
theorem action?_congr (same : blur.machine machine = blur.machine other) :
    blur.result blur.action machine.action? = blur.result blur.action other.action? := by
  obtain ⟨-, symbols, registers⟩ := machine_eq_iff.mp same
  obtain ⟨pc, -, -, acc, -⟩ := registers_eq_iff.mp registers
  have fetched := get_congr same machine.registers.pc
  unfold Machine.action?
  rw [← pc, ← symbols]
  rcases word_eq_cases fetched with
    ⟨code, twin, found, found', codes⟩ | ⟨content, twin, found, found', texts⟩ | ⟨found, plain⟩
  · rw [found, found']
    exact decode_congr codes (integer?_congr acc) machine.symbols
  · rw [found, found']
    exact congrArg (fun text => Except.error (Cause.illegalInstruction (.text text))) texts
  · rw [← found]
    split
    next code instruction => exact absurd instruction (plain code)
    next => rfl

theorem call?_congr (same : blur.machine machine = blur.machine other) :
    machine.call?.map blur.call = other.call?.map blur.call := by
  obtain ⟨-, -, registers⟩ := machine_eq_iff.mp same
  obtain ⟨pc, -, -, acc, -⟩ := registers_eq_iff.mp registers
  have halted : machine.isHalted = other.isHalted := by rw [Machine.isHalted, pc, Machine.isHalted]
  unfold Machine.call?
  rw [halted]
  split
  · rfl
  · rcases result_eq_cases (action?_congr same) with
      ⟨cause, twin, refused, refused', -⟩ | ⟨action, twin, decided, decided', actions⟩
    · rw [refused, refused']
    · rw [decided, decided']
      rcases action_eq_cases actions with rfl | ⟨word, twin, rfl, rfl, -⟩
      · cases action with
        | store target =>
          simp only [Action.call?]
          split
          · exact congrArg (fun text => some (Call.write text)) (render_congr acc)
          · rfl
        | _ => rfl
      · rfl

/-! ### Answers -/

theorem heard_answer (given : Option Answer) :
    (Answer.heard given).map blur.text = Answer.heard (given.map blur.answer) := by
  rcases given with _ | ((_ | _) | _) <;> rfl

theorem word_answer (memory : Memory) (source : Nat) (given : Option Answer) :
    blur.result blur.word (Answer.word memory source given) =
      Answer.word (blur.memory memory) source (given.map blur.answer) := by
  rcases given with _ | ((_ | (_ | _)) | _)
  · exact congrArg Except.ok (get_memory memory source).symm
  · rfl
  · rfl
  · rfl
  · exact congrArg Except.ok (get_memory memory source).symm

theorem refusal?_answer (given : Option Answer) :
    (Answer.refusal? given).map blur.cause = Answer.refusal? (given.map blur.answer) := by
  rcases given with _ | (_ | (_ | _)) <;> rfl

/-! ### Actions and cycles -/

theorem settle_congr (same : blur.machine machine = blur.machine other) (console : κ) (twin : μ)
    {heard line : Option String} (lines : heard.map blur.text = line.map blur.text)
    {outcome counter : Registers × Option Cause}
    (outcomes : blur.registered outcome = blur.registered counter) :
    blur.effect (machine.settle console heard outcome) =
      blur.effect (other.settle twin line counter) := by
  rw [settle_machine, settle_machine, same, lines, outcomes]

/-- A word that is put into the accumulator counts as far as it is kept. -/
theorem acc_congr {registers others : Registers}
    (same : blur.registers registers = blur.registers others) {word given : Word}
    (words : blur.word word = blur.word given) :
    blur.registered ({ registers with acc := word }, none) =
      blur.registered ({ others with acc := given }, none) := by
  obtain ⟨pc, ar, ir, -, b⟩ := registers_eq_iff.mp same
  have kept : blur.registers { registers with acc := word } =
      blur.registers { others with acc := given } :=
    registers_eq_iff.mpr ⟨pc, ar, ir, words, b⟩
  exact congrArg (fun blurred => (blurred, none)) kept

variable [Console κ] [Console μ] {console : κ} {twin : μ}

theorem send_congr (same : blur.machine machine = blur.machine other) (target : Nat)
    (answers :
      (Console.answer? console ((Action.store target).call? machine.registers.acc)).map blur.answer =
        (Console.answer? twin ((Action.store target).call? other.registers.acc)).map blur.answer) :
    blur.effect (machine.send console target) = blur.effect (other.send twin target) := by
  obtain ⟨memory, symbols, registers⟩ := machine_eq_iff.mp same
  obtain ⟨-, -, -, acc, -⟩ := registers_eq_iff.mp registers
  by_cases console_cell : target = 0
  · subst console_cell
    have refusals := congrArg Answer.refusal? answers
    rw [← refusal?_answer, ← refusal?_answer] at refusals
    rw [Machine.send_zero, Machine.send_zero]
    simp only [Blur.effect, same]
    exact congrArg _ refusals
  · rw [Machine.send_of_ne_zero _ _ console_cell, Machine.send_of_ne_zero _ _ console_cell]
    split
    · simp only [Blur.effect, same]
    · simp only [Blur.effect, Blur.machine, put_memory, memory, symbols, registers, acc]

/-- What comes of a word that was asked for is the same if the answers are. -/
theorem received_congr (same : blur.machine machine = blur.machine other) (source : Nat)
    (answers : (Console.answer? console (Call.toRead source)).map blur.answer =
      (Console.answer? twin (Call.toRead source)).map blur.answer) :
    blur.result blur.word (receive machine.memory console source).word =
        blur.result blur.word (receive other.memory twin source).word ∧
      (receive machine.memory console source).heard.map blur.text =
        (receive other.memory twin source).heard.map blur.text := by
  obtain ⟨memory, -, -⟩ := machine_eq_iff.mp same
  rw [receive_eq, receive_eq]
  exact ⟨by rw [word_answer, word_answer, memory, answers],
    by rw [heard_answer, heard_answer, answers]⟩

theorem perform_congr (same : blur.machine machine = blur.machine other) {action counter : Action}
    (actions : blur.action action = blur.action counter)
    (answers : (Console.answer? console (action.call? machine.registers.acc)).map blur.answer =
      (Console.answer? twin (counter.call? other.registers.acc)).map blur.answer) :
    blur.effect (machine.perform console action) = blur.effect (other.perform twin counter) := by
  obtain ⟨-, -, registers⟩ := machine_eq_iff.mp same
  have aimed : ∀ address, blur.machine (machine.aim address) = blur.machine (other.aim address) :=
    fun address => congrArg (fun blurred => Machine.aim blurred address) same
  have aimed_registers : ∀ address,
      blur.registers (machine.aim address).registers = blur.registers (other.aim address).registers :=
    fun address => (machine_eq_iff.mp (aimed address)).2.2
  -- The machines perform one action, or both assign a word; these words are the same, that is all.
  rcases action_eq_cases actions with rfl | ⟨word, given, rfl, rfl, words⟩
  · cases action with
    | combine op source =>
      obtain ⟨words, heard⟩ := received_congr same source answers
      simp only [Machine.perform]
      rcases result_eq_cases words with
        ⟨cause, blamed, refused, refused', causes⟩ | ⟨word, given, received, received', words⟩
      · rw [refused, refused']
        simp only [Blur.effect, aimed, heard, Option.map_some, causes]
      · rw [received, received']
        apply settle_congr (aimed source) _ _ heard
        rw [combine_registers, combine_registers, words, aimed_registers]
    | load source =>
      obtain ⟨words, heard⟩ := received_congr same source answers
      simp only [Machine.perform]
      rcases result_eq_cases words with
        ⟨cause, blamed, refused, refused', causes⟩ | ⟨word, given, received, received', words⟩
      · rw [refused, refused']
        simp only [Blur.effect, aimed, heard, Option.map_some, causes]
      · rw [received, received']
        exact settle_congr (aimed source) _ _ heard (acc_congr (aimed_registers source) words)
    | store target => exact send_congr (aimed target) target answers
    | call target => rw [Machine.perform, Machine.perform, enter_machine, enter_machine, same]
    | adjust op =>
      apply settle_congr same _ _ rfl
      rw [adjust_registers, adjust_registers, registers]
    | jump target =>
      apply settle_congr same _ _ rfl
      exact congrArg (fun blurred => ({ blurred with pc := target }, none)) registers
    | jumpThrough cell =>
      apply settle_congr (aimed cell) _ _ rfl
      rw [goTo_registers, goTo_registers, aimed_registers, get_congr (aimed cell) cell]
    | assign word => exact settle_congr same _ _ rfl (acc_congr registers rfl)
    | skip => simp only [Machine.perform, Blur.effect, same]
  · exact settle_congr same _ _ rfl (acc_congr registers words)

/-- Machines that are the same take the same step if their consoles answer the same. -/
theorem step_congr (same : blur.machine machine = blur.machine other)
    (answers : (Console.answer? console machine.call?).map blur.answer =
      (Console.answer? twin other.call?).map blur.answer) :
    blur.cycle (machine.step console) = blur.cycle (other.step twin) := by
  obtain ⟨-, -, registers⟩ := machine_eq_iff.mp same
  obtain ⟨pc, -, -, -, -⟩ := registers_eq_iff.mp registers
  have fetched : blur.machine machine.fetch = blur.machine other.fetch := by
    rw [fetch_machine, same, fetch_machine]
  -- Both machines have stopped, or both refuse a word, or both perform an action.
  cases state : machine.isHalted with
  | true =>
    have halted : other.isHalted = true := by rw [← state, Machine.isHalted, ← pc, Machine.isHalted]
    rw [Machine.step_of_halted state, Machine.step_of_halted halted]
    simp only [Blur.cycle, same, Option.map_none]
  | false =>
    have running : other.isHalted = false := by rw [← state, Machine.isHalted, ← pc, Machine.isHalted]
    rcases result_eq_cases (action?_congr same) with
      ⟨cause, blamed, refused, refused', causes⟩ | ⟨action, counter, decided, decided', actions⟩
    · -- A refused word is a failure of the machine that fetched it.
      have failed : blur.effect { machine := machine.fetch, console, failure := some cause } =
          blur.effect { machine := other.fetch, console := twin, failure := some blamed } := by
        simp only [Blur.effect, fetched, Option.map_some, causes]
      rw [Machine.step_of_error state refused, Machine.step_of_error running refused']
      calc _ = Effect.finish _ machine.registers.pc :=
            finish_effect { machine := machine.fetch, console, failure := some cause } _
        _ = Effect.finish _ other.registers.pc := by rw [failed, pc]
        _ = _ :=
            (finish_effect { machine := other.fetch, console := twin, failure := some blamed } _).symm
    · rw [Machine.call?_of_action state decided, Machine.call?_of_action running decided'] at answers
      have advanced : blur.machine machine.fetch.advance = blur.machine other.fetch.advance :=
        congrArg Machine.advance fetched
      rw [Machine.step_of_action state decided, Machine.step_of_action running decided',
        finish_effect, finish_effect, perform_congr advanced actions answers, pc]

end Blur

/-! ### Rows of cycles -/

variable [Console κ] [Console μ]

/-- Do consoles that are alike answer the same to calls that are the same, and are they alike again
after them? -/
structure Console.Alike (blur : Blur) (alike : κ → μ → Prop) : Prop where
  answer : ∀ console twin call counter, alike console twin →
    Option.map blur.call call = Option.map blur.call counter →
    (answer? console call).map blur.answer = (answer? twin counter).map blur.answer
  after : ∀ console twin call counter, alike console twin →
    Option.map blur.call call = Option.map blur.call counter →
    alike (after console call) (after twin counter)

namespace Blur

variable {blur : Blur} {alike : κ → μ → Prop} (consoles : Console.Alike blur alike)
variable {machine other : Machine} {console : κ} {twin : μ}

include consoles

theorem step_alike (same : blur.machine machine = blur.machine other) (start : alike console twin) :
    blur.cycle (machine.step console) = blur.cycle (other.step twin) ∧
      alike (machine.step console).console (other.step twin).console := by
  have calls := call?_congr same
  refine ⟨step_congr same (consoles.answer console twin _ _ start calls), ?_⟩
  rw [Machine.step_console, Machine.step_console]
  exact consoles.after console twin _ _ start calls

theorem cycleAt_alike (same : blur.machine machine = blur.machine other) (start : alike console twin)
    (k : Nat) :
    blur.cycle (machine.cycleAt console k) = blur.cycle (other.cycleAt twin k) ∧
      alike (machine.cycleAt console k).console (other.cycleAt twin k).console := by
  induction k with
  | zero => exact step_alike consoles same start
  | succ k ih =>
    obtain ⟨cycles, left⟩ := ih
    exact step_alike consoles (congrArg Cycle.machine cycles) left

theorem machineAt_alike (same : blur.machine machine = blur.machine other)
    (start : alike console twin) (k : Nat) :
    blur.machine (machine.machineAt console k) = blur.machine (other.machineAt twin k) := by
  cases k with
  | zero => exact same
  | succ k => exact congrArg Cycle.machine (cycleAt_alike consoles same start k).1

theorem consoleAt_alike (same : blur.machine machine = blur.machine other)
    (start : alike console twin) (k : Nat) :
    alike (machine.consoleAt console k) (other.consoleAt twin k) := by
  cases k with
  | zero => exact start
  | succ k => exact (cycleAt_alike consoles same start k).2

theorem continueFor_alike (limit : Nat) (same : blur.machine machine = blur.machine other)
    (start : alike console twin) (done : Nat) :
    blur.run (machine.continueFor limit console done) =
        blur.run (other.continueFor limit twin done) ∧
      alike (machine.continueFor limit console done).console
        (other.continueFor limit twin done).console := by
  -- By induction on the limit, for any two states that are the same through the blur; the states
  -- behind a cycle are such states again.
  induction limit generalizing machine other console twin done with
  | zero => exact ⟨by simp only [Machine.continueFor, Blur.run, same], start⟩
  | succ limit ih =>
    obtain ⟨cycles, left⟩ := step_alike consoles same start
    have machines := congrArg Cycle.machine cycles
    simp only [Machine.continueFor]
    -- Both runs go on, or both end here.
    rcases outcome_eq_cases (congrArg Cycle.outcome cycles) with
      ⟨first, second⟩ | ⟨first, second⟩ | ⟨fault, blamed, first, second, faults⟩
    · rw [first, second]
      exact ih machines left (done + 1)
    · rw [first, second]
      refine ⟨?_, left⟩
      exact congrArg (fun blurred => Run.mk blurred () (some (.halted (done + 1)))) machines
    · rw [first, second]
      refine ⟨?_, left⟩
      simp only [Blur.run, Option.map_some, Blur.ending, faults, Run.mk.injEq, and_true]
      exact machines

theorem runFor_alike (limit : Nat) (same : blur.machine machine = blur.machine other)
    (start : alike console twin) :
    blur.run (machine.runFor limit console) = blur.run (other.runFor limit twin) ∧
      alike (machine.runFor limit console).console (other.runFor limit twin).console := by
  have restarted : blur.machine machine.restart = blur.machine other.restart :=
    congrArg Machine.restart same
  exact continueFor_alike consoles limit restarted start 0

end Blur

end Accumulator
