import Accumulator.Proofs.Calculation
import Accumulator.Proofs.ConsoleCalls
import Accumulator.Proofs.PrintedWords

/-!
# Machines that print the same

A machine asks of a word which integer it stands for, prints it or passes it on, unless it executes
it. None of this tells a word from what was printed of it (`Word.integer?_echo`). So machines that hold
words that print the same, and fetch the same words, go on alike and hold such words again
(`Echoes.step`), for as many cycles as they fetch the same words (`Echoes.machineAt`). Main statement:
`step_echo`.
-/
namespace Accumulator

/-! ### What prints the same -/

/-- The cause, with the text that is printed of the word that it blames. -/
def Cause.echo : Cause → Cause
  | .nonNumeric word => .nonNumeric word.echo
  | .illegalInstruction word => .illegalInstruction word.echo
  | cause => cause

/-- Do PC, the accumulator and B print the same? AR and IR say where a word came from, and what was
executed, which may differ. -/
structure Registers.Echoes (left right : Registers) : Prop where
  pc : left.pc = right.pc
  acc : left.acc.echo = right.acc.echo
  b : left.b.echo = right.b.echo

structure Memory.Echoes (left right : Memory) : Prop where
  size : left.size = right.size
  cells : ∀ address, (left.get address).echo = (right.get address).echo

structure Machine.Echoes (left right : Machine) : Prop where
  memory : left.memory.Echoes right.memory
  symbols : left.symbols = right.symbols
  registers : left.registers.Echoes right.registers

inductive Outcome.Echoes : Outcome → Outcome → Prop
  | continued : Echoes .continued .continued
  | halted : Echoes .halted .halted
  | faulted {fault twin : Fault} (address : fault.address = twin.address)
      (cause : fault.cause.echo = twin.cause.echo) : Echoes (.faulted fault) (.faulted twin)

/-- Did the registers become such that print the same, and did what was done to them fail alike? -/
structure Registers.Settled (left right : Registers × Option Cause) : Prop where
  registers : left.1.Echoes right.1
  failure : left.2.map Cause.echo = right.2.map Cause.echo

variable {κ μ : Type}

/-- What an action makes of the registers, and why it fails. -/
def Effect.settled (effect : Effect κ) : Registers × Option Cause :=
  (effect.machine.registers, effect.failure)

/-! ### Registers -/

namespace Registers.Echoes

variable {left right : Registers}

theorem refuse (echoes : left.Echoes right) (cause : Cause) :
    Settled (left, some cause) (right, some cause) := ⟨echoes, rfl⟩

theorem nonNumeric (echoes : left.Echoes right) {word other : Word}
    (words : word.echo = other.echo) :
    Settled (left, some (.nonNumeric word)) (right, some (.nonNumeric other)) :=
  ⟨echoes, congrArg (fun word => some (Cause.nonNumeric word)) words⟩

theorem accept (echoes : left.Echoes right) (found : Except Cause Integer) :
    Settled (left.accept found) (right.accept found) := by
  cases found with
  | ok value => exact ⟨⟨echoes.pc, rfl, echoes.b⟩, rfl⟩
  | error cause => exact echoes.refuse cause

theorem combine (echoes : left.Echoes right) (op : Arithmetic) {word other : Word}
    (words : word.echo = other.echo) :
    Settled (left.combine op word) (right.combine op other) := by
  unfold Registers.combine
  rw [← Word.integer?_congr words]
  cases word.integer? with
  | none => exact echoes.nonNumeric words
  | some b =>
    -- B holds the integer itself on both sides, whatever the word was.
    have loaded : { left with b := .integer b }.Echoes { right with b := .integer b } :=
      ⟨echoes.pc, echoes.acc, rfl⟩
    dsimp only
    rw [← Word.integer?_congr echoes.acc]
    cases left.acc.integer? with
    | none => exact loaded.nonNumeric echoes.acc
    | some a => exact loaded.accept _

theorem adjust (echoes : left.Echoes right) (op : Adjustment) :
    Settled (left.adjust op) (right.adjust op) := by
  unfold Registers.adjust
  rw [← Word.integer?_congr echoes.acc]
  cases left.acc.integer? with
  | none => exact echoes.nonNumeric echoes.acc
  | some a => exact echoes.accept _

theorem goTo (echoes : left.Echoes right) {word other : Word} (words : word.echo = other.echo) :
    Settled (left.goTo word) (right.goTo other) := by
  unfold Registers.goTo
  rw [← Word.integer?_congr words]
  cases word.integer? with
  | none => exact echoes.nonNumeric words
  | some target =>
    dsimp only
    split
    · exact echoes.refuse _
    · exact ⟨⟨rfl, echoes.acc, echoes.b⟩, rfl⟩

end Registers.Echoes

theorem Memory.Echoes.put {left right : Memory} (echoes : left.Echoes right) (target : Nat)
    {word other : Word} (words : word.echo = other.echo) :
    (left.put target word).Echoes (right.put target other) where
  size := by rw [size_put, size_put, echoes.size]
  cells address := by
    rw [get_put, get_put]
    split
    · exact words
    · exact echoes.cells address

/-! ### Actions -/

theorem Registers.Settled.finish {left : Effect κ} {right : Effect μ}
    (settled : Settled left.settled right.settled) (address : Nat) :
    (left.finish address).outcome.Echoes (right.finish address).outcome ∧
      (left.finish address).machine.registers.Echoes (right.finish address).machine.registers := by
  obtain ⟨registers, failure⟩ := settled
  simp only [Effect.settled] at registers failure
  cases failed : left.failure with
  | none =>
    rw [failed, Option.map_none, eq_comm, Option.map_eq_none_iff] at failure
    have halted : left.machine.isHalted = right.machine.isHalted := by
      rw [Machine.isHalted, registers.pc, Machine.isHalted]
    rw [Effect.finish_of_success failed, Effect.finish_of_success failure]
    refine ⟨?_, registers⟩
    dsimp only
    rw [halted]
    split
    · exact .halted
    · exact .continued
  | some cause =>
    rw [failed, Option.map_some, eq_comm, Option.map_eq_some_iff] at failure
    obtain ⟨twin, failed', causes⟩ := failure
    rw [Effect.finish_of_failure failed, Effect.finish_of_failure failed']
    exact ⟨.faulted rfl causes.symm, rfl, registers.acc, registers.b⟩

namespace Machine

variable [Console κ] [Console μ] {left right : Machine}

/-- An action that takes a word depends on what the word prints, not on where it was taken from. -/
theorem settled_of_take (echoes : left.registers.Echoes right.registers) {console : κ} {other : μ}
    {source target : Nat} {word line : Word}
    (taken : (receive left.memory console source).word = .ok word)
    (read : (receive right.memory other target).word = .ok line) (words : word.echo = line.echo) :
    Registers.Settled (left.perform console (.load source)).settled
        (right.perform other (.load target)).settled ∧
      ∀ op, Registers.Settled (left.perform console (.combine op source)).settled
        (right.perform other (.combine op target)).settled := by
  have aimed : (left.aim source).registers.Echoes (right.aim target).registers :=
    ⟨echoes.pc, echoes.acc, echoes.b⟩
  simp only [perform, taken, read]
  exact ⟨⟨⟨aimed.pc, words, aimed.b⟩, rfl⟩, fun op => aimed.combine op words⟩

end Machine

namespace Machine.Echoes

variable [Console κ] {left right : Machine}

/-- What is at an address prints the same, or the console gives nothing to either machine. -/
theorem receive (echoes : left.Echoes right) (console : κ) (source : Nat) :
    (∃ word other, (receive left.memory console source).word = .ok word ∧
        (receive right.memory console source).word = .ok other ∧ word.echo = other.echo) ∨
      ∃ cause, (receive left.memory console source).word = .error cause ∧
        (receive right.memory console source).word = .error cause := by
  by_cases console_cell : source = 0
  · have same : Accumulator.receive right.memory console source =
        Accumulator.receive left.memory console source := by
      simp only [Accumulator.receive, if_pos console_cell]
    rw [same]
    cases (Accumulator.receive left.memory console source).word with
    | ok word => exact .inl ⟨word, word, rfl, rfl, rfl⟩
    | error cause => exact .inr ⟨cause, rfl, rfl⟩
  · simp only [Accumulator.receive, if_neg console_cell]
    exact .inl ⟨_, _, rfl, rfl, echoes.memory.cells source⟩

/-- What a machine sends to the console prints the same, and so does what it stores. -/
theorem send (echoes : left.Echoes right) (console : κ) (target : Nat) :
    Registers.Settled (left.send console target).settled (right.send console target).settled ∧
      (left.send console target).machine.memory.Echoes
        (right.send console target).machine.memory := by
  by_cases console_cell : target = 0
  · subst console_cell
    -- Both hand the console the same text, so it gives both the same answer.
    have shown := Word.echo_eq_echo_iff.mp echoes.registers.acc
    rw [send_zero, send_zero, shown]
    exact ⟨⟨echoes.registers, rfl⟩, echoes.memory⟩
  · rw [send_of_ne_zero _ _ console_cell, send_of_ne_zero _ _ console_cell]
    split
    · exact ⟨echoes.registers.refuse _, echoes.memory⟩
    · exact ⟨⟨echoes.registers, rfl⟩, echoes.memory.put target echoes.registers.acc⟩

omit [Console κ] in
theorem enter (echoes : left.Echoes right) (console : κ) (target : Nat) :
    Registers.Settled (left.enter console target).settled (right.enter console target).settled ∧
      (left.enter console target).machine.memory.Echoes
        (right.enter console target).machine.memory := by
  unfold Machine.enter
  rw [← echoes.registers.pc]
  split
  · exact ⟨echoes.registers.refuse _, echoes.memory⟩
  · split
    · exact ⟨echoes.registers.refuse _, echoes.memory⟩
    · exact ⟨echoes.registers.refuse _, echoes.memory⟩
    · exact ⟨⟨⟨rfl, echoes.registers.acc, echoes.registers.b⟩, rfl⟩, echoes.memory.put target rfl⟩

theorem perform (echoes : left.Echoes right) (console : κ) (action : Action) :
    Registers.Settled (left.perform console action).settled
        (right.perform console action).settled ∧
      (left.perform console action).machine.memory.Echoes
        (right.perform console action).machine.memory := by
  have aimed (address : Nat) : (left.aim address).Echoes (right.aim address) :=
    { echoes with registers := ⟨echoes.registers.pc, echoes.registers.acc, echoes.registers.b⟩ }
  cases action with
  | combine op source =>
    rcases echoes.receive console source with
      ⟨word, other, taken, read, words⟩ | ⟨cause, refused, refused'⟩
    · refine ⟨(settled_of_take echoes.registers taken read words).2 op, ?_⟩
      simp only [Machine.perform, taken, read]
      exact echoes.memory
    · simp only [Machine.perform, refused, refused']
      exact ⟨(aimed source).registers.refuse cause, echoes.memory⟩
  | load source =>
    rcases echoes.receive console source with
      ⟨word, other, taken, read, words⟩ | ⟨cause, refused, refused'⟩
    · refine ⟨(settled_of_take echoes.registers taken read words).1, ?_⟩
      simp only [Machine.perform, taken, read]
      exact echoes.memory
    · simp only [Machine.perform, refused, refused']
      exact ⟨(aimed source).registers.refuse cause, echoes.memory⟩
  | adjust op => exact ⟨echoes.registers.adjust op, echoes.memory⟩
  | assign word => exact ⟨⟨⟨echoes.registers.pc, rfl, echoes.registers.b⟩, rfl⟩, echoes.memory⟩
  | store target => exact (aimed target).send console target
  | jump target => exact ⟨⟨⟨rfl, echoes.registers.acc, echoes.registers.b⟩, rfl⟩, echoes.memory⟩
  | jumpThrough cell =>
    exact ⟨(aimed cell).registers.goTo (echoes.memory.cells cell), echoes.memory⟩
  | call target => exact echoes.enter console target
  | skip => exact ⟨⟨echoes.registers, rfl⟩, echoes.memory⟩

end Machine.Echoes

/-! ### Cycles -/

theorem Registers.Echoes.fetch_advance {left right : Machine}
    (echoes : left.registers.Echoes right.registers) :
    left.fetch.advance.registers.Echoes right.fetch.advance.registers :=
  ⟨congrArg Nat.succ echoes.pc, echoes.acc, echoes.b⟩

theorem Registers.Echoes.isHalted_eq {left right : Machine}
    (echoes : left.registers.Echoes right.registers) : left.isHalted = right.isHalted := by
  rw [Machine.isHalted, echoes.pc, Machine.isHalted]

/-- Decoding asks which integer the accumulator stands for, and nothing else about it. -/
theorem Instruction.decode_congr {acc twin : Word} (same : acc.integer? = twin.integer?)
    (symbols : SymbolTable) (code : Instruction) :
    code.decode symbols acc = code.decode symbols twin := by
  unfold decode
  rw [same]

namespace Machine

/-- Do the machines fetch the same word next? -/
def FetchAlike (left right : Machine) : Prop :=
  left.memory.get left.registers.pc = right.memory.get right.registers.pc

namespace Echoes

variable [Console κ] {left right : Machine}

theorem action?_eq (echoes : left.Echoes right) (fetched : left.FetchAlike right) :
    left.action? = right.action? := by
  unfold action?
  rw [fetched, echoes.symbols]
  split
  · exact Instruction.decode_congr (Word.integer?_congr echoes.registers.acc) _ _
  · rfl

theorem call?_eq (echoes : left.Echoes right) (fetched : left.FetchAlike right) :
    left.call? = right.call? := by
  have shown := Word.echo_eq_echo_iff.mp echoes.registers.acc
  unfold call?
  rw [echoes.registers.isHalted_eq, echoes.action?_eq fetched]
  cases right.action? with
  | error cause => rfl
  | ok action => cases action <;> simp only [Action.call?, shown]

theorem step (echoes : left.Echoes right) (fetched : left.FetchAlike right) (console : κ) :
    (left.step console).outcome.Echoes (right.step console).outcome ∧
      (left.step console).machine.Echoes (right.step console).machine := by
  have halted := echoes.registers.isHalted_eq
  have actions := echoes.action?_eq fetched
  have symbols : (left.step console).machine.symbols = (right.step console).machine.symbols := by
    rw [step_symbols, step_symbols, echoes.symbols]
  cases state : left.isHalted with
  | true =>
    rw [step_of_halted state, step_of_halted (halted.symm.trans state)]
    exact ⟨.halted, echoes⟩
  | false =>
    have running := halted.symm.trans state
    cases decision : left.action? with
    | error cause =>
      rw [step_of_error state decision, step_of_error running (actions.symm.trans decision)]
      exact ⟨.faulted echoes.registers.pc rfl,
        { echoes with registers := ⟨rfl, echoes.registers.acc, echoes.registers.b⟩ }⟩
    | ok action =>
      -- Up to here only registers have changed, and PC alike.
      have advanced : left.fetch.advance.Echoes right.fetch.advance :=
        { echoes with registers := echoes.registers.fetch_advance }
      obtain ⟨settled, memory⟩ := advanced.perform console action
      rw [step_of_action state decision, step_of_action running (actions.symm.trans decision),
        ← echoes.registers.pc] at symbols ⊢
      obtain ⟨outcome, registers⟩ := settled.finish left.registers.pc
      refine ⟨outcome, ?_, symbols, registers⟩
      rwa [(Effect.finish_keeps _ _).2, (Effect.finish_keeps _ _).2]

theorem step_traffic (echoes : left.Echoes right) (fetched : left.FetchAlike right) (console : κ) :
    (left.step console).console = (right.step console).console ∧
      (left.step console).heard = (right.step console).heard := by
  rw [step_console, step_console, step_heard, step_heard, echoes.call?_eq fetched]
  exact ⟨rfl, rfl⟩

/-- A row of cycles goes alike for as long as both machines fetch the same words. -/
theorem machineAt (echoes : left.Echoes right) (console : κ) {k : Nat}
    (fetched : ∀ j < k, (left.machineAt console j).FetchAlike (right.machineAt console j)) :
    (left.machineAt console k).Echoes (right.machineAt console k) ∧
      left.consoleAt console k = right.consoleAt console k := by
  induction k with
  | zero => exact ⟨echoes, rfl⟩
  | succ k ih =>
    -- The consoles stay the same, so the next cycle is one on the same console.
    obtain ⟨machines, consoles⟩ := ih fun j earlier => fetched j (Nat.lt_succ_of_lt earlier)
    have same := fetched k (Nat.lt_succ_self k)
    rw [machineAt_eq_step, machineAt_eq_step, consoleAt, consoleAt, cycleAt_eq_step,
      cycleAt_eq_step, consoles]
    exact ⟨(machines.step same _).2, (machines.step_traffic same _).1⟩

end Echoes

/-! ### Words from a cell and from the console -/

variable [Console κ] [Console μ] {left right : Machine}

theorem action?_of_yields {machine : Machine} {console : κ} {code : Instruction} {word : Word}
    (found : machine.fetched? = some code) (yields : machine.Yields console code word) :
    ∃ source, (receive machine.memory console source).word = .ok word ∧
      (code.opcode = .lda → machine.action? = .ok (.load source)) ∧
      ∀ op : Arithmetic, code.opcode = op.opcode → machine.action? = .ok (.combine op source) := by
  obtain ⟨source, resolved, received⟩ := yields_iff.mp yields
  have decoded := action?_of_found (fetched?_eq_some_iff.mp found)
  refine ⟨source, received, fun opcode => ?_, fun op opcode => ?_⟩
  · exact decoded.trans (Instruction.decode_eq_ok_iff.mpr (.lda opcode resolved))
  · exact decoded.trans (Instruction.decode_eq_ok_iff.mpr (.combine opcode resolved))

/-- An instruction that takes a word leaves the memory alone. -/
theorem memory_of_taker {machine : Machine} {code : Instruction}
    (found : machine.fetched? = some code) (taker : code.opcode ∈ Opcode.takers) (console : κ) :
    (machine.step console).machine.memory = machine.memory := by
  rcases machine.step_memory console with same | ⟨action, target, _, decided, writes, -⟩
  · exact same
  · obtain ⟨twin, fetched, decoded⟩ := action?_eq_ok_iff.mp decided
    obtain rfl := Option.some.inj (found.symm.trans (fetched?_eq_some_iff.mpr fetched))
    rcases (Instruction.writer_of_target decoded writes).1 with opcode | opcode
    · rw [opcode] at taker
      exact absurd taker (by decide)
    · rw [opcode] at taker
      exact absurd taker (by decide)

theorem step_take (echoes : left.registers.Echoes right.registers)
    (running : left.isHalted = false) {console : κ} {other : μ} {code twin : Instruction} {word line : Word}
    (found : left.fetched? = some code) (found' : right.fetched? = some twin)
    (opcodes : code.opcode = twin.opcode) (taker : code.opcode ∈ Opcode.takers)
    (taken : left.Yields console code word) (read : right.Yields other twin line)
    (words : word.echo = line.echo) :
    (left.step console).outcome.Echoes (right.step other).outcome ∧
      (left.step console).machine.registers.Echoes (right.step other).machine.registers := by
  have running' := echoes.isHalted_eq.symm.trans running
  obtain ⟨source, received, loads, combines⟩ := action?_of_yields found taken
  obtain ⟨target, received', loads', combines'⟩ := action?_of_yields found' read
  have settled := settled_of_take echoes.fetch_advance received received' words
  rcases Opcode.eq_of_mem_takers taker with lda | ⟨op, opcode⟩
  · rw [step_of_action running (loads lda), step_of_action running' (loads' (opcodes ▸ lda)),
      ← echoes.pc]
    exact settled.1.finish _
  · rw [step_of_action running (combines op opcode),
      step_of_action running' (combines' op (opcodes ▸ opcode)), ← echoes.pc]
    exact (settled.2 op).finish _

/-- What is printed of a word and read again stands for the same integer, or for none if the word
does. So no instruction tells the two apart, wherever the word is: if two machines fetch the same word
and all that they hold prints the same, the cycle ends alike and what they hold still prints the
same. And it makes no difference whether an instruction takes a word from a cell, or takes from the
console what was printed of it. -/
theorem step_echo :
    (∀ word : Word, word.echo.integer? = word.integer?) ∧
    (∀ value, (Word.integer value).echo.integer? = some value) ∧
    Word.unset.echo.integer? = none ∧ (∀ code, (Word.instruction code).echo.integer? = none) ∧
    (∀ (machine : Machine) {κ : Type} [Console κ] (console : κ), machine.Executes .sta 0 →
      machine.stepCalls console = [.write machine.registers.acc.render]) ∧
    (∀ (left right : Machine) {κ : Type} [Console κ] (console : κ), left.Echoes right →
      (left.FetchAlike right →
        (left.step console).outcome.Echoes (right.step console).outcome ∧
          (left.step console).machine.Echoes (right.step console).machine ∧
          (left.step console).console = (right.step console).console ∧
          (left.step console).heard = (right.step console).heard) ∧
      ∀ k, (∀ j < k, (left.machineAt console j).FetchAlike (right.machineAt console j)) →
        (left.machineAt console k).Echoes (right.machineAt console k) ∧
          left.consoleAt console k = right.consoleAt console k) ∧
    ∀ (left right : Machine) {κ μ : Type} [Console κ] [Console μ] (console : κ) (other : μ)
      code twin word line, left.registers.Echoes right.registers → left.isHalted = false →
        left.fetched? = some code → right.fetched? = some twin →
        code.opcode = twin.opcode → code.opcode ∈ Opcode.takers →
        left.Yields console code word → right.Yields other twin line → word.echo = line.echo →
          (left.step console).outcome.Echoes (right.step other).outcome ∧
            (left.step console).machine.registers.Echoes (right.step other).machine.registers ∧
            (left.step console).machine.memory = left.memory ∧
            (right.step other).machine.memory = right.memory := by
  refine ⟨Word.integer?_echo, fun _ => Word.integer?_echo _, Word.integer?_echo _,
    fun _ => Word.integer?_echo _, ?_, ?_, ?_⟩
  · intro machine _ _ console prints
    rw [stepCalls_eq, call?_eq_write_iff.mpr ⟨prints, rfl⟩, Option.toList_some]
  · intro left right _ _ console echoes
    refine ⟨fun fetched => ?_, fun k fetched => echoes.machineAt console fetched⟩
    obtain ⟨outcome, machine⟩ := echoes.step fetched console
    exact ⟨outcome, machine, echoes.step_traffic fetched console⟩
  · intro left right _ _ _ _ console other code twin word line echoes running found found' opcodes
      taker taken read words
    obtain ⟨outcome, registers⟩ :=
      step_take echoes running found found' opcodes taker taken read words
    exact ⟨outcome, registers, memory_of_taker found taker console,
      memory_of_taker found' (opcodes ▸ taker) other⟩

/-- The least integer, printed and then negated as an integer and as a text; and the placeholder,
which an addition blames no matter whether it is in a cell or was printed. -/
theorem step_echo_least :
    let machine (source : String) (acc : Word) : Machine :=
      { (ofSource source).1 with registers := { acc } }
    let least : Word := .integer Int64.minValue
    let printed : Word := .text "-9223372036854775808"
    let console : Script := {}
    printed.integer? = some Int64.minValue ∧
      (machine "sta stdout" least).stepCalls console = [.write "-9223372036854775808"] ∧
      ((machine "neg" least).step console).outcome.Echoes
        ((machine "neg" printed).step console).outcome ∧
      ((machine "neg" least).machineAt console 1).Echoes
        ((machine "neg" printed).machineAt console 1) ∧
      ((machine "add 2" least).step console).outcome.Echoes
        ((machine "add stdin" printed).step (Script.ofText "?")).outcome := by
  intro machine least printed console
  have shown : least.render = "-9223372036854775808" := by decide +kernel
  have echo : least.echo = printed := congrArg Word.text shown
  obtain ⟨-, integers, -, -, prints, alike, take⟩ := step_echo
  have prints : (machine "sta stdout" least).stepCalls console = [.write least.render] :=
    prints (machine "sta stdout" least) console (by decide +kernel)
  have machines : (machine "neg" least).Echoes (machine "neg" printed) :=
    ⟨⟨rfl, fun _ => rfl⟩, rfl, ⟨rfl, echo, rfl⟩⟩
  obtain ⟨cycle, row⟩ := alike (machine "neg" least) (machine "neg" printed) console machines
  have empty : (machine "add 2" least).memory.get 2 = .unset := by decide +kernel
  have added : (machine "add 2" least).Yields console ⟨.add, some (.literal 2)⟩ .unset := by
    rw [← empty]
    exact .cell (.literal rfl) (by decide)
  have read : (machine "add stdin" printed).Yields (Script.ofText "?") ⟨.add, some (.literal 0)⟩
      (.text "?") := .line (.literal rfl) rfl
  refine ⟨echo ▸ integers Int64.minValue, shown ▸ prints, (cycle rfl).1,
    (row 1 fun j first => ?_).1, ?_⟩
  · obtain rfl : j = 0 := by omega
    exact rfl
  · exact (take (machine "add 2" least) (machine "add stdin" printed) console (Script.ofText "?")
      ⟨.add, some (.literal 2)⟩ ⟨.add, some (.literal 0)⟩ .unset (.text "?") ⟨rfl, echo, rfl⟩ rfl
      (by decide +kernel) (by decide +kernel) rfl (by decide) added read rfl).1

end Machine

end Accumulator
