import Accumulator.CommandLine.Session
import Accumulator.Proofs.Cycles
import Accumulator.Proofs.Disassembly
import Accumulator.Proofs.Provenance
import Accumulator.Proofs.Writes

/-!
# What a load warns of

A name without a label and a numeral without an address do no harm until an instruction asks what
they stand for. By then the program may have copied that instruction anywhere. But every instruction
that is ever executed stands in the program as it was loaded (`Word.StandsIn`), and the labels are
those of the load (`step_symbols`), so the report of the load has the operand. Only an address that
is too high to write to cannot be told beforehand. Main statement: `after_warned`.
-/
namespace Accumulator

/-- Does the report of a load foretell the cause? It has no part in a refused write: a program may
write up to `maxAddress` only, but read at every address. -/
def Report.WarnsOf (report : Report) : Cause → Prop
  | .undefinedLabel name => ∃ line, (line, name) ∈ report.unresolved
  | .addressOutOfRange digits =>
    (∃ line, (line, digits) ∈ report.outOfRange) ∨
      ∃ address, digits = toString address ∧ maxAddress < address ∧ address < addressLimit
  | _ => True

/-- What a check says of an operand that is still a name. -/
def unknownMessage (line : Nat) (name : String) : String :=
  Session.message "Unknown" ("line " ++ toString line ++ ": label `" ++ name ++
    "` is never defined")

/-- Is this a step, a run or a poke of a word that is no instruction? -/
def Operation.BringsNoCode : Operation → Prop
  | .load _ => False
  | .poke _ word => ∀ code, word ≠ .instruction code
  | @step _ _ _ | @run _ _ _ _ => True

/-- Can the machine fault for this reason, in its next cycle or in a run? -/
def Machine.FaultsFor {κ : Type} [Console κ] (machine : Machine) (console : κ) (cause : Cause) :
    Prop :=
  (machine.step console).outcome.cause? = some cause ∨
    ∃ limit fault, (machine.runFor limit console).ending = some (.faulted fault) ∧
      fault.cause = cause

theorem Session.unknownMessage_mem_checkLines {source : String} {report : Report} {line : Nat}
    {name : String} (unknown : (line, name) ∈ report.unresolved) :
    unknownMessage line name ∈ checkLines source report := by
  simp only [checkLines, List.append_assoc, List.mem_append]
  refine .inr (.inl (List.mem_map.mpr ⟨(line, name), unknown, ?_⟩))
  rw [unknownMessage]

/-! ### Code during execution -/

/-- Is the word, if it is an instruction, one of the program? -/
def Word.StandsIn (code : Code) (word : Word) : Prop :=
  ∀ instruction, word = .instruction instruction → ∃ line, (line, instruction) ∈ code

theorem Word.standsIn_inherited (code : Code) : Inherited (Word.StandsIn code) where
  unset := nofun
  integer _ := nofun
  label _ _ _ _ := nofun

namespace Code

theorem mem_outOfRange_iff {code : Code} {line : Nat} {digits : String} :
    (line, digits) ∈ code.outOfRange ↔
      ∃ instruction, (line, instruction) ∈ code ∧
        instruction.operand = some (.outOfRange digits) := by
  simp only [outOfRange, List.mem_filterMap, Prod.exists]
  constructor
  · rintro ⟨line, instruction, member, found⟩
    split at found
    next operand =>
      cases found
      exact ⟨instruction, member, operand⟩
    next => cases found
  · rintro ⟨instruction, member, operand⟩
    exact ⟨line, instruction, member, by rw [operand]⟩

theorem standsIn_memory (code : Code) (address : Nat) :
    (code.memory.get address).StandsIn code := by
  intro instruction found
  obtain ⟨_, _, line, member⟩ := mem_of_get_memory found
  exact ⟨line, member⟩

end Code

/-- Whatever is done to the machine but a load or a poke of code, its labels stay and its code is
that of the program. -/
structure Listing.Runs (listing : Listing) (machine : Machine) : Prop where
  symbols : machine.symbols = listing.symbols
  code : machine.Hold (Word.StandsIn listing.code)

namespace Listing

theorem runs_ofSource (source : String) :
    (ofSource source).Runs (Machine.ofSource source).1 := by
  rw [Machine.ofSource, Machine.load_eq]
  exact ⟨rfl, (ofSource source).code.standsIn_memory,
    Registers.hold_initial (Word.standsIn_inherited _)⟩

theorem Runs.restart {listing : Listing} {machine : Machine} (runs : listing.Runs machine) :
    listing.Runs machine.restart :=
  ⟨runs.symbols, runs.code.restart (Word.standsIn_inherited _)⟩

theorem Runs.step {listing : Listing} {machine : Machine} {κ : Type} [Console κ]
    (runs : listing.Runs machine) (console : κ) : listing.Runs (machine.step console).machine :=
  ⟨(machine.step_symbols console).trans runs.symbols,
    Machine.step_hold (Word.standsIn_inherited _) runs.code console fun _ _ => nofun⟩

theorem runs_preserved (listing : Listing) :
    Preserved Operation.BringsNoCode fun _ machine => listing.Runs machine where
  load _ _ _ reload := reload.elim
  poke _ machine address word poked noCode written runs := by
    have stands : word.StandsIn listing.code := fun code found => absurd found (noCode code)
    refine ⟨?_, runs.code.poke stands written⟩
    obtain ⟨-, rfl⟩ := Machine.poke_eq_ok_iff.mp written
    exact runs.symbols
  restart _ _ runs := runs.restart
  step _ _ console runs := runs.step console

theorem Runs.mem_code {listing : Listing} {machine : Machine} (runs : listing.Runs machine)
    {address : Nat} {instruction : Instruction}
    (found : machine.memory.get address = .instruction instruction) :
    ∃ line, (line, instruction) ∈ listing.code :=
  runs.code.cell address instruction found

/-- Every address that an operand stands for is one. -/
theorem Runs.resolve_lt {source : String} {machine : Machine} {instruction : Instruction}
    {address line : Nat} (runs : (ofSource source).Runs machine)
    (short : source.length < addressLimit) (member : (line, instruction) ∈ (ofSource source).code)
    (resolved : instruction.resolve machine.symbols = .ok address) : address < addressLimit := by
  rcases Instruction.resolve_ok resolved with operand | ⟨name, operand, found⟩
  · exact settled_code short _ member _ operand
  · -- Labels stand for statements, of which there are fewer than characters.
    rw [runs.symbols] at found
    have inside := get?_symbols_le found
    have statements := length_statements_le source
    omega

/-! ### Faults -/

theorem warns_of_decode {listing : Listing} {machine : Machine} {instruction : Instruction}
    {cause : Cause} {line : Nat} (member : (line, instruction) ∈ listing.code)
    (refused : instruction.decode machine.symbols machine.registers.acc = .error cause) :
    listing.image.report.WarnsOf cause := by
  rcases Instruction.decode_error refused with unresolved | invalid
  · rcases Instruction.resolve_error unresolved with
      ⟨_, rfl⟩ | ⟨digits, operand, rfl⟩ | ⟨name, operand, _, rfl⟩
    · trivial
    · exact .inl ⟨line, Code.mem_outOfRange_iff.mpr ⟨instruction, member, operand⟩⟩
    · exact ⟨line, Code.mem_unresolved_iff.mpr ⟨instruction, member, operand⟩⟩
  · rcases Instruction.immediate_error invalid with rfl | rfl
    · trivial
    · trivial

theorem Runs.warns_of_step {source : String} {machine : Machine} {κ : Type} [Console κ]
    {console : κ} {cause : Cause} (runs : (ofSource source).Runs machine)
    (short : source.length < addressLimit)
    (faulted : (machine.step console).outcome.cause? = some cause) :
    (ofSource source).image.report.WarnsOf cause := by
  rcases Machine.step_cause faulted with refused | ⟨action, decided, failed⟩
  · rcases Machine.action?_eq_error refused with rfl | ⟨instruction, found, refused⟩
    · trivial
    · obtain ⟨line, member⟩ := runs.mem_code found
      exact warns_of_decode member refused
  · obtain ⟨instruction, found, decoded⟩ := Machine.action?_eq_ok_iff.mp decided
    obtain ⟨line, member⟩ := runs.mem_code found
    rcases Machine.perform_cause failed with data | ⟨target, writes, refused⟩
    · -- Neither a name nor an address is blamed.
      cases cause with
      | undefinedLabel | addressOutOfRange => cases data
      | _ => trivial
    · obtain ⟨high, rfl⟩ := Memory.refusal?_eq_some_iff.mp refused
      have resolved := Instruction.resolve_of_target decoded writes
      exact .inr ⟨target, rfl, high, runs.resolve_lt short member resolved⟩

theorem Runs.cycleAt {listing : Listing} {machine : Machine} {κ : Type} [Console κ]
    (runs : listing.Runs machine) (console : κ) (k : Nat) :
    listing.Runs (machine.cycleAt console k).machine := by
  induction k with
  | zero => exact runs.step console
  | succ k ih => exact ih.step _

theorem Runs.warns_of_cycleAt {source : String} {machine : Machine} {κ : Type} [Console κ]
    {console : κ} {cause : Cause} (runs : (ofSource source).Runs machine)
    (short : source.length < addressLimit) {k : Nat}
    (faulted : (machine.cycleAt console k).outcome.cause? = some cause) :
    (ofSource source).image.report.WarnsOf cause := by
  cases k with
  | zero => exact runs.warns_of_step short faulted
  | succ k => exact (runs.cycleAt console k).warns_of_step short faulted

end Listing

namespace Machine

variable {κ : Type} [Console κ]

/-- A machine faults over no name and no numeral but those that its load reported. -/
theorem after_warned (source : String) (short : source.length < addressLimit)
    (operations : List Operation) (permitted : ∀ operation ∈ operations, operation.BringsNoCode)
    (console : κ) (cause : Cause)
    (faults : ((ofSource source).1.after operations).FaultsFor console cause) :
    (ofSource source).2.WarnsOf cause ∧
      ((∀ line name, unknownMessage line name ∉ Session.checkLines source (ofSource source).2) →
        ∀ name, cause ≠ .undefinedLabel name) := by
  have runs : (Listing.ofSource source).Runs ((ofSource source).1.after operations) :=
    (Listing.ofSource source).runs_preserved.after operations permitted _
      (Listing.runs_ofSource source)
  have report : (ofSource source).2 = (Listing.ofSource source).image.report := by
    rw [ofSource, load_eq]
  have warns : (ofSource source).2.WarnsOf cause := by
    rw [report]
    rcases faults with faulted | ⟨limit, fault, faulted, rfl⟩
    · exact runs.warns_of_step short faulted
    · obtain ⟨k, cycle⟩ := exists_faulted_of_runFor faulted
      exact runs.restart.warns_of_cycleAt short (by rw [cycle, Outcome.cause?])
  refine ⟨warns, ?_⟩
  rintro unlisted name rfl
  obtain ⟨line, unknown⟩ := warns
  exact unlisted line name (Session.unknownMessage_mem_checkLines unknown)

/-- An unknown name that is met in a copy, far from the line that it was reported for. -/
theorem after_warned_copy :
    let source := "lda 4\nsta 6\nbr 6\nbr nowhere\nsta 2000000"
    let operations : List Operation := [.poke 30 (.text "nowhere"), .step ({} : Script)]
    let machine := (ofSource source).1.after operations
    let fault : Fault := ⟨6, .instruction ⟨.br, some (.label "nowhere")⟩, .undefinedLabel "nowhere"⟩
    (machine.runFor 10 ({} : Script)).ending = some (.faulted fault) ∧
      (ofSource source).2.WarnsOf fault.cause := by
  intro source operations machine fault
  have faulted : (machine.runFor 10 ({} : Script)).ending = some (.faulted fault) := by
    decide +kernel
  refine ⟨faulted, (after_warned source (by decide +kernel) operations ?_ ({} : Script) fault.cause
    (.inr ⟨10, fault, faulted, rfl⟩)).1⟩
  simp [operations, Operation.BringsNoCode]

end Machine

end Accumulator
