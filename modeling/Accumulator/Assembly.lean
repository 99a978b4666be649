import Accumulator.Memory
import Accumulator.Statement
import Accumulator.SymbolTable
import Accumulator.Text.Line

/-!
# Assembly

The statements of a source are numbered from 1, and statement `k` becomes the instruction at
address `k`. All labels are collected before any operand is resolved, so a label may be used before
the line that defines it. What could not be assembled is reported by source line and does not stop
the assembly.
-/
namespace Accumulator

/-- A source taken apart: its statements and its malformed lines, with their line numbers. -/
structure Listing where
  statements : List (Nat × Statement)
  malformed : List Nat
  deriving DecidableEq, Repr

namespace Listing

/-- Takes the lines apart, the first of which has this number. -/
def ofLines (lines : List Line) (number : Nat) : Listing where
  statements := (lines.zipIdx number).filterMap fun (line, number) =>
    line.statement?.map fun statement => (number, statement)
  malformed := (lines.zipIdx number).filterMap fun (line, number) =>
    if line.isMalformed then some number else none

def ofSource (source : String) : Listing :=
  ofLines ((Text.lines source.toList).map Line.read) 1

/-- Defines the labels of the statements, the first of which has this address. -/
def defineLabels (statements : List (Nat × Statement)) (address : Nat) (table : SymbolTable) :
    SymbolTable :=
  (statements.zipIdx address).foldl
    (fun table ((_, statement), address) =>
      match statement.label with
      | some name => table.define name address
      | none => table)
    table

def symbols (listing : Listing) : SymbolTable :=
  defineLabels listing.statements 1 .initial

end Listing

/-- The operand that a token stands for. A numeral is an address if it is small enough; any other
token is looked up among the labels. -/
def Operand.ofToken (symbols : SymbolTable) (token : String) : Operand :=
  match Text.natural? token.toList with
  | some value => if value < addressLimit then .literal value else .outOfRange token
  | none =>
    match symbols.get? token with
    | some address => .literal address
    | none => .label token

def Instruction.ofStatement (symbols : SymbolTable) (statement : Statement) : Instruction :=
  ⟨statement.opcode, statement.token.map (Operand.ofToken symbols)⟩

/-- The instructions of a source, with the lines that they come from. -/
abbrev Code := List (Nat × Instruction)

namespace Code

/-- Puts the instructions behind what is in a memory. -/
def appendTo (code : Code) (memory : Memory) : Memory :=
  code.foldl (fun memory (_, instruction) => memory.push (.instruction instruction)) memory

def memory (code : Code) : Memory := code.appendTo .empty

/-- The operands that are still names, with their lines. -/
def unresolved (code : Code) : List (Nat × String) :=
  code.filterMap fun (line, instruction) =>
    match instruction.operand with
    | some (.label name) => some (line, name)
    | _ => none

/-- The operands that are too large, with their lines. -/
def outOfRange (code : Code) : List (Nat × String) :=
  code.filterMap fun (line, instruction) =>
    match instruction.operand with
    | some (.outOfRange digits) => some (line, digits)
    | _ => none

end Code

def Listing.code (listing : Listing) : Code :=
  let symbols := listing.symbols
  listing.statements.map fun (line, statement) => (line, .ofStatement symbols statement)

/-- What was loaded, and what the source left open. -/
structure Report where
  /-- How many instructions were loaded. -/
  loaded : Nat
  /-- The numbers of the malformed lines. -/
  skipped : List Nat
  unresolved : List (Nat × String)
  outOfRange : List (Nat × String)
  deriving DecidableEq, Repr

/-- Is every line understood and every operand an address? -/
def Report.isClean (report : Report) : Bool :=
  report.skipped.isEmpty && report.unresolved.isEmpty && report.outOfRange.isEmpty

structure Image where
  memory : Memory
  symbols : SymbolTable
  report : Report

/-- Puts the program in the place of what is in a memory. -/
def Listing.loadInto (listing : Listing) (memory : Memory) : Image :=
  let code := listing.code
  { memory := code.appendTo memory.clear
    symbols := listing.symbols
    report :=
      { loaded := listing.statements.length
        skipped := listing.malformed
        unresolved := code.unresolved
        outOfRange := code.outOfRange } }

/-- The program in a memory of its own. -/
def Listing.image (listing : Listing) : Image := listing.loadInto .empty

theorem Listing.loadInto_eq_image (listing : Listing) (memory : Memory) :
    listing.loadInto memory = listing.image := by
  simp [image, loadInto]

theorem Listing.image_eq (listing : Listing) :
    listing.image =
      { memory := listing.code.memory
        symbols := listing.symbols
        report :=
          { loaded := listing.statements.length
            skipped := listing.malformed
            unresolved := listing.code.unresolved
            outOfRange := listing.code.outOfRange } } := by
  simp [image, loadInto, Code.memory]

def assemble (source : String) : Image := (Listing.ofSource source).image

end Accumulator
