import Accumulator.Machine.Basic

/-!
# Dumps

A dump lists the registers, every memory cell from address 0 on, and the labels in the order of
their definition.
-/
namespace Accumulator

/-- The text moved to the right end of a column. -/
def alignRight (width : Nat) (text : String) : String :=
  String.ofList (List.replicate (width - text.length) ' ') ++ text

namespace Registers

def renderAddress : Option Nat → String
  | some address => toString address
  | none => "?"

def dumpLines (registers : Registers) : List String :=
  [ "PC:  " ++ toString registers.pc,
    "ACC: " ++ registers.acc.render,
    "B:   " ++ registers.b.render,
    "AR:  " ++ renderAddress registers.ar,
    "IR:  " ++ registers.ir.render ]

end Registers

def Memory.dumpLines (memory : Memory) : List String :=
  memory.cells.toList.zipIdx.map fun (word, address) =>
    alignRight 5 (toString address) ++ ": " ++ word.render

def SymbolTable.dumpLines (table : SymbolTable) : List String :=
  table.entries.map fun (name, address) => name ++ " -> " ++ toString address

namespace Machine

def dumpLines (machine : Machine) : List String :=
  ["------ Registers ------"] ++ machine.registers.dumpLines ++
    ["------- Memory --------"] ++ machine.memory.dumpLines ++
    ["------- Symbols -------"] ++ machine.symbols.dumpLines ++
    ["-----------------------"]

def dump (machine : Machine) : String := "\n".intercalate machine.dumpLines

end Machine

end Accumulator
