/-!
# Consoles

A console is a state with two operations, each of which may fail with a message: reading the next
line of input, and writing a line of output. The machine reaches its console through address 0.
-/
namespace Accumulator

class Console (κ : Type) where
  /-- The next line of input, or nothing once the input has ended. -/
  readLine : κ → Except String (Option String) × κ
  writeLine : κ → String → Except String Unit × κ

end Accumulator
