import Accumulator.Console

/-!
# Interrupted consoles

An interrupted console fails in chosen calls and otherwise behaves as the console inside. Reads and
writes are counted apart, from 0 and including those that fail. A call that fails does not reach
the console inside.
-/
namespace Accumulator

structure Interrupted (κ : Type) where
  inside : κ
  /-- The reads that fail, with their messages. -/
  failingReads : List (Nat × String) := []
  /-- The writes that fail, with their messages. -/
  failingWrites : List (Nat × String) := []
  reads : Nat := 0
  writes : Nat := 0

namespace Interrupted

variable {κ : Type} [Console κ]

instance : Console (Interrupted κ) where
  readLine console :=
    match console.failingReads.lookup console.reads with
    | some message => (.error message, { console with reads := console.reads + 1 })
    | none =>
      let (line, inside) := Console.readLine console.inside
      (line, { console with inside, reads := console.reads + 1 })
  writeLine console value :=
    match console.failingWrites.lookup console.writes with
    | some message => (.error message, { console with writes := console.writes + 1 })
    | none =>
      let (done, inside) := Console.writeLine console.inside value
      (done, { console with inside, writes := console.writes + 1 })

end Interrupted

end Accumulator
