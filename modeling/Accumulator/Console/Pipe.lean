import Accumulator.Console
import Accumulator.Text.Content

/-!
# Pipes

A pipe is a console fed by a stream that is read up to the next line feed or the end. A line loses
every carriage return at its end, also where no line feed follows. A line whose bytes encode no
text makes the read fail.
-/
namespace Accumulator

structure Pipe where
  /-- What the reads to come will find. -/
  input : List (Except String String) := []
  output : Array String := #[]

namespace Pipe

/-- The pieces of a stream between its line feeds, without an empty one at its end. -/
def pieces {α : Type} [BEq α] (lineFeed : α) (stream : List α) : List (List α) :=
  let parts := stream.splitOn lineFeed
  if parts.getLast?.all List.isEmpty then parts.dropLast else parts

/-- A line without the carriage returns at its end. -/
def dropReturns (line : List Char) : List Char :=
  (line.reverse.dropWhile (· == '\r')).reverse

def linesOfText (text : String) : List String :=
  (pieces '\n' text.toList).map fun line => String.ofList (dropReturns line)

def linesOfBytes (bytes : ByteArray) : List (Except String String) :=
  (pieces 10 bytes.toList).map fun line =>
    (Text.decode ⟨line.toArray⟩).map fun text => String.ofList (dropReturns text.toList)

def ofContent : Text.Content → Pipe
  | .text text => { input := (linesOfText text).map .ok }
  | .binary bytes => { input := linesOfBytes bytes }

instance : Console Pipe where
  readLine
    | ⟨.ok line :: rest, output⟩ => (.ok (some line), ⟨rest, output⟩)
    | ⟨.error message :: rest, output⟩ => (.error message, ⟨rest, output⟩)
    | ⟨[], output⟩ => (.ok none, ⟨[], output⟩)
  writeLine pipe value := (.ok (), { pipe with output := pipe.output.push value })

end Pipe

end Accumulator
