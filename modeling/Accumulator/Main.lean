import Accumulator.CommandLine.Session

/-!
# The program

Reads what the session needs to see, answers, and prints the answer.
-/
namespace Accumulator

/-- What the program says of an error of the file system. -/
def fileErrorText : IO.Error → String
  | .noFileOrDirectory .. => FileError.notFound.message
  | .inappropriateType .. => FileError.isDirectory.message
  | error => toString error

def readFile (path : String) : IO (Except String Text.Content) := do
  try
    let bytes ← IO.FS.readBinFile path
    return .ok (.ofBytes bytes)
  catch error =>
    return .error (fileErrorText error)

def readVariables : IO (List (String × String)) :=
  ["ONEADDR_VERBOSE", "ONEADDR_DUMP"].filterMapM fun name => do
    return (← IO.getEnv name).map fun value => (name, value)

/-- Standard input is read if a run takes its console input from there. -/
def readStandardInput : Invocation → IO Text.Content
  | .run _ { input := none, .. } => do
    let stdin ← IO.getStdin
    return .ofBytes (← stdin.readBinToEnd)
  | _ => return .empty

/-- The world as far as the invocation looks at it. -/
def readWorld (invocation : Invocation) : IO World := do
  let files ← invocation.paths.mapM fun path => do return (path, ← readFile path)
  let settings ← readVariables
  return {
    read := fun path => (files.lookup path).getD (.error FileError.notFound.message)
    contains := fun path => (files.lookup path).any (·.toBool)
    stdin := ← readStandardInput invocation
    environment := fun name => settings.lookup name }

def failureLines : Failure → List String
  | .misuse => Session.usage
  | .message text => [text]
  | .fault fault =>
    [fault.cause.code, fault.message, fault.cause.message] ++
      (fault.cause.help.map ("help: " ++ ·)).toList

end Accumulator

open Accumulator in
def main (arguments : List String) : IO UInt32 := do
  let invocation := Invocation.ofArguments arguments
  let world ← readWorld invocation
  let response := Session.respond Machine.cycleLimit world invocation
  IO.print response.stdout
  for line in response.trace do
    IO.eprintln line
  for failure in response.failure.toList do
    for line in failureLines failure do
      IO.eprintln line
  return response.exitCode.toUInt32
