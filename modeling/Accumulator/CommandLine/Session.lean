import Accumulator.CommandLine.FileTree
import Accumulator.CommandLine.Invocation
import Accumulator.Console.Pipe
import Accumulator.Console.Script
import Accumulator.Machine.Dump
import Accumulator.Machine.Trace

/-!
# Sessions

A session answers an invocation, given what the program can see of the world: files, standard input
and environment variables. The answer is a value: lines for standard output, the trace for standard
error, and the failure if there was one.
-/
namespace Accumulator

/-- What the program can see of the world. -/
structure World where
  /-- The content at a path, or why there is none. -/
  read : String → Except String Text.Content
  /-- Is there anything at a path? -/
  contains : String → Bool
  stdin : Text.Content := .empty
  /-- The value of an environment variable. -/
  environment : String → Option String := fun _ => none

namespace World

def ofFiles (tree : FileTree) (stdin : Text.Content) (settings : List (String × String)) : World where
  read path := (tree.read path).mapError FileError.message
  contains := tree.contains
  stdin
  environment name := settings.lookup name

def readText (world : World) (path : String) : Except String String :=
  (world.read path).bind Text.Content.asText

/-- Is a variable set to 1? -/
def isSet (world : World) (name : String) : Bool := world.environment name == some "1"

def asksVerbose (world : World) : Bool := world.isSet "ONEADDR_VERBOSE"

def asksDump (world : World) : Bool := world.isSet "ONEADDR_DUMP"

end World

inductive Failure where
  | misuse
  | message (text : String)
  | fault (fault : Fault)
  deriving DecidableEq, Repr

structure Response where
  /-- The lines of standard output. -/
  lines : List String := []
  trace : List String := []
  failure : Option Failure := none

namespace Response

def exitCode (response : Response) : Nat :=
  match response.failure with
  | none => 0
  | some .misuse => 2
  | some _ => 1

def stdout (response : Response) : String := String.join (response.lines.map (· ++ "\n"))

end Response

namespace Session

def version : String := "0.1.0"

/-- A message: what is reported, at the right of its column, and the details. -/
def message (subject details : String) : String := alignRight 12 subject ++ " " ++ details

def targetMessage (subject path : String) : String := message subject ("target " ++ path)

/-- The text of a program file, which is known by its extension. -/
def readSource (world : World) (path : String) : Except String String :=
  match Path.extension? path with
  | some "asm" | some "txt" => world.readText path
  | some _ => .error "File has unknown extension. Exiting..."
  | none => .error "File has no extension. Exiting..."

def rangeMessages (report : Report) : List String :=
  report.outOfRange.map fun (line, digits) =>
    message "Range" ("line " ++ toString line ++ ": literal `" ++ digits ++ "` is out of range")

def loadedMessage (report : Report) : String :=
  message "Loaded" (toString report.loaded ++ " instructions")

/-- What a load tells the trace. -/
def loadTrace (verbose : Bool) (report : Report) : List String :=
  if verbose then report.trace else []

def greeting : Response where
  lines :=
    [ "", "~ oneaddr v" ++ version ++ " ~", "",
      "A simulator for a single-accumulator, one-address computer.",
      "Please use `-h` or `--help` to access the usage instructions.", "" ]

def usage : List String :=
  [ "Usage: oneaddr [PATH] [COMMAND]", "",
    "  run PATH [-v] [-d] [-i FILE]  Assemble and run a program",
    "  dump PATH                     Print the machine that a program is loaded into",
    "  check PATH                    Report the lines and labels that a program gets wrong",
    "  watch PATH                    Check a program whenever it changes",
    "  help                          Print this message" ]

/-- What is printed once the program was run: its output, the dump if asked for, and the ending. -/
def runLines (path : String) (dump : Bool) (output : List String) (machine : Machine) :
    Option Ending → List String
  | some (.halted cycles) =>
    output ++ (if dump then [machine.dump] else []) ++
      [message "Halted" ("after " ++ toString cycles ++ " instructions"),
        targetMessage "Completed" path]
  | some (.faulted fault) =>
    output ++ (if dump then [machine.dump] else []) ++
      [message "Faulted" ("at address " ++ toString fault.address)]
  | none => output ++ (if dump then [machine.dump] else [])

def runFailure : Option Ending → Option Failure
  | some (.halted _) => none
  | some (.faulted fault) => some (.fault fault)
  | none => some (.message "The program was stopped.")

/-- Runs a loaded program on a console. -/
def execute {κ : Type} [Console κ] (limit : Nat) (path : String) (verbose dump : Bool)
    (machine : Machine) (console : κ) (output : κ → Array String) : Response :=
  let run := machine.runFor limit console
  { lines :=
      message "Running" "loaded program" ::
        runLines path dump (output run.console).toList run.machine run.ending
    trace := if verbose then machine.trace limit console else []
    failure := runFailure run.ending }

/-- The response with lines and trace in front of it. -/
def after (lines trace : List String) (response : Response) : Response :=
  { response with lines := lines ++ response.lines, trace := trace ++ response.trace }

def run (limit : Nat) (world : World) (path : String) (options : RunOptions) : Response :=
  let verbose := options.verbose || world.asksVerbose
  let dump := options.dump || world.asksDump
  after [targetMessage "Assembling" path] [] <|
    match readSource world path with
    | .error text => { failure := some (.message text) }
    | .ok source =>
      let (machine, report) := Machine.ofSource source
      after (rangeMessages report ++ [loadedMessage report]) (loadTrace verbose report) <|
        match options.input with
        | none =>
          execute limit path verbose dump machine (Pipe.ofContent world.stdin) Pipe.output
        | some file =>
          match world.readText file with
          | .error text => { failure := some (.message text) }
          | .ok text => execute limit path verbose dump machine (Script.ofText text) Script.output

def dump (world : World) (path : String) : Response :=
  after [targetMessage "Loading" path] [] <|
    match readSource world path with
    | .error text => { failure := some (.message text) }
    | .ok source =>
      let (machine, report) := Machine.ofSource source
      { lines := [machine.dump], trace := loadTrace world.asksVerbose report }

/-- The problems of a source, line by line of the report, and the verdict. -/
def checkLines (source : String) (report : Report) : List String :=
  let lines := (Text.lines source.toList).toArray
  report.skipped.map (fun line =>
      message "Skipped" ("line " ++ toString line ++ ": `" ++
        String.ofList (Text.trim (lines.getD (line - 1) [])) ++ "`")) ++
    report.unresolved.map (fun (line, name) =>
      message "Unknown" ("line " ++ toString line ++ ": label `" ++ name ++
        "` is never defined")) ++
    rangeMessages report ++
    [loadedMessage report] ++
    if report.isClean then [message "Success" "no problems found!"] else []

def check (world : World) (path : String) : Response :=
  after [targetMessage "Checking" path] [] <|
    match readSource world path with
    | .error text => { failure := some (.message text) }
    | .ok source =>
      let report := (assemble source).report
      { lines := checkLines source report, trace := loadTrace world.asksVerbose report }

/-- The opening of a watch: a cleared screen and what is watched. -/
def watch (world : World) (path : String) : Response :=
  if world.contains path then
    { lines :=
        [ "\x1b[2J\x1b[2;1H" ++ targetMessage "Watching" path,
          message "Help" "press CTRL+C to exit" ] }
  else { failure := some (.message "File does not exist. Exiting...") }

/-- Answers an invocation; a program is run for at most `limit` cycles. -/
def respond (limit : Nat) (world : World) : Invocation → Response
  | .greeting => greeting
  | .help => { lines := usage }
  | .version => { lines := ["oneaddr " ++ version] }
  | .misuse => { failure := some .misuse }
  | .run path options => run limit world path options
  | .dump path => dump world path
  | .check path => check world path
  | .watch path => watch world path

end Session

end Accumulator
