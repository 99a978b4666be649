/-!
# Invocations

The arguments of the program ask for one of its services. They are read from left to right, and a
request for help or for the version is granted where it stands, if nothing before it was wrong.
An option is given at most once; behind `--` everything is a path.
-/
namespace Accumulator

structure RunOptions where
  /-- Trace every cycle. -/
  verbose : Bool := false
  /-- Dump the machine after the run. -/
  dump : Bool := false
  /-- Read the console's input from this file. -/
  input : Option String := none
  deriving DecidableEq, Repr

inductive Invocation where
  | greeting
  | help
  | version
  /-- The arguments ask for nothing that can be done. -/
  | misuse
  | run (path : String) (options : RunOptions)
  | dump (path : String)
  | check (path : String)
  | watch (path : String)
  deriving DecidableEq, Repr

/-- An argument by its spelling. -/
inductive Argument where
  | separator
  | long (name : String) (value : Option String)
  | short (letters : List Char)
  | plain (value : String)
  deriving DecidableEq, Repr

/-- A single hyphen is an ordinary value. -/
def Argument.ofString (text : String) : Argument :=
  match text.toList with
  | ['-', '-'] => .separator
  | '-' :: '-' :: spelling =>
    let name := String.ofList (spelling.takeWhile (· != '='))
    match spelling.dropWhile (· != '=') with
    | _ :: value => .long name (some (String.ofList value))
    | [] => .long name none
  | '-' :: letter :: letters => .short (letter :: letters)
  | _ => .plain text

namespace RunOptions

def withVerbose (options : RunOptions) : Option RunOptions :=
  if options.verbose then none else some { options with verbose := true }

def withDump (options : RunOptions) : Option RunOptions :=
  if options.dump then none else some { options with dump := true }

def withInput (options : RunOptions) (path : String) : Option RunOptions :=
  if options.input.isSome ∨ path = "" then none else some { options with input := some path }

/-- What reading a group of option letters comes to. -/
inductive Group where
  | done (options : RunOptions)
  /-- The last letter asks for a value, which is the next argument. -/
  | wantsInput (options : RunOptions)
  | help
  | misuse

/-- Reads the letters behind a hyphen. What follows the `i` is its value, with or without an equals
sign between them. -/
def readLetters (options : RunOptions) : List Char → Group
  | [] => .done options
  | 'v' :: rest =>
    match options.withVerbose with
    | some options => readLetters options rest
    | none => .misuse
  | 'd' :: rest =>
    match options.withDump with
    | some options => readLetters options rest
    | none => .misuse
  | ['i'] => .wantsInput options
  | 'i' :: '=' :: value =>
    match options.withInput (String.ofList value) with
    | some options => .done options
    | none => .misuse
  | 'i' :: value =>
    match options.withInput (String.ofList value) with
    | some options => .done options
    | none => .misuse
  | 'h' :: _ => .help
  | _ => .misuse

/-- Reads an option that is written out. -/
def readLong (options : RunOptions) (name : String) (value : Option String) : Group :=
  match name, value with
  | "verbose", none => options.withVerbose.elim .misuse .done
  | "dump", none => options.withDump.elim .misuse .done
  | "input", none => .wantsInput options
  | "input", some path => (options.withInput path).elim .misuse .done
  | "help", none => .help
  | _, _ => .misuse

end RunOptions

namespace Invocation

/-- Takes one more path, if there is room for it. -/
def addPath (path : Option String) (value : String) : Option String :=
  if path.isSome ∨ value = "" then none else some value

/-- The path that is asked for when the last arguments are these paths. -/
def lastPath (path : Option String) : List String → Option String
  | [] => path
  | [value] => addPath path value
  | _ => none

/-- Reads the arguments of a service that takes a path and no options. -/
def ofPath (service : String → Invocation) (path : Option String) : List String → Invocation
  | [] => path.elim .misuse service
  | argument :: rest =>
    match Argument.ofString argument with
    | .separator => (lastPath path rest).elim .misuse service
    | .plain value =>
      match addPath path value with
      | some path => ofPath service (some path) rest
      | none => .misuse
    | .long "help" none | .short ('h' :: _) => .help
    | .long _ _ | .short _ => .misuse

/-- Reads the arguments of a run. -/
def ofRun (path : Option String) (options : RunOptions) : List String → Invocation
  | [] => path.elim .misuse fun path => .run path options
  | argument :: rest =>
    match Argument.ofString argument with
    | .separator => (lastPath path rest).elim .misuse fun path => .run path options
    | .plain value =>
      match addPath path value with
      | some path => ofRun (some path) options rest
      | none => .misuse
    | .long name value => ofGroup path (options.readLong name value) rest
    | .short letters => ofGroup path (options.readLetters letters) rest
where
  /-- Goes on behind an option. -/
  ofGroup (path : Option String) : RunOptions.Group → List String → Invocation
    | .help, _ => .help
    | .misuse, _ => .misuse
    | .done options, rest => ofRun path options rest
    | .wantsInput _, [] => .misuse
    | .wantsInput options, argument :: rest =>
      match Argument.ofString argument with
      | .plain value =>
        match options.withInput value with
        | some options => ofRun path options rest
        | none => .misuse
      | _ => .misuse

def serviceNames : List String := ["run", "dump", "check", "watch", "help"]

/-- Reads the arguments of a request for help, which may name the service it is about. -/
def ofHelp : List String → Invocation
  | [] => .help
  | [service] => if service ∈ serviceNames then .help else .misuse
  | _ => .misuse

/-- Reads the arguments behind the name of a service. -/
def ofService? : String → Option (List String → Invocation)
  | "run" => some (ofRun none {})
  | "dump" => some (ofPath .dump none)
  | "check" => some (ofPath .check none)
  | "watch" => some (ofPath .watch none)
  | "help" => some ofHelp
  | _ => none

/-- A bare path is run with no options, and no path at all is greeted. -/
def ofBare : Option String → Invocation
  | some path => .run path {}
  | none => .greeting

/-- Reads arguments up to the name of a service. -/
def ofTopLevel (path : Option String) : List String → Invocation
  | [] => ofBare path
  | argument :: rest =>
    match Argument.ofString argument with
    | .separator =>
      match rest with
      | [] => ofBare path
      | _ => (lastPath path rest).elim .misuse fun path => .run path {}
    | .plain value =>
      match ofService? value with
      | some read => read rest
      | none =>
        match addPath path value with
        | some path => ofTopLevel (some path) rest
        | none => .misuse
    | .long "version" none | .short ('V' :: _) => .version
    | .long "help" none | .short ('h' :: _) => .help
    | .long _ _ | .short _ => .misuse

def ofArguments (arguments : List String) : Invocation := ofTopLevel none arguments

/-- The files that the invocation reads. -/
def paths : Invocation → List String
  | .run path options => path :: options.input.toList
  | .dump path | .check path | .watch path => [path]
  | .greeting | .help | .version | .misuse => []

end Invocation

end Accumulator
