import GraphQuery.CommandLine.Arguments
import GraphQuery.Compile.Update
import GraphQuery.Diagram.Wire
import GraphQuery.Settings.Dotenv
import GraphQuery.Settings.File

/-!
# Command line — runs

A run reads its settings from a file or from the environment, overrides them, reads the diagram
and the values to set, and prints the query.  `execute` is the whole program as a function of the
`World` that it finds: the files of its directory, its standard input and its environment.
-/

namespace GraphQuery.CommandLine

/-- What a run finds around it. -/
structure World where
  /-- The readable files, by path from the directory of the run or, after a slash, from the root. -/
  files : List (String × String)
  /-- The standard input. -/
  input : String
  /-- The environment. -/
  env : Environment

/-! ### Paths

A path is a chain of steps, each of which starts from a directory: into what has a name there, back
out of it, or nowhere. -/

/-- The steps of a path that lead into something. -/
def namedSteps (path : String) : List String :=
  (path.splitOn "/").filter fun step => step ≠ "" ∧ step ≠ "."

/-- Where the steps of a path lead from a place in the directory of the run, `isDirectory` telling
which places are directories. -/
def followSteps? (isDirectory : List String → Bool) (place : List String) :
    List String → Option (List String)
  | [] => some place
  | step :: steps =>
    if isDirectory place then
      if step = "" ∨ step = "." then followSteps? isDirectory place steps
      else if step = ".." then
        if place = [] then none else followSteps? isDirectory place.dropLast steps
      else followSteps? isDirectory (place ++ [step]) steps
    else none

namespace World

/-- The files below the directory of the run, by place. -/
def localFiles (w : World) : List (List String × String) :=
  (w.files.filter fun file => !file.1.startsWith "/").map fun file => (namedSteps file.1, file.2)

/-- Whether a place is a directory: the one of the run, or one on the way to a file. -/
def isDirectory (w : World) (place : List String) : Bool :=
  place.isEmpty || w.localFiles.any fun file => place.isPrefixOf file.1 && place != file.1

/-- The content of the file that a path leads to.  A path from the root leads to a file only if the
file goes by that very path. -/
def file? (w : World) (path : String) : Option String :=
  match w.files.find? (·.1 = path) with
  | some file => some file.2
  | none =>
    if path.startsWith "/" then none
    else (followSteps? w.isDirectory [] (path.splitOn "/")).bind fun place =>
      List.lookup place w.localFiles

end World

/-- Why a run fails. -/
inductive RunError where
  /-- The settings file is of no use. -/
  | settingsFile (path : String) (e : SettingsError)
  /-- The environment is of no use. -/
  | environment (e : SettingsError)
  /-- The settings are out of range once they are overridden. -/
  | overrides (e : SettingsError)
  /-- The file with the diagram cannot be read. -/
  | reading (path : String)
  /-- The diagram cannot be decoded. -/
  | diagram (e : Json.DecodeError)
  /-- The values to set are no JSON. -/
  | values (fault : Json.Fault)
  /-- The values to set are no object. -/
  | valuesNotObject
  /-- The update cannot be compiled. -/
  | update (e : CompileError)
deriving DecidableEq, Repr

/-- What is wrong with settings, in words. -/
def settingsMessage : SettingsError → String
  | .parse field value reason => Settings.parseMessage field value reason
  | .invalid violations =>
    "Validation error: " ++
      "\n".intercalate (violations.map fun v => v.field ++ ": " ++ v.message)

/-- A fault of a JSON text, in words. -/
def faultMessage : Json.Fault → String
  | .malformed => "the text is not JSON"
  | .truncated => "the text ends too early"

/-- What is wrong with a diagram, in words. -/
def decodeMessage : Json.DecodeError → String
  | .fault fault => faultMessage fault
  | e => e.message?.getD ""

/-- What a run was doing when it failed. -/
def RunError.heading : RunError → String
  | .settingsFile path _ => "loading config from " ++ path
  | .environment _ => "reading configuration from environment"
  | .overrides _ => "invalid command line configuration"
  | .reading path => "reading " ++ path
  | .diagram _ => "parsing builder state"
  | .values _ => "parsing --values"
  | .valuesNotObject => "--values must be a JSON object"
  | .update e => e.message

/-- What went wrong behind the heading. -/
def RunError.detail? : RunError → Option String
  | .settingsFile _ e => some (settingsMessage e)
  | .environment e => some (settingsMessage e)
  | .overrides e => some (settingsMessage e)
  | .reading _ => some "the file cannot be read"
  | .diagram e => some (decodeMessage e)
  | .values fault => some (faultMessage fault)
  | .valuesNotObject => none
  | .update _ => none

/-- The whole message of an error. -/
def RunError.message (e : RunError) : String :=
  match e.detail? with
  | some detail => e.heading ++ ": " ++ detail
  | none => e.heading

/-- The settings of a run. -/
def runSettings (w : World) (inv : Invocation) : Except RunError Settings := do
  let base ← match inv.config with
    | some path => (Settings.ofFile (w.file? path)).mapError (.settingsFile path)
    | none => (Settings.ofEnvironment w.env).mapError .environment
  (base.override inv.overrides).mapError .overrides

/-- The diagram of a run. -/
def runDiagram (w : World) (inv : Invocation) : Except RunError Diagram := do
  let text ← match inv.input with
    | some path =>
      match w.file? path with
      | some text => .ok text
      | none => .error (.reading path)
    | none => .ok w.input
  (Diagram.decoder.ofText text.toList).mapError .diagram

/-- The values to set that a text holds. -/
def runValues (text : String) : Except RunError (List (String × NewValue)) := do
  match ← (Json.parse text.toList).mapError .values with
  | .object members => return members.map fun (name, value) => (name, .ok value)
  | _ => .error .valuesNotObject

/-- The query that a run prints. -/
def run (w : World) (inv : Invocation) : Except RunError String := do
  let settings ← runSettings w inv
  let d ← runDiagram w inv
  match inv.command with
  | .compile => return compile settings d
  | .update target values =>
    let updates ← runValues values
    (compileUpdate settings d target updates).mapError .update

/-- How the program ends. -/
inductive Ending where
  /-- It prints a query. -/
  | printed (query : String)
  /-- It fails. -/
  | failed (e : RunError)
  /-- There is nothing to run. -/
  | refused (refusal : Refusal)
  /-- The environment file sets a variable to what none can be set to. -/
  | stopped
deriving DecidableEq, Repr

namespace Ending

/-- The exit code. -/
def code : Ending → Nat
  | .printed _ => 0
  | .failed _ => 1
  | .refused .help => 0
  | .refused .usage => 2
  | .stopped => 101

/-- What is written to standard output. -/
def output : Ending → String
  | .printed query => query ++ "\n"
  | _ => ""

end Ending

/-- The environment file of a run, as a path. -/
def dotenvPath : String := ".env"

/-- The world after its environment file has been loaded, if it can be. -/
def World.loadEnvironment? (w : World) : Option World :=
  match w.file? dotenvPath with
  | some text => (Dotenv.load? w.env text).map fun env => { w with env }
  | none => some w

/-- The whole program. -/
def execute (w : World) (args : List String) : Ending :=
  match w.loadEnvironment? with
  | none => .stopped
  | some w =>
    match readArguments args with
    | .error refusal => .refused refusal
    | .ok inv =>
      match run w inv with
      | .ok query => .printed query
      | .error e => .failed e

end GraphQuery.CommandLine
