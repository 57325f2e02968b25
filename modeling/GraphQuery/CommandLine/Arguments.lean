import GraphQuery.Settings.Basic
import GraphQuery.Text.Unsigned

/-!
# Command line — arguments

The arguments name a command, the settings that it overrides and its input.  Options for settings
may stand before or after the command; in each of the two places an option may come once, and the
later place wins.  An option takes its value from behind an equals sign or from the next argument,
which then may not look like an option.  After two dashes every argument is an input.

Arguments that do not fit are a usage error.  They are read from left to right, so what comes
first decides between an error and a request for help.  Only the value of an option right before
the command is checked after the arguments of the command.
-/

namespace GraphQuery.CommandLine

/-- What the options say. -/
structure Options where
  /-- Whether clauses have to stand on lines of their own. -/
  multiline : Bool
  /-- The number of probes. -/
  maxProbes : Option Nat
  /-- The fallback name. -/
  fallback : Option String
  /-- The settings file. -/
  config : Option String
  /-- The name of the node to update. -/
  target : Option String
  /-- The values to set. -/
  values : Option String
  /-- The file with the diagram. -/
  input : Option String
deriving DecidableEq, Repr

namespace Options

/-- No options. -/
def none : Options :=
  ⟨false, .none, .none, .none, .none, .none, .none⟩

/-- The options of two places, where the second one wins. -/
def merge (first second : Options) : Options :=
  ⟨first.multiline || second.multiline, second.maxProbes.or first.maxProbes,
    second.fallback.or first.fallback, second.config.or first.config,
    second.target.or first.target, second.values.or first.values, second.input.or first.input⟩

/-- The settings that the options override. -/
def overrides (o : Options) : Overrides :=
  ⟨o.multiline, o.maxProbes, o.fallback⟩

end Options

/-- A command with its own arguments. -/
inductive Command where
  /-- Compile a diagram. -/
  | compile
  /-- Compile a diagram into an update. -/
  | update (target values : String)
deriving DecidableEq, Repr

/-- What the arguments ask for. -/
structure Invocation where
  /-- The command. -/
  command : Command
  /-- The settings to override. -/
  overrides : Overrides
  /-- The settings file, if there is one. -/
  config : Option String
  /-- The file with the diagram, unless it comes from standard input. -/
  input : Option String
deriving DecidableEq, Repr

/-- Why there is nothing to run. -/
inductive Refusal where
  /-- The arguments ask for help or for the version. -/
  | help
  /-- The arguments do not fit. -/
  | usage
deriving DecidableEq, Repr

/-- Where arguments stand: before the command, or after one of the two commands. -/
inductive Place where
  /-- Before the command. -/
  | front
  /-- After the command that compiles. -/
  | compile
  /-- After the command that updates. -/
  | update
deriving DecidableEq, Repr

/-- The options that take a value. -/
inductive ValueOption where
  /-- The number of probes. -/
  | maxProbes
  /-- The fallback name. -/
  | fallback
  /-- The settings file. -/
  | config
  /-- The name of the node to update. -/
  | target
  /-- The values to set. -/
  | values
deriving DecidableEq, Repr

/-- The option with a name, where it may stand. -/
def ValueOption.ofName? (place : Place) (name : String) : Option ValueOption :=
  match name with
  | "max-alias-probes" => some .maxProbes
  | "fallback-alias" => some .fallback
  | "config" => some .config
  | "target" => if place = .update then some .target else none
  | "values" => if place = .update then some .values else none
  | _ => none

/-- The number of probes that an argument writes.  A minus sign is fine in front of zero. -/
def probes? (cs : List Char) : Option Nat :=
  match cs with
  | '-' :: zeros => if !zeros.isEmpty && zeros.all (· == '0') then some 0 else none
  | cs => (Text.readUnsigned Settings.probeBound cs).toOption

/-- A path that an argument names.  It may not be empty. -/
def path? (value : String) : Option String :=
  if value = "" then none else some value

/-- Fills in a field that is still empty with a value that fits. -/
def fill {α : Type} (field value : Option α) : Except Refusal (Option α) :=
  match field, value with
  | none, some a => .ok (some a)
  | _, _ => .error .usage

/-- Takes in an option with its value. -/
def Options.put (o : Options) (option : ValueOption) (value : String) :
    Except Refusal Options := do
  match option with
  | .maxProbes => return { o with maxProbes := ← fill o.maxProbes (probes? value.toList) }
  | .fallback => return { o with fallback := ← fill o.fallback (some value) }
  | .config => return { o with config := ← fill o.config (path? value) }
  | .target => return { o with target := ← fill o.target (some value) }
  | .values => return { o with values := ← fill o.values (some value) }

/-- Takes in an argument that is no option. -/
def Options.putInput (place : Place) (o : Options) (value : String) : Except Refusal Options := do
  if place = .front then .error .usage
  else return { o with input := ← fill o.input (path? value) }

/-- The name of a long option, and the value behind its equals sign. -/
def splitLong (cs : List Char) : String × Option String :=
  match cs.dropWhile (· ≠ '=') with
  | [] => (String.ofList cs, none)
  | _ :: value => (String.ofList (cs.takeWhile (· ≠ '=')), some (String.ofList value))

/-- What an argument is by its dashes. -/
inductive Argument where
  /-- Two dashes alone. -/
  | border
  /-- A long option with a value behind an equals sign or without. -/
  | long (name : String) (value : Option String)
  /-- Short options, by the letter of the first. -/
  | short (letter : Char)
  /-- Anything else. -/
  | plain (text : String)
deriving DecidableEq, Repr

/-- What an argument is. -/
def Argument.of (arg : String) : Argument :=
  match arg.toList with
  | ['-', '-'] => .border
  | '-' :: '-' :: cs =>
    let (name, value) := splitLong cs
    .long name value
  | '-' :: c :: _ => .short c
  | _ => .plain arg

/-- What is read in one place, with the arguments from the command on if there is one.  The value
that comes right before the command has not been found to fit yet. -/
abbrev PlaceReading := Except Refusal (Except Refusal Options × Option (String × List String))

/-- The inputs after two dashes. -/
def readInputs (place : Place) (o : Options) : List String → Except Refusal Options
  | [] => .ok o
  | arg :: args => do
    let o ← o.putInput place arg
    readInputs place o args

/-- Reads the arguments of one place.  Before the command, the first argument that is no option is
taken as the command.  Any other argument comes after the values before it have been found to
fit. -/
def readPlace (place : Place) (sofar : Except Refusal Options) : List String → PlaceReading
  | [] => .ok (sofar, none)
  | arg :: args =>
    match sofar, Argument.of arg with
    | sofar, .plain text =>
      if place = .front then .ok (sofar, some (text, args))
      else do
        let o ← (← sofar).putInput place text
        readPlace place (.ok o) args
    | .error refusal, _ => .error refusal
    | .ok o, .border => do
      let o ← readInputs place o args
      return (.ok o, none)
    | .ok _, .short 'h' => .error .help
    | .ok _, .short 'V' => .error (if place = .front then .help else .usage)
    | .ok _, .short _ => .error .usage
    | .ok _, .long "help" none => .error .help
    | .ok _, .long "version" none => .error (if place = .front then .help else .usage)
    | .ok o, .long "multiline" none =>
      if o.multiline then .error .usage
      else readPlace place (.ok { o with multiline := true }) args
    | .ok o, .long name value =>
      match ValueOption.ofName? place name, value, args with
      | some option, some value, args => do
        let o ← o.put option value
        readPlace place (.ok o) args
      | some option, none, next :: args =>
        match Argument.of next with
        | .plain value => readPlace place (o.put option value) args
        | _ => .error .usage
      | _, _, _ => .error .usage

/-- The commands that help can be asked for. -/
def commandNames : List String :=
  ["compile", "update", "help"]

/-- Reads the arguments after the command that asks for help: the name of a command, or nothing.  No
command has commands within. -/
def readHelp : List String → Refusal
  | [] => .help
  | [name] => if name ∈ commandNames then .help else .usage
  | _ => .usage

/-- Reads the arguments after a command. -/
def readCommand (name : String) (args : List String) : Except Refusal Options := do
  match name with
  | "compile" =>
    let (o, _) ← readPlace .compile (.ok .none) args
    o
  | "update" =>
    let (o, _) ← readPlace .update (.ok .none) args
    let o ← o
    if o.target.isSome && o.values.isSome then return o else .error .usage
  | "help" => .error (readHelp args)
  | _ => .error .usage

/-- What all options ask for. -/
def Options.invocation (o : Options) : Invocation :=
  let command := match o.target, o.values with
    | some target, some values => .update target values
    | _, _ => .compile
  ⟨command, o.overrides, o.config, o.input⟩

/-- Reads all arguments. -/
def readArguments (args : List String) : Except Refusal Invocation := do
  let (front, command) ← readPlace .front (.ok .none) args
  match command with
  | some (name, args) =>
    let o ← readCommand name args
    return ((← front).merge o).invocation
  | none => .error .usage

end GraphQuery.CommandLine
