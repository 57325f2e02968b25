import GraphQuery.Settings.Basic
import GraphQuery.Text.Unsigned

/-!
# Settings — from the environment

Three environment variables hold the settings.  A variable that is not set, or whose value is no
text, leaves its default.  The layout is read before the number of probes, and the ranges are
checked once both could be read.
-/

namespace GraphQuery

/-- The variables of an environment that have a text as their value. -/
abbrev Environment := List (String × String)

/-- The value of a variable. -/
def Environment.get? (env : Environment) (name : String) : Option String :=
  (env.find? (·.1 = name)).map (·.2)

/-- What a reference to a variable stands for.  An environment is a list of lines, each of them a
name, an equals sign and a value, and a reference stands for what follows it and an equals sign on
the first line where that is possible.  So the text of a reference may end inside a value. -/
def Environment.refer? (env : Environment) (text : String) : Option String :=
  let start := text.toList ++ ['=']
  env.findSome? fun (name, value) =>
    let line := name.toList ++ '=' :: value.toList
    if start.isPrefixOf line then some (String.ofList (line.drop start.length)) else none

/-- What is wrong with an unsigned numeral, in words. -/
def Text.UnsignedFault.message : Text.UnsignedFault → String
  | .empty => "cannot parse integer from empty string"
  | .invalidDigit => "invalid digit found in string"
  | .tooLarge => "number too large to fit in target type"

namespace Settings

/-- The message of an error in a text. -/
def parseMessage (field value reason : String) : String :=
  "Parse error for " ++ field ++ ": " ++ value ++ " - " ++ reason

/-- The variable that holds the layout. -/
def multilineVariable : String := "CYPHER_STUDIO_MULTILINE"

/-- The variable that holds the number of probes. -/
def maxProbesVariable : String := "CYPHER_STUDIO_MAX_ALIAS_PROBES"

/-- The variable that holds the fallback name. -/
def fallbackVariable : String := "CYPHER_STUDIO_FALLBACK_ALIAS"

/-- Reads a truth value that is written out. -/
def readBool (field value : String) : Except SettingsError Bool :=
  if value = "true" then .ok true
  else if value = "false" then .ok false
  else .error (.parse field value "provided string was not `true` or `false`")

/-- Reads a number of probes. -/
def readProbes (field value : String) : Except SettingsError Nat :=
  match Text.readUnsigned probeBound value.toList with
  | .ok n => .ok n
  | .error fault => .error (.parse field value fault.message)

/-- The settings that an environment holds. -/
def ofEnvironment (env : Environment) : Except SettingsError Settings := do
  let multiline ← match env.get? multilineVariable with
    | some value => readBool multilineVariable value
    | none => .ok default.multiline
  let maxProbes ← match env.get? maxProbesVariable with
    | some value => readProbes maxProbesVariable value
    | none => .ok default.maxProbes
  validate ⟨multiline, maxProbes, (env.get? fallbackVariable).getD default.fallback⟩

end Settings

end GraphQuery
