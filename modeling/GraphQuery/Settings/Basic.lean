import GraphQuery.Json.Record
import GraphQuery.Query.Clause

/-!
# Settings — how queries are compiled

The settings of the compiler, the ranges they have to keep, and their JSON form.
-/

namespace GraphQuery

open Json

/-- The settings of the compiler. -/
structure Settings where
  /-- Whether each clause stands on a line of its own. -/
  multiline : Bool
  /-- How often a name that is taken is changed before it is used all the same. -/
  maxProbes : Nat
  /-- The name for what nothing else binds. -/
  fallback : String
deriving DecidableEq, Repr

namespace Settings

/-- The settings where nothing else is asked for. -/
def default : Settings :=
  ⟨false, 26, "n"⟩

/-- The layout of the queries. -/
def layout (s : Settings) : Layout :=
  if s.multiline then .multiline else .singleLine

/-- The bound on numbers in the settings. -/
def probeBound : Nat := UInt32.size

/-- The fields of the settings. -/
def record : Record Settings :=
  ((Record.done Settings.mk
    |>.defaulted "multiline" .bool default.multiline)
    |>.defaulted "max_alias_probes" (.natural probeBound "u32") default.maxProbes)
    |>.defaulted "fallback_alias" .string default.fallback

/-- Reads settings. -/
def decoder : Decoder Settings :=
  record.decoder "struct CompilerConfig"

/-- Writes settings. -/
def toValue (s : Settings) : Value :=
  .object [("multiline", .bool s.multiline), ("max_alias_probes", .integer s.maxProbes),
    ("fallback_alias", .string s.fallback)]

end Settings

/-- A range that settings do not keep. -/
inductive Violation where
  /-- The fallback name is empty. -/
  | emptyFallback
  /-- The number of probes is not between 1 and 26. -/
  | probesOutOfRange
deriving DecidableEq, Repr

namespace Violation

/-- The setting that is out of range. -/
def field : Violation → String
  | .emptyFallback => "fallback_alias"
  | .probesOutOfRange => "max_alias_probes"

/-- The kind of range that is not kept. -/
def code : Violation → String
  | .emptyFallback => "length"
  | .probesOutOfRange => "range"

/-- What is wrong, in words. -/
def message : Violation → String
  | .emptyFallback => "Fallback alias cannot be empty"
  | .probesOutOfRange => "Max alias probes must be between 1 and 26"

end Violation

/-- Why settings cannot be had. -/
inductive SettingsError where
  /-- A text does not say what it should. -/
  | parse (field value reason : String)
  /-- The settings are out of range. -/
  | invalid (violations : List Violation)
deriving DecidableEq, Repr

namespace Settings

/-- The ranges that settings do not keep, by the name of the setting. -/
def violations (s : Settings) : List Violation :=
  (if s.fallback = "" then [.emptyFallback] else [])
    ++ (if 1 ≤ s.maxProbes ∧ s.maxProbes ≤ 26 then [] else [.probesOutOfRange])

/-- The settings, if they keep their ranges. -/
def validate (s : Settings) : Except SettingsError Settings :=
  match s.violations with
  | [] => .ok s
  | violations => .error (.invalid violations)

end Settings

/-- Settings that replace others. -/
structure Overrides where
  /-- Whether each clause has to stand on a line of its own. -/
  multiline : Bool
  /-- The number of probes, where it is replaced. -/
  maxProbes : Option Nat
  /-- The fallback name, where it is replaced. -/
  fallback : Option String
deriving DecidableEq, Repr

namespace Settings

/-- The settings with some replaced.  A layout of several lines cannot be taken back. -/
def override (base : Settings) (o : Overrides) : Except SettingsError Settings :=
  validate ⟨o.multiline || base.multiline, o.maxProbes.getD base.maxProbes,
    o.fallback.getD base.fallback⟩

end Settings

end GraphQuery
