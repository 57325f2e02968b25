import GraphQuery.Settings.Basic
import GraphQuery.Yaml.Node

/-!
# Settings — from a file

A settings file is a flat YAML mapping.  Keys that are no settings are passed over, a setting may
not come twice, and one that is absent keeps its default.  A document without contents leaves
everything at its default.
-/

namespace GraphQuery.Settings

/-- The tag of a scalar that is written as a block and yet a truth value. -/
def boolTag : String := "tag:yaml.org,2002:bool"

/-- The tag of a scalar that is written as a block and yet a number. -/
def naturalTag : String := "tag:yaml.org,2002:int"

/-- Whether a scalar may write something other than a text: a plain one may, and a block that keeps
its line breaks if it has the tag for it. -/
def writesMore (tag : String) (scalar : Yaml.Scalar) : Bool :=
  scalar.style = .plain || (scalar.style = .literal && scalar.tag = some tag)

/-- The truth value that a scalar writes. -/
def yamlBool? (scalar : Yaml.Scalar) : Option Bool :=
  if !writesMore boolTag scalar then none
  else if scalar.text ∈ ["true", "True", "TRUE"] then some true
  else if scalar.text ∈ ["false", "False", "FALSE"] then some false
  else none

/-- The natural number that digits of a base write, if there are any. -/
def inBase? (base : Nat) (ds : List Char) : Option Nat :=
  if ds.isEmpty then none
  else ds.foldlM (fun n c => ((Json.hexDigit? c).filter (· < base)).map (base * n + ·)) 0

/-- Whether a numeral is a run of several digits that starts with zero.  Such a scalar is a text. -/
def isPadded : List Char → Bool
  | '0' :: c :: cs => (c :: cs).all Char.isDigit
  | _ => false

/-- The natural number that a numeral writes: in decimal digits, or with a mark in one of the bases
16, 8 and 2, behind an optional plus sign. -/
def numeral? (cs : List Char) : Option Nat :=
  let digits := match cs with
    | '+' :: cs => cs
    | cs => cs
  match digits with
  | '0' :: 'x' :: cs => inBase? 16 cs
  | '0' :: 'o' :: cs => inBase? 8 cs
  | '0' :: 'b' :: cs => inBase? 2 cs
  | cs => if isPadded cs then none else inBase? 10 cs

/-- The natural number that a scalar writes. -/
def yamlNatural? (scalar : Yaml.Scalar) : Option Nat :=
  if writesMore naturalTag scalar then numeral? scalar.text.toList else none

/-- The settings read so far, each of them at most once. -/
structure Draft where
  /-- The layout. -/
  multiline : Option Bool
  /-- The number of probes. -/
  maxProbes : Option Nat
  /-- The fallback name. -/
  fallback : Option String

/-- A setting read where it has not been read before. -/
def once {α : Type} (sofar value : Option α) : Option (Option α) :=
  match sofar with
  | some _ => none
  | none => value.map some

/-- Reads an entry of a mapping.  Its key has to be a scalar, whatever it names. -/
def Draft.put? (document : Yaml.Document) (draft : Draft) (entry : Yaml.Node × Yaml.Node) :
    Option Draft := do
  let key ← document.scalar? entry.1
  let value := document.scalar? entry.2
  match key.text with
  | "multiline" =>
    return { draft with multiline := ← once draft.multiline (value.bind yamlBool?) }
  | "max_alias_probes" =>
    let probes := (value.bind yamlNatural?).filter (· < probeBound)
    return { draft with maxProbes := ← once draft.maxProbes probes }
  | "fallback_alias" =>
    return { draft with fallback := ← once draft.fallback (value.map (·.text)) }
  | _ => return draft

/-- The settings, the absent ones at their defaults. -/
def Draft.finish (draft : Draft) : Settings :=
  ⟨draft.multiline.getD default.multiline, draft.maxProbes.getD default.maxProbes,
    draft.fallback.getD default.fallback⟩

/-- The settings that a document holds. -/
def ofYaml? (document : Yaml.Document) : Option Settings :=
  match document.root with
  | .mapping entries =>
    (entries.foldlM (Draft.put? document) ⟨none, none, none⟩).map Draft.finish
  | .scalar scalar => if scalar.style = .plain ∧ scalar.text = "" then some default else none
  | _ => none

/-- The settings that a stream holds.  One without a document holds none. -/
def ofStream? (cs : List Char) : Option Settings := do
  match ← Yaml.readStream? cs with
  | some document => ofYaml? document
  | none => return default

/-- The settings in a file; no content means that the file could not be read. -/
def ofFile (content : Option String) : Except SettingsError Settings :=
  match content with
  | none => .error (.parse "yaml_file" "file read failed" "the file cannot be read")
  | some text =>
    match ofStream? text.toList with
    | some settings => settings.validate
    | none => .error (.parse "yaml_content" text "the file holds no settings")

end GraphQuery.Settings
