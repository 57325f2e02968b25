import GraphQuery.Json.Reader
import GraphQuery.Json.Printer
import GraphQuery.Text.Visible

/-!
# JSON — decoding

A `Decoder` reads a value of the program out of a `Document`.  What does not fit is a
`DecodeError`: a fault of the text, or a value of the wrong shape.  The first error in reading
order is the one reported.  Few errors differ between a document that was read from a text and
one that was a value all along; the `Origin` says which it is.
-/

namespace GraphQuery.Json

/-- Where a document comes from. -/
inductive Origin where
  /-- It was read from a text. -/
  | text
  /-- It was a value. -/
  | value
deriving DecidableEq, Repr

/-- What a document turns out to be. -/
inductive Shape where
  /-- The null value. -/
  | null
  /-- A truth value. -/
  | bool (b : Bool)
  /-- An integer. -/
  | integer (i : Int)
  /-- A number that is no integer. -/
  | float (x : Binary64)
  /-- A text. -/
  | string (s : String)
  /-- A list. -/
  | list
  /-- An object. -/
  | object
deriving DecidableEq, Repr

/-- The shape in a message. -/
def Shape.describe : Shape → String
  | .null => "null"
  | .bool b => "boolean `" ++ (if b then "true" else "false") ++ "`"
  | .integer i => "integer `" ++ String.ofList (writeInt i) ++ "`"
  | .float x => "floating point `" ++ String.ofList (writeFloat x) ++ "`"
  | .string s => "string " ++ Text.showQuoted s
  | .list => "sequence"
  | .object => "map"

/-- Why a document does not decode. -/
inductive DecodeError where
  /-- The text is no JSON. -/
  | fault (fault : Fault)
  /-- An object lacks a field. -/
  | missingField (name : String)
  /-- An object has a field twice. -/
  | duplicateField (name : String)
  /-- A name is none of the expected ones. -/
  | unknownVariant (name : String) (expected : List String)
  /-- A value has the wrong shape. -/
  | invalidType (found : Shape) (wanted : String)
  /-- A value of the right shape is out of range. -/
  | invalidValue (found : Shape) (wanted : String)
  /-- A list has the wrong number of items. -/
  | invalidLength (length : Nat) (wanted : String)
deriving DecidableEq, Repr

/-- A name between backticks. -/
def tick (name : String) : String :=
  "`" ++ name ++ "`"

/-- The names that are expected, in a message. -/
def expectation : List String → String
  | [] => "there are no variants"
  | [a] => "expected " ++ tick a
  | [a, b] => "expected " ++ tick a ++ " or " ++ tick b
  | names => "expected one of " ++ ", ".intercalate (names.map tick)

/-- The message of an error that is not a fault of the text. -/
def DecodeError.message? : DecodeError → Option String
  | .fault _ => none
  | .missingField name => some ("missing field " ++ tick name)
  | .duplicateField name => some ("duplicate field " ++ tick name)
  | .unknownVariant name expected =>
    some ("unknown variant " ++ tick name ++ ", " ++ expectation expected)
  | .invalidType found wanted =>
    some ("invalid type: " ++ found.describe ++ ", expected " ++ wanted)
  | .invalidValue found wanted =>
    some ("invalid value: " ++ found.describe ++ ", expected " ++ wanted)
  | .invalidLength length wanted =>
    some ("invalid length " ++ toString length ++ ", expected " ++ wanted)

/-- Reads a value of the program out of a document. -/
abbrev Decoder (α : Type) := Origin → Document → Except DecodeError α

/-- A fault of the text as a decoding error. -/
def lift {α : Type} (outcome : Except Fault α) : Except DecodeError α :=
  outcome.mapError .fault

/-- What a document turns out to be, unless it is no value. -/
def Document.shape : Document → Except Fault Shape
  | .null => .ok .null
  | .bool b => .ok (.bool b)
  | .number n => n.map fun
    | .integer i => .integer i
    | .float x => .float x
  | .string s => s.map .string
  | .array _ _ => .ok .list
  | .object _ _ => .ok .object
  | .broken place => .error place.wanted

/-- Refuses a document for its shape. -/
def refuse {α : Type} (wanted : String) (doc : Document) : Except DecodeError α := do
  let shape ← lift doc.shape
  .error (.invalidType shape wanted)

namespace Decoder

/-- Reads a text. -/
def string : Decoder String
  | _, .string s => lift s
  | _, doc => refuse "a string" doc

/-- Reads a truth value. -/
def bool : Decoder Bool
  | _, .bool b => .ok b
  | _, doc => refuse "a boolean" doc

/-- Reads a natural number below a bound; `wanted` names the range in messages. -/
def natural (bound : Nat) (wanted : String) : Decoder Nat
  | _, .number (.ok (.integer i)) =>
    if 0 ≤ i ∧ i < bound then .ok i.toNat else .error (.invalidValue (.integer i) wanted)
  | _, doc => refuse wanted doc

/-- Reads what may be null. -/
def nullable {α : Type} (read : Decoder α) : Decoder (Option α)
  | _, .null => .ok none
  | _, .broken ⟨wanted, _, .null⟩ => .error (.fault wanted)
  | origin, doc => (read origin doc).map some

/-- Reads the items of a list one by one. -/
def items {α : Type} (read : Decoder α) (origin : Origin) :
    List Document → Except DecodeError (List α)
  | [] => .ok []
  | doc :: docs => do
    let a ← read origin doc
    let rest ← items read origin docs
    return a :: rest

/-- Reads a list. -/
def list {α : Type} (read : Decoder α) : Decoder (List α)
  | origin, .array docs ending => do
    let values ← items read origin docs
    lift (Document.close true ending)
    return values
  | _, doc => refuse "a sequence" doc

/-- Looks a name up among the expected ones. -/
def lookup {α : Type} (names : List (String × α)) (name : String) : Except DecodeError α :=
  match names.find? (·.1 = name) with
  | some (_, a) => .ok a
  | none => .error (.unknownVariant name (names.map (·.1)))

/-- Reads one of the named values, written as an object whose only member has that name and is
null. -/
def soleName {α : Type} (names : List (String × α)) (name : Except Fault String)
    (doc : Document) : Except DecodeError α := do
  let name ← lift name
  let a ← lookup names name
  match doc with
  | .null => return a
  | doc => refuse "unit" doc

/-- Reads one of the named values, written as its name or as an object with one null member of
that name. -/
def variant {α : Type} (names : List (String × α)) : Decoder α
  | _, .string s => do
    let name ← lift s
    lookup names name
  | .text, .object [] ending => do
    lift (Document.close true ending)
    .error (.fault .malformed)
  | .text, .object ((name, doc) :: members) ending => do
    let a ← soleName names name doc
    if !members.isEmpty then .error (.fault .malformed)
    lift (Document.close true ending)
    return a
  | .value, .object [(name, doc)] _ => soleName names name doc
  | .value, .object _ _ => .error (.invalidValue .object "map with a single key")
  | _, .broken place => .error (.fault place.named)
  | .text, _ => .error (.fault .malformed)
  | .value, doc => refuse "string or map" doc

/-- Decodes a value. -/
def ofValue {α : Type} (read : Decoder α) (v : Value) : Except DecodeError α :=
  read .value (.ofValue v)

/-- Decodes a whole text. -/
def ofText {α : Type} (read : Decoder α) (cs : List Char) : Except DecodeError α := do
  let (doc, after) := readDocument cs
  let a ← read .text doc
  lift after
  return a

end Decoder

end GraphQuery.Json
