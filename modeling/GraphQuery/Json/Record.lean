import GraphQuery.Json.Decode

/-!
# JSON — records

A `Record α` describes how a value of type `α` is written as a record: its fields in declaration
order, each with a name, a decoder and possibly a value to fall back on.  The same description
decodes an object, whose members come in any order, and a list of the fields in declaration order.

While an object is read, the record holds the fields read so far.  A member that is no field is
passed over; a field that comes twice is refused; a field that is still missing at the end of the
object takes its fallback or is reported, the first one in declaration order.
-/

namespace GraphQuery.Json

/-- The fields of a record in declaration order, each possibly read already. -/
inductive Record : Type → Type 1 where
  /-- All fields are there. -/
  | done {α : Type} (a : α) : Record α
  /-- One more field after the others. -/
  | field {α β : Type} (fields : Record (β → α)) (name : String) (read : Decoder β)
      (fallback : Option β) (value : Option β) : Record α

namespace Record

/-- A record with one more field, which has to be there. -/
def required {α β : Type} (fields : Record (β → α)) (name : String) (read : Decoder β) :
    Record α :=
  .field fields name read none none

/-- A record with one more field, which may be absent or null. -/
def optional {α β : Type} (fields : Record (Option β → α)) (name : String) (read : Decoder β) :
    Record α :=
  .field fields name (.nullable read) (some none) none

/-- A record with one more field, which may be absent. -/
def defaulted {α β : Type} (fields : Record (β → α)) (name : String) (read : Decoder β)
    (fallback : β) : Record α :=
  .field fields name read (some fallback) none

/-- The number of fields. -/
def size {α : Type} : Record α → Nat
  | .done _ => 0
  | .field fields _ _ _ _ => fields.size + 1

/-- Reads a member into its field; nothing if no field has that name. -/
def put {α : Type} (origin : Origin) (key : String) (doc : Document) :
    Record α → Except DecodeError (Option (Record α))
  | .done _ => .ok none
  | .field fields name read fallback value =>
    if key = name then
      match value with
      | some _ => .error (.duplicateField name)
      | none =>
        match read origin doc with
        | .ok b => .ok (some (.field fields name read fallback (some b)))
        | .error e => .error e
    else
      match put origin key doc fields with
      | .ok (some fields) => .ok (some (.field fields name read fallback value))
      | .ok none => .ok none
      | .error e => .error e

/-- The value of the record, once no more members come. -/
def finish {α : Type} : Record α → Except DecodeError α
  | .done a => .ok a
  | .field fields name _ fallback value =>
    match fields.finish with
    | .error e => .error e
    | .ok f =>
      match value.or fallback with
      | some b => .ok (f b)
      | none => .error (.missingField name)

/-- Reads the members of an object and then ends it. -/
def ofMembers {α : Type} (origin : Origin) (ending : Option Break) (record : Record α) :
    List (Except Fault String × Document) → Except DecodeError α
  | [] =>
    match Document.close true ending with
    | .error fault => .error (.fault fault)
    | .ok () => record.finish
  | (.error fault, _) :: _ => .error (.fault fault)
  | (.ok key, doc) :: members =>
    match record.put origin key doc with
    | .error e => .error e
    | .ok (some record) => record.ofMembers origin ending members
    | .ok none =>
      match doc.skip with
      | .error fault => .error (.fault fault)
      | .ok () => record.ofMembers origin ending members

/-- The number of fields in a message. -/
def count (n : Nat) : String :=
  toString n ++ (if n = 1 then " element" else " elements")

/-- Reads the items of a list into the fields, and yields the items after them. -/
def ofItems {α : Type} (origin : Origin) (wanted : String) (ending : Option Break) :
    Record α → List Document → Except DecodeError (α × List Document)
  | .done a, docs => .ok (a, docs)
  | .field fields _ read fallback _, docs =>
    match ofItems origin wanted ending fields docs with
    | .error e => .error e
    | .ok (f, doc :: docs) =>
      match read origin doc with
      | .error e => .error e
      | .ok b => .ok (f b, docs)
    | .ok (f, []) =>
      match Document.close true ending, fallback with
      | .error fault, _ => .error (.fault fault)
      | .ok (), some b => .ok (f b, [])
      | .ok (), none => .error (.invalidLength fields.size wanted)

/-- The decoder of a record; `wanted` names the kind of record in messages. -/
def decoder {α : Type} (wanted : String) (record : Record α) : Decoder α
  | origin, .object members ending => record.ofMembers origin ending members
  | origin, .array docs ending =>
    match record.ofItems origin (wanted ++ " with " ++ count record.size) ending docs with
    | .error e => .error e
    | .ok (a, []) => do
      lift (Document.close true ending)
      return a
    | .ok (_, _ :: _) =>
      match origin with
      | .text => .error (.fault .malformed)
      | .value => .error (.invalidLength docs.length "fewer elements in array")
  | _, doc => refuse wanted doc

end Record

end GraphQuery.Json
