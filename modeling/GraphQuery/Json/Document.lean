import GraphQuery.Json.Value

/-!
# JSON — a text as far as it can be read

A `Document` is the tree of a JSON text, up to the place where the text stops being JSON if there
is one.  Breaks are kept inside the tree, so a reader that walks the tree in order finds a fault
exactly when it comes to it, and may find something else to complain about before.

A value that is only passed over has to be well formed as text; one that is wanted must also mean
something.  So a number out of range or a string with half of a surrogate pair is a leaf without a
value, and a break carries a fault for each way of coming to it.
-/

namespace GraphQuery.Json

/-- Why a text is not JSON. -/
inductive Fault where
  /-- A character or a value that may not stand where it stands. -/
  | malformed
  /-- The text ends too early. -/
  | truncated
deriving DecidableEq, Repr

/-- What stands before a break, in the value that is broken. -/
inductive Beginning where
  /-- A part of the null word. -/
  | null
  /-- A part of a number or of another word. -/
  | scalar
  /-- Nothing, or a part of something else. -/
  | other
deriving DecidableEq, Repr

/-- A place where a text stops being JSON. -/
structure Break where
  /-- The fault for a reader that wants the value there. -/
  wanted : Fault
  /-- The fault for a reader that passes over it. -/
  skipped : Fault
  /-- What stands before the break. -/
  beginning : Beginning
deriving DecidableEq, Repr

namespace Break

/-- A break with one fault for every reader. -/
def of (fault : Fault) : Break :=
  ⟨fault, fault, .other⟩

/-- The fault for a reader that wants a name there, plain or as the only one of an object.  No
word and no number is the beginning of one. -/
def named (place : Break) : Fault :=
  match place.beginning with
  | .other => place.wanted
  | _ => .malformed

end Break

/-- The tree of a JSON text as far as it can be read. -/
inductive Document where
  /-- The null value. -/
  | null
  /-- A truth value. -/
  | bool (b : Bool)
  /-- A number, unless it is out of range. -/
  | number (n : Except Fault Number)
  /-- A string, unless it stands for no text. -/
  | string (s : Except Fault String)
  /-- A list, closed unless a break follows its items. -/
  | array (items : List Document) (ending : Option Break)
  /-- Named documents, closed unless a break follows them.  A name may stand for no text. -/
  | object (members : List (Except Fault String × Document)) (ending : Option Break)
  /-- No document starts here, or the one that does breaks off. -/
  | broken (place : Break)

namespace Document

mutual

/-- The document that a value is, without breaks. -/
def ofValue : Value → Document
  | .null => .null
  | .bool b => .bool b
  | .number n => .number (.ok n)
  | .string s => .string (.ok s)
  | .array items => .array (ofItems items) none
  | .object members => .object (ofMembers members) none

/-- The documents that the items of a list are. -/
def ofItems : List Value → List Document
  | [] => []
  | item :: items => ofValue item :: ofItems items

/-- The documents that the members of an object are. -/
def ofMembers : List (String × Value) → List (Except Fault String × Document)
  | [] => []
  | (name, value) :: members => (.ok name, ofValue value) :: ofMembers members

end

/-- The outcome of coming to the end of a list or an object. -/
def close (wanted : Bool) : Option Break → Except Fault Unit
  | none => .ok ()
  | some place => .error (if wanted then place.wanted else place.skipped)

mutual

/-- Passes over a document. -/
def skip : Document → Except Fault Unit
  | .null | .bool _ | .number _ | .string _ => .ok ()
  | .array items ending => do
    skipItems items
    close false ending
  | .object members ending => do
    skipMembers members
    close false ending
  | .broken place => .error place.skipped

/-- Passes over the items of a list. -/
def skipItems : List Document → Except Fault Unit
  | [] => .ok ()
  | item :: items => do
    skip item
    skipItems items

/-- Passes over the members of an object. -/
def skipMembers : List (Except Fault String × Document) → Except Fault Unit
  | [] => .ok ()
  | (_, value) :: members => do
    skip value
    skipMembers members

end

mutual

/-- The value of a document that nests at most `depth` lists and objects. -/
def toValue (depth : Nat) : Document → Except Fault Value
  | .null => .ok .null
  | .bool b => .ok (.bool b)
  | .number n => n.map .number
  | .string s => s.map .string
  | .array items ending =>
    match depth with
    | 0 => .error .malformed
    | depth + 1 => do
      let values ← toItems depth items
      close true ending
      return .array values
  | .object members ending =>
    match depth with
    | 0 => .error .malformed
    | depth + 1 => do
      let values ← toMembers depth [] members
      close true ending
      return .object values
  | .broken place => .error place.wanted

/-- The values of the items of a list. -/
def toItems (depth : Nat) : List Document → Except Fault (List Value)
  | [] => .ok []
  | item :: items => do
    let value ← toValue depth item
    let values ← toItems depth items
    return value :: values

/-- The members of an object, put after those read so far. -/
def toMembers (depth : Nat) (sofar : Members) :
    List (Except Fault String × Document) → Except Fault Members
  | [] => .ok sofar
  | (name, item) :: members => do
    let name ← name
    let value ← toValue depth item
    toMembers depth (Members.put name value sofar) members

end

end Document

end GraphQuery.Json
