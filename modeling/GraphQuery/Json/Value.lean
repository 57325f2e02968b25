import GraphQuery.Number.Style

/-!
# JSON — values

A JSON value.  The members of an object keep the order in which they were first written.  A number
is an integer of at most 64 bits or a binary64 number.
-/

namespace GraphQuery.Json

/-- A number of a JSON value. -/
inductive Number where
  /-- An integer. -/
  | integer (i : Int)
  /-- Any other number. -/
  | float (x : Binary64)
deriving DecidableEq, Repr

/-- The integers that a JSON number can be: the signed and the unsigned ones of 64 bits. -/
def Number.isWord (i : Int) : Bool :=
  -9223372036854775808 ≤ i && i ≤ 18446744073709551615

/-- A JSON value. -/
inductive Value where
  /-- The null value. -/
  | null
  /-- A truth value. -/
  | bool (b : Bool)
  /-- A number. -/
  | number (n : Number)
  /-- A text. -/
  | string (s : String)
  /-- A list of values. -/
  | array (items : List Value)
  /-- Named values. -/
  | object (members : List (String × Value))
deriving Repr, Inhabited

/-- The members of an object. -/
abbrev Members := List (String × Value)

namespace Members

/-- Puts a member: a name that is already there keeps its place and takes the new value. -/
def put (name : String) (value : Value) : Members → Members
  | [] => [(name, value)]
  | member :: rest =>
    if member.1 = name then (name, value) :: rest else member :: put name value rest

/-- The value with a name. -/
def get? (members : Members) (name : String) : Option Value :=
  (members.find? (·.1 = name)).map (·.2)

/-- A member that was put has its new value, and every other member keeps its own. -/
theorem get?_put (name other : String) (value : Value) (members : Members) :
    (members.put name value).get? other =
      if name = other then some value else members.get? other := by
  induction members with
  | nil => by_cases h : name = other <;> simp [put, get?, h]
  | cons member rest ih =>
    simp only [get?] at ih
    by_cases hm : member.1 = name
    · subst hm
      by_cases h : member.1 = other <;> simp [put, get?, h]
    · have hput : put name value (member :: rest) = member :: put name value rest := by
        simp [put, hm]
      by_cases h : member.1 = other
      · have hne : name ≠ other := fun e => hm (h.trans e.symm)
        simp [hput, get?, h, hne]
      · simp [hput, get?, h, ih]

end Members

namespace Value

/-- An integer as a value. -/
def integer (i : Int) : Value :=
  .number (.integer i)

/-- The member with a name, if the value is an object that has it. -/
def get? (name : String) : Value → Option Value
  | .object members => Members.get? members name
  | _ => none

/-- The text, if the value is one. -/
def asString? : Value → Option String
  | .string s => some s
  | _ => none

/-- The natural number, if the value is one. -/
def asNat? : Value → Option Nat
  | .number (.integer i) => i.toNat?
  | _ => none

/-- The truth value, if the value is one. -/
def asBool? : Value → Option Bool
  | .bool b => some b
  | _ => none

/-- The items, if the value is a list. -/
def asArray? : Value → Option (List Value)
  | .array items => some items
  | _ => none

end Value

end GraphQuery.Json
