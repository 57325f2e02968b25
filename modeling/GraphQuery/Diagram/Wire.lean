import GraphQuery.Json.Record
import GraphQuery.Diagram.Basic
import GraphQuery.Diagram.IdSequence

/-!
# Diagram — JSON form

Each part of a diagram is written as an object with its fields in a fixed order, without the
optional ones that are absent.  It is read back from an object with the fields in any order, or
from the list of its fields.
-/

namespace GraphQuery

open Json

/-- An optional member of an object. -/
def optionalMember (name : String) (field : Option String) : Members :=
  (field.map fun text => (name, Value.string text)).toList

/-- The name of a value in a table of names. -/
def nameIn {α : Type} [DecidableEq α] (names : List (String × α)) (a : α) : String :=
  ((names.find? (·.2 = a)).map (·.1)).getD ""

/-! ### Nodes -/

/-- The fields of a node. -/
def Node.record : Record Node :=
  ((Record.done Node.mk
    |>.required "id" .string)
    |>.optional "label" .string)
    |>.required "alias" .string

/-- Reads a node. -/
def Node.decoder : Decoder Node :=
  Node.record.decoder "struct QueryNode"

/-- Writes a node. -/
def Node.toValue (n : Node) : Value :=
  .object ([("id", .string n.id)] ++ optionalMember "label" n.label
    ++ [("alias", .string n.name)])

/-! ### Relationships -/

/-- The names of the ways a relationship joins the query. -/
def MatchType.names : List (String × MatchType) :=
  [("AND", .leading), ("MATCH", .chained), ("OPTIONAL_MATCH", .optional)]

/-- The name of a way to join the query. -/
def MatchType.text (m : MatchType) : String :=
  nameIn MatchType.names m

/-- Reads a way to join the query. -/
def MatchType.decoder : Decoder MatchType :=
  .variant MatchType.names

/-- The fields of a relationship. -/
def Relationship.record : Record Relationship :=
  ((((((Record.done Relationship.mk
    |>.required "id" .string)
    |>.optional "type" .string)
    |>.required "from" .string)
    |>.required "to" .string)
    |>.optional "alias" .string)
    |>.optional "matchType" MatchType.decoder)
    |>.defaulted "enabled" .bool true

/-- Reads a relationship. -/
def Relationship.decoder : Decoder Relationship :=
  Relationship.record.decoder "struct QueryRelationship"

/-- Writes a relationship. -/
def Relationship.toValue (r : Relationship) : Value :=
  .object ([("id", .string r.id)] ++ optionalMember "type" r.type
    ++ [("from", .string r.source), ("to", .string r.target)] ++ optionalMember "alias" r.name
    ++ optionalMember "matchType" (r.matchType.map MatchType.text)
    ++ [("enabled", .bool r.enabled)])

/-! ### Conditions -/

/-- The names of what a condition is about. -/
def ConditionType.names : List (String × ConditionType) :=
  [("node", .node), ("relationship", .relationship), ("property", .property), ("path", .path)]

/-- The name of what a condition is about. -/
def ConditionType.text (t : ConditionType) : String :=
  nameIn ConditionType.names t

/-- Reads what a condition is about. -/
def ConditionType.decoder : Decoder ConditionType :=
  .variant ConditionType.names

/-- The fields of a condition. -/
def Condition.record : Record Condition :=
  (((((Record.done Condition.mk
    |>.required "id" .string)
    |>.required "type" ConditionType.decoder)
    |>.optional "nodeId" .string)
    |>.optional "property" .string)
    |>.optional "operator" .string)
    |>.optional "value" .string

/-- Reads a condition. -/
def Condition.decoder : Decoder Condition :=
  Condition.record.decoder "struct QueryCondition"

/-- Writes a condition. -/
def Condition.toValue (c : Condition) : Value :=
  .object ([("id", .string c.id), ("type", .string c.type.text)]
    ++ optionalMember "nodeId" c.node ++ optionalMember "property" c.property
    ++ optionalMember "operator" c.operator ++ optionalMember "value" c.value)

/-! ### Diagrams -/

/-- The names of what a limit counts. -/
def LimitMode.names : List (String × LimitMode) :=
  [("rows", .rows), ("nodes", .nodes)]

/-- The name of what a limit counts. -/
def LimitMode.text (m : LimitMode) : String :=
  nameIn LimitMode.names m

/-- Reads what a limit counts. -/
def LimitMode.decoder : Decoder LimitMode :=
  .variant LimitMode.names

/-- The fields of a diagram. -/
def Diagram.record : Record Diagram :=
  (((((Record.done Diagram.mk
    |>.defaulted "nodes" (.list Node.decoder) [])
    |>.defaulted "relationships" (.list Relationship.decoder) [])
    |>.defaulted "conditions" (.list Condition.decoder) [])
    |>.defaulted "returnFields" (.list .string) [])
    |>.defaulted "limit" .string "")
    |>.defaulted "limitMode" LimitMode.decoder .rows

/-- Reads a diagram. -/
def Diagram.decoder : Decoder Diagram :=
  Diagram.record.decoder "struct QueryBuilderState"

/-- Writes a diagram. -/
def Diagram.toValue (d : Diagram) : Value :=
  .object [("nodes", .array (d.nodes.map Node.toValue)),
    ("relationships", .array (d.relationships.map Relationship.toValue)),
    ("conditions", .array (d.conditions.map Condition.toValue)),
    ("returnFields", .array (d.returnFields.map .string)), ("limit", .string d.limit),
    ("limitMode", .string d.limitMode.text)]

/-! ### Sources of ids -/

/-- The field of a source of ids. -/
def IdSequence.record : Record IdSequence :=
  Record.done IdSequence.mk |>.required "next" (.natural UInt64.size "u64")

/-- Reads a source of ids. -/
def IdSequence.decoder : Decoder IdSequence :=
  IdSequence.record.decoder "struct IdSequence"

/-- Writes a source of ids. -/
def IdSequence.toValue (ids : IdSequence) : Value :=
  .object [("next", .integer ids.issued)]

end GraphQuery
