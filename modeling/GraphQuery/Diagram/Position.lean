import GraphQuery.Text.Blank
import GraphQuery.Text.Unsigned
import GraphQuery.Diagram.Basic

/-!
# Diagram — positional return fields

A return field is a node position if it is an unsigned numeral below the number of nodes, and
otherwise a text of its own.  The query is compiled from the trimmed fields that are not blank;
`returnItems` says what they stand for.
-/

namespace GraphQuery

/-- The position that a field names among `count` nodes, if it is one. -/
def position? (field : String) (count : Nat) : Option Nat :=
  (Text.readUnsigned count field.toList).toOption

/-- The field that names a position. -/
def positionField (position : Nat) : String :=
  position.repr

/-- What a return field stands for. -/
inductive ReturnItem where
  /-- The node at a position. -/
  | node (node : Node)
  /-- A text of its own. -/
  | text (text : String)
deriving DecidableEq, Repr

/-- What a field stands for among these nodes. -/
def ReturnItem.ofField (nodes : List Node) (field : String) : ReturnItem :=
  match (position? field nodes.length).bind (nodes[·]?) with
  | some n => .node n
  | none => .text field

/-- What the fields that are not blank stand for, trimmed. -/
def Diagram.returnItems (d : Diagram) : List ReturnItem :=
  ((d.returnFields.map Text.trim).filter (· ≠ "")).map (ReturnItem.ofField d.nodes)

end GraphQuery
