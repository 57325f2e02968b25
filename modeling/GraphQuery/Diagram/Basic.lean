/-!
# Diagram — the drawing of a graph query

A `Diagram` is what the user draws: nodes, directed relationships between them, conditions on
their properties, the fields to return and a limit.  Ids tie the parts together and never reach
the query text.  A node or a relationship may ask for a name; the names that a query uses are
settled when it is compiled.
-/

namespace GraphQuery

/-- A node of a diagram. -/
structure Node where
  /-- The id that relationships and conditions refer to. -/
  id : String
  /-- The label that the node has to carry. -/
  label : Option String
  /-- The name that the node asks for. -/
  name : String
deriving DecidableEq, Repr, Inhabited

/-- How a relationship joins the query. -/
inductive MatchType where
  /-- Together with the others of its kind, in the leading match. -/
  | leading
  /-- In a match clause of its own. -/
  | chained
  /-- In an optional match. -/
  | optional
deriving DecidableEq, Repr

/-- A directed relationship of a diagram. -/
structure Relationship where
  /-- The id of the relationship. -/
  id : String
  /-- The type that the relationship has to have. -/
  type : Option String
  /-- The id of the node that it starts from. -/
  source : String
  /-- The id of the node that it leads to. -/
  target : String
  /-- The name that it asks for. -/
  name : Option String
  /-- How it joins the query, where that is not left to its position. -/
  matchType : Option MatchType
  /-- Whether it takes part in the query. -/
  enabled : Bool
deriving DecidableEq, Repr

/-- A relationship as it is first drawn. -/
def Relationship.ofEnds (id source target : String) (type : Option String) : Relationship :=
  ⟨id, type, source, target, none, none, true⟩

/-- What a condition is about. -/
inductive ConditionType where
  /-- A node as a whole. -/
  | node
  /-- A relationship. -/
  | relationship
  /-- A property of a node. -/
  | property
  /-- A path. -/
  | path
deriving DecidableEq, Repr

/-- A condition of a diagram, possibly not filled in yet. -/
structure Condition where
  /-- The id of the condition. -/
  id : String
  /-- What the condition is about. -/
  type : ConditionType
  /-- The id of the node that it is on. -/
  node : Option String
  /-- The property that it compares. -/
  property : Option String
  /-- The operator that it compares with. -/
  operator : Option String
  /-- The text that it compares to. -/
  value : Option String
deriving DecidableEq, Repr

/-- A condition on a property with every field filled in. -/
structure PropertyFilter where
  /-- The id of the node that it is on. -/
  node : String
  /-- The property that it compares. -/
  property : String
  /-- The operator that it compares with. -/
  operator : String
  /-- The text that it compares to. -/
  value : String
deriving DecidableEq, Repr

namespace Condition

/-- The condition that asks for a filter. -/
def ofFilter (id : String) (f : PropertyFilter) : Condition :=
  ⟨id, .property, some f.node, some f.property, some f.operator, some f.value⟩

/-- A field that has been filled in with some text. -/
def filled? (field : Option String) : Option String :=
  field.filter (· ≠ "")

/-- The filter that a condition asks for, once it is about a property and every field is filled
in. -/
def filter? (c : Condition) : Option PropertyFilter :=
  match c.type with
  | .property => do
    let node ← filled? c.node
    let property ← filled? c.property
    let operator ← filled? c.operator
    let value ← filled? c.value
    return ⟨node, property, operator, value⟩
  | _ => none

end Condition

/-- What the limit of a diagram counts. -/
inductive LimitMode where
  /-- The rows of the result. -/
  | rows
  /-- The nodes that the query starts from. -/
  | nodes
deriving DecidableEq, Repr

/-- The drawing of a graph query. -/
structure Diagram where
  /-- The nodes. -/
  nodes : List Node
  /-- The relationships. -/
  relationships : List Relationship
  /-- The conditions. -/
  conditions : List Condition
  /-- The fields to return: positions of nodes, or texts. -/
  returnFields : List String
  /-- The limit as it was typed. -/
  limit : String
  /-- What the limit counts. -/
  limitMode : LimitMode
deriving DecidableEq, Repr

namespace Diagram

/-- The diagram without anything drawn. -/
def empty : Diagram :=
  ⟨[], [], [], [], "", .rows⟩

/-- The first node with an id. -/
def node? (d : Diagram) (id : String) : Option Node :=
  d.nodes.find? (·.id = id)

/-- The position of the first node with an id. -/
def nodeIndex? (d : Diagram) (id : String) : Option Nat :=
  d.nodes.findIdx? (·.id = id)

/-- The first relationship with an id. -/
def relationship? (d : Diagram) (id : String) : Option Relationship :=
  d.relationships.find? (·.id = id)

end Diagram

end GraphQuery
