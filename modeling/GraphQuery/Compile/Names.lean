import GraphQuery.Diagram.Basic

/-!
# Compile — the names of a query

Nothing stops two parts of a diagram from asking for the same name, so names are settled one by
one against the names in use.  The active relationships come first, each after its two ends, and
then the nodes in order.

A node whose name is taken moves on to the name with the next first character, as often as the
probes allow; the last name tried is kept even if it is taken.  A relationship whose name is taken
gets the first free one of `r1`, `r2`, ….
-/

namespace GraphQuery

/-- A relationship that takes part in a query. -/
structure ActiveRelationship where
  /-- Its place among the enabled relationships of the diagram. -/
  position : Nat
  /-- The relationship. -/
  relationship : Relationship
deriving DecidableEq, Repr

/-- The names settled so far. -/
structure Names where
  /-- The name of each node, by id. -/
  nodes : List (String × String)
  /-- The name of each relationship, by id; the one settled last stands first. -/
  relationships : List (String × String)
  /-- Every name in use. -/
  used : List String
deriving DecidableEq, Repr

/-- The last node with an id. -/
def lastNode? (nodes : List Node) (id : String) : Option Node :=
  nodes.reverse.find? (·.id = id)

/-- The character after a character; the same one where no character follows. -/
def nextChar (c : Char) : Char :=
  if (c.toNat + 1).isValidChar then Char.ofNat (c.toNat + 1) else c

/-- A name with the next first character. -/
def bump (name : String) : String :=
  match name.toList with
  | [] => ""
  | c :: cs => String.ofList (nextChar c :: cs)

/-- The first name that is free among a name and the names that follow it, trying at most `probes`
of those; the last one tried if none is free.  A name that only itself follows ends the trying. -/
def probe (used : List String) : Nat → String → String
  | 0, name => name
  | probes + 1, name =>
    if name ∈ used ∧ bump name ≠ name then probe used probes (bump name) else name

/-- The relationship name with a number. -/
def numberedName (n : Nat) : String :=
  "r" ++ n.repr

/-- The relationship name with the least number from one on that is not in use.  One of the first
`used.length + 1` is always free. -/
def freeName? (used : List String) : Option String :=
  ((List.range' 1 (used.length + 1)).map numberedName).find? (· ∉ used)

/-- The name that a relationship would have if it were free: its own one, or the one with its
number among the enabled relationships. -/
def preferredName (active : ActiveRelationship) : String :=
  (active.relationship.name.filter (· ≠ "")).getD (numberedName (active.position + 1))

namespace Names

/-- No names. -/
def none : Names :=
  ⟨[], [], []⟩

/-- The name of the node with an id. -/
def node? (names : Names) (id : String) : Option String :=
  (names.nodes.find? (·.1 = id)).map (·.2)

/-- The name of the relationship with an id. -/
def relationship? (names : Names) (id : String) : Option String :=
  (names.relationships.find? (·.1 = id)).map (·.2)

/-- Settles the name of a node, unless its id has one already. -/
def bindNode (probes : Nat) (names : Names) (node : Node) : Names :=
  match names.node? node.id with
  | some _ => names
  | Option.none =>
    let name := probe names.used probes node.name
    { names with nodes := (node.id, name) :: names.nodes, used := name :: names.used }

/-- Settles the name of the node with an id, if there is such a node. -/
def bindEnd (nodes : List Node) (probes : Nat) (names : Names) (id : String) : Names :=
  match lastNode? nodes id with
  | some node => names.bindNode probes node
  | Option.none => names

/-- The name that a relationship gets. -/
def relationshipName (used : List String) (active : ActiveRelationship) : String :=
  let preferred := preferredName active
  if preferred ∈ used then (freeName? used).getD preferred else preferred

/-- Settles the name of a relationship. -/
def bindRelationship (names : Names) (active : ActiveRelationship) : Names :=
  let name := relationshipName names.used active
  { names with
    relationships := (active.relationship.id, name) :: names.relationships
    used := name :: names.used }

/-- Settles the names of a relationship's ends and of the relationship. -/
def bindActive (nodes : List Node) (probes : Nat) (names : Names) (active : ActiveRelationship) :
    Names :=
  let names := names.bindEnd nodes probes active.relationship.source
  let names := names.bindEnd nodes probes active.relationship.target
  names.bindRelationship active

/-- Settles the names of all active relationships and all nodes. -/
def resolve (nodes : List Node) (active : List ActiveRelationship) (probes : Nat) : Names :=
  nodes.foldl (bindNode probes) (active.foldl (bindActive nodes probes) Names.none)

end Names

end GraphQuery
