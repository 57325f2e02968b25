/-!
# Diagram — fresh ids

Nodes, relationships and conditions are numbered by one counter, so an id that was handed out is
never handed out again, whatever it was for.
-/

namespace GraphQuery

/-- What an id is for. -/
inductive EntityKind where
  /-- A node. -/
  | node
  /-- A relationship. -/
  | relationship
  /-- A condition. -/
  | condition
deriving DecidableEq, Repr

/-- The word that the ids of a kind start with. -/
def EntityKind.stem : EntityKind → String
  | .node => "node"
  | .relationship => "rel"
  | .condition => "cond"

/-- The id with a number. -/
def EntityKind.id (kind : EntityKind) (number : Nat) : String :=
  kind.stem ++ "-" ++ number.repr

/-- A source of fresh ids. -/
structure IdSequence where
  /-- The number of the id handed out last, zero at first. -/
  issued : Nat
deriving DecidableEq, Repr

namespace IdSequence

/-- The sequence that has handed out nothing. -/
def new : IdSequence :=
  ⟨0⟩

/-- The sequence that goes on after a number. -/
def startingAfter (last : Nat) : IdSequence :=
  ⟨last⟩

/-- Hands out an id. -/
def next (ids : IdSequence) (kind : EntityKind) : String × IdSequence :=
  (kind.id (ids.issued + 1), ⟨ids.issued + 1⟩)

end IdSequence

end GraphQuery
