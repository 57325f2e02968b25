import GraphQuery.Compile.Names
import GraphQuery.Settings.Basic

/-!
# Compile — a diagram ready to be compiled

A `Snapshot` is a diagram with the settings, the relationships that take part in the query and the
names of everything.  A relationship takes part if it is enabled and both its ends are nodes of
the diagram; its place is counted among all enabled ones.
-/

namespace GraphQuery

/-- How a relationship at a place among the enabled ones joins the query: as it says, or else
leading at the first place and optional at every other. -/
def effectiveMatchType (r : Relationship) (position : Nat) : MatchType :=
  r.matchType.getD (if position = 0 then .leading else .optional)

/-- How an active relationship joins the query. -/
def ActiveRelationship.matchType (a : ActiveRelationship) : MatchType :=
  effectiveMatchType a.relationship a.position

/-- Whether an id is one of a node of the diagram. -/
def Diagram.hasNode (d : Diagram) (id : String) : Bool :=
  d.nodes.any (·.id = id)

/-- The relationships that take part in the query, in order. -/
def Diagram.activeRelationships (d : Diagram) : List ActiveRelationship :=
  (((d.relationships.filter (·.enabled)).zipIdx).map fun (r, i) => ⟨i, r⟩).filter fun a =>
    d.hasNode a.relationship.source && d.hasNode a.relationship.target

/-- The filters that the conditions of the diagram ask for, in order. -/
def Diagram.filters (d : Diagram) : List PropertyFilter :=
  d.conditions.filterMap Condition.filter?

/-- A diagram ready to be compiled. -/
structure Snapshot where
  /-- The diagram. -/
  diagram : Diagram
  /-- The settings. -/
  settings : Settings
  /-- The relationships that take part. -/
  active : List ActiveRelationship
  /-- The names of everything. -/
  names : Names
deriving DecidableEq, Repr

/-- A diagram made ready. -/
def Diagram.snapshot (d : Diagram) (settings : Settings) : Snapshot :=
  ⟨d, settings, d.activeRelationships,
    Names.resolve d.nodes d.activeRelationships settings.maxProbes⟩

namespace Snapshot

/-- The node with an id. -/
def node? (s : Snapshot) (id : String) : Option Node :=
  lastNode? s.diagram.nodes id

/-- The name of the node with an id; the fallback name for an id without a node. -/
def nodeName (s : Snapshot) (id : String) : String :=
  (s.names.node? id).getD s.settings.fallback

/-- The name of a relationship. -/
def relationshipName (s : Snapshot) (r : Relationship) : String :=
  (s.names.relationship? r.id).getD r.id

/-- The names of all nodes in order. -/
def nodeNames (s : Snapshot) : List String :=
  s.diagram.nodes.map fun n => s.nodeName n.id

/-- The active relationships that join the query in a given way, in order. -/
def joining (s : Snapshot) (m : MatchType) : List Relationship :=
  (s.active.filter (·.matchType = m)).map (·.relationship)

/-- Whether an end of some leading or chained relationship has the id. -/
def isMatched (s : Snapshot) (id : String) : Bool :=
  (s.joining .leading ++ s.joining .chained).any fun r => r.source = id || r.target = id

end Snapshot

end GraphQuery
