import GraphQuery.Diagram.Position
import GraphQuery.Diagram.IdSequence

/-!
# Diagram — editing

The gestures that change a diagram.  Each keeps the references inside the diagram consistent:
with a node go its relationships, its conditions and the return fields at its position, and the
other positional return fields move along with their nodes.

An operation on something that is not there yields nothing.  `Session.apply` runs an `Edit` on a
diagram together with its source of ids, and leaves both as they were when the edit is refused.
-/

namespace GraphQuery

namespace Diagram

/-- A return field after the node at `removed` is gone from among `count` nodes.  A field below
that position, or one that is no position, stays as it is written. -/
def fieldAfterRemoval (count removed : Nat) (field : String) : Option String :=
  match position? field count with
  | some position =>
    if position = removed then none
    else if removed < position then some (positionField (position - 1))
    else some field
  | none => some field

/-- Removes the first node with an id, and everything that refers to the id. -/
def removeNode? (d : Diagram) (id : String) : Option Diagram :=
  (d.nodeIndex? id).map fun index =>
    { d with
      nodes := d.nodes.eraseIdx index
      relationships := d.relationships.filter fun r => r.source ≠ id ∧ r.target ≠ id
      conditions := d.conditions.filter fun c => c.node ≠ some id
      returnFields := d.returnFields.filterMap (fieldAfterRemoval d.nodes.length index) }

/-- A removal takes the node at the first position with the id. -/
theorem removeNode?_eq_some {d d' : Diagram} {id : String} (h : d.removeNode? id = some d') :
    ∃ index n, d.nodeIndex? id = some index ∧ d.nodes[index]? = some n ∧ n.id = id ∧
      d' = { d with
        nodes := d.nodes.eraseIdx index
        relationships := d.relationships.filter fun r => r.source ≠ id ∧ r.target ≠ id
        conditions := d.conditions.filter fun c => c.node ≠ some id
        returnFields := d.returnFields.filterMap (fieldAfterRemoval d.nodes.length index) } := by
  obtain ⟨index, hindex, hd'⟩ := Option.map_eq_some_iff.mp h
  obtain ⟨hlt, hid, -⟩ := List.findIdx?_eq_some_iff_getElem.mp hindex
  exact ⟨index, d.nodes[index], hindex, List.getElem?_eq_getElem hlt, of_decide_eq_true hid,
    hd'.symm⟩

/-- Where the item at `position` is after the item at `source` has moved to `target`. -/
def positionAfterMove (source target position : Nat) : Nat :=
  if position = source then target
  else if source < position ∧ position ≤ target then position - 1
  else if target ≤ position ∧ position < source then position + 1
  else position

/-- A return field after the node at `source` among `count` nodes has moved to `target`. -/
def fieldAfterMove (count source target : Nat) (field : String) : String :=
  match position? field count with
  | some position => positionField (positionAfterMove source target position)
  | none => field

/-- Moves the node at one position to another. -/
def moveNode? (d : Diagram) (source target : Nat) : Option Diagram :=
  if target < d.nodes.length then
    d.nodes[source]?.map fun node =>
      if source = target then d
      else
        { d with
          nodes := (d.nodes.eraseIdx source).insertIdx target node
          returnFields := d.returnFields.map (fieldAfterMove d.nodes.length source target) }
  else none

/-- A move is between positions of nodes, and a move to the same place changes nothing. -/
theorem moveNode?_eq_some {d d' : Diagram} {source target : Nat}
    (h : d.moveNode? source target = some d') :
    ∃ n, d.nodes[source]? = some n ∧ target < d.nodes.length ∧
      d' = if source = target then d else
        { d with
          nodes := (d.nodes.eraseIdx source).insertIdx target n
          returnFields := d.returnFields.map (fieldAfterMove d.nodes.length source target) } := by
  rw [moveNode?] at h
  split at h
  · rename_i htarget
    obtain ⟨n, hn, hd'⟩ := Option.map_eq_some_iff.mp h
    exact ⟨n, hn, htarget, hd'.symm⟩
  · cases h

/-- Draws a node. -/
def addNode (d : Diagram) (node : Node) : Diagram :=
  { d with nodes := d.nodes ++ [node] }

/-- Draws a relationship between two nodes that are there. -/
def addRelationship? (d : Diagram) (r : Relationship) : Option Diagram :=
  if (d.node? r.source).isSome ∧ (d.node? r.target).isSome then
    some { d with relationships := d.relationships ++ [r] }
  else none

/-- Removes the relationships with an id. -/
def removeRelationship? (d : Diagram) (id : String) : Option Diagram :=
  if d.relationships.any (·.id = id) then
    some { d with relationships := d.relationships.filter (·.id ≠ id) }
  else none

/-- Changes the first item that satisfies `p`, if any does. -/
def changeFirst? {α : Type} (p : α → Bool) (f : α → α) : List α → Option (List α)
  | [] => none
  | a :: as => if p a then some (f a :: as) else (changeFirst? p f as).map (a :: ·)

/-- An item is changed exactly when one satisfies `p`. -/
theorem isSome_changeFirst? {α : Type} (p : α → Bool) (f : α → α) (as : List α) :
    (changeFirst? p f as).isSome = as.any p := by
  induction as with
  | nil => rfl
  | cons a as ih => by_cases h : p a = true <;> simp [changeFirst?, h, ih]

/-- Changes the first relationship with an id. -/
def changeRelationship? (d : Diagram) (id : String) (f : Relationship → Relationship) :
    Option Diagram :=
  (changeFirst? (·.id = id) f d.relationships).map fun rs => { d with relationships := rs }

/-- Takes a relationship into the query or out of it. -/
def setEnabled? (d : Diagram) (id : String) (enabled : Bool) : Option Diagram :=
  d.changeRelationship? id fun r => { r with enabled }

/-- Settles how a relationship joins the query, or leaves that to its position. -/
def setMatchType? (d : Diagram) (id : String) (matchType : Option MatchType) : Option Diagram :=
  d.changeRelationship? id fun r => { r with matchType }

/-- Adds a condition. -/
def addCondition (d : Diagram) (c : Condition) : Diagram :=
  { d with conditions := d.conditions ++ [c] }

/-- Removes the conditions with an id. -/
def removeCondition? (d : Diagram) (id : String) : Option Diagram :=
  if d.conditions.any (·.id = id) then
    some { d with conditions := d.conditions.filter (·.id ≠ id) }
  else none

end Diagram

/-- A gesture that changes a diagram. -/
inductive Edit where
  /-- Draw a node. -/
  | addNode (label : Option String) (name : String)
  /-- Remove the first node with an id. -/
  | removeNode (id : String)
  /-- Move the node at one position to another. -/
  | moveNode (source target : Nat)
  /-- Draw a relationship between two nodes. -/
  | addRelationship (source target : String) (type : Option String)
  /-- Remove the relationships with an id. -/
  | removeRelationship (id : String)
  /-- Take a relationship into the query or out of it. -/
  | setEnabled (id : String) (enabled : Bool)
  /-- Settle how a relationship joins the query. -/
  | setMatchType (id : String) (matchType : Option MatchType)
  /-- Add a condition on a property. -/
  | addCondition (filter : PropertyFilter)
  /-- Remove the conditions with an id. -/
  | removeCondition (id : String)
  /-- Replace the fields to return. -/
  | setReturnFields (fields : List String)
  /-- Replace the limit. -/
  | setLimit (limit : String)
  /-- Replace what the limit counts. -/
  | setLimitMode (mode : LimitMode)
deriving DecidableEq, Repr

/-- What an edit answers. -/
inductive Reply where
  /-- The id of what was added, or nothing if it was refused. -/
  | added (id : Option String)
  /-- Whether the edit was carried out. -/
  | changed (done : Bool)
  /-- The edit cannot be refused. -/
  | set
deriving DecidableEq, Repr

/-- A diagram being edited, with its source of ids. -/
structure Session where
  /-- The diagram. -/
  diagram : Diagram
  /-- The ids for what is added. -/
  ids : IdSequence
deriving DecidableEq, Repr

namespace Session

/-- The session after an edit that may have been refused. -/
def change (s : Session) : Option Diagram → Reply × Session
  | some diagram => (.changed true, { s with diagram })
  | none => (.changed false, s)

/-- Carries out an edit, or leaves the session as it is when the edit is refused. -/
def apply (s : Session) : Edit → Reply × Session
  | .addNode label name =>
    let (id, ids) := s.ids.next .node
    (.added (some id), ⟨s.diagram.addNode ⟨id, label, name⟩, ids⟩)
  | .removeNode id => s.change (s.diagram.removeNode? id)
  | .moveNode source target => s.change (s.diagram.moveNode? source target)
  | .addRelationship source target type =>
    let (id, ids) := s.ids.next .relationship
    match s.diagram.addRelationship? (.ofEnds id source target type) with
    | some diagram => (.added (some id), ⟨diagram, ids⟩)
    | none => (.added none, s)
  | .removeRelationship id => s.change (s.diagram.removeRelationship? id)
  | .setEnabled id enabled => s.change (s.diagram.setEnabled? id enabled)
  | .setMatchType id matchType => s.change (s.diagram.setMatchType? id matchType)
  | .addCondition filter =>
    let (id, ids) := s.ids.next .condition
    (.added (some id), ⟨s.diagram.addCondition (.ofFilter id filter), ids⟩)
  | .removeCondition id => s.change (s.diagram.removeCondition? id)
  | .setReturnFields fields => (.set, { s with diagram.returnFields := fields })
  | .setLimit limit => (.set, { s with diagram.limit := limit })
  | .setLimitMode mode => (.set, { s with diagram.limitMode := mode })

end Session

end GraphQuery
