import GraphQuery.Compile.Snapshot

/-!
# Compile — patterns

The match clauses of a query that limits rows.  The leading relationships and the nodes that no
leading or chained relationship touches stand in the first match.  If there are optional
relationships, the names bound so far are handed on to an optional match of all of them.  Every
chained relationship follows in a match of its own.  A node shows its label the first time that it
is written.
-/

namespace GraphQuery

/-- The texts of a list without repetitions, each where it came first. -/
def distinct : List String → List String
  | [] => []
  | x :: xs => x :: (distinct xs).filter (· ≠ x)

/-- No text gets lost and none is added. -/
@[simp]
theorem mem_distinct {x : String} {xs : List String} : x ∈ distinct xs ↔ x ∈ xs := by
  induction xs with
  | nil => rfl
  | cons y ys ih => by_cases h : x = y <;> simp [distinct, h, ih]

/-- No text is there twice. -/
theorem nodup_distinct (xs : List String) : (distinct xs).Nodup := by
  induction xs with
  | nil => exact .nil
  | cons y ys ih => exact List.nodup_cons.2 ⟨by simp, ih.sublist List.filter_sublist⟩

namespace Snapshot

/-- The pattern of the node with an id, with its label or without. -/
def nodePattern (s : Snapshot) (showLabel : Bool) (id : String) : NodePattern :=
  ⟨some id, s.nodeName id, if showLabel then (s.node? id).bind (·.label) else none⟩

/-- The pattern of a relationship, each of its nodes with its label or without. -/
def relationshipPattern (s : Snapshot) (r : Relationship) (showSource showTarget : Bool) :
    RelationshipPattern :=
  ⟨r, s.relationshipName r, s.nodePattern showSource r.source, s.nodePattern showTarget r.target⟩

/-- The patterns of relationships after the nodes in `seen` have been written, and the nodes
written by their end. -/
def patternsAfter (s : Snapshot) (seen : List String) :
    List Relationship → List RelationshipPattern × List String
  | [] => ([], seen)
  | r :: rs =>
    let here := s.relationshipPattern r (r.source ∉ seen) (r.target ∉ r.source :: seen)
    let (rest, seen) := s.patternsAfter (r.target :: r.source :: seen) rs
    (here :: rest, seen)

/-- The patterns of single nodes after the nodes in `seen` have been written, and the nodes
written by their end. -/
def nodesAfter (s : Snapshot) (seen : List String) : List Node → List NodePattern × List String
  | [] => ([], seen)
  | n :: ns =>
    let (rest, after) := s.nodesAfter (n.id :: seen) ns
    (s.nodePattern (n.id ∉ seen) n.id :: rest, after)

/-- The nodes that no leading or chained relationship touches. -/
def looseNodes (s : Snapshot) : List Node :=
  s.diagram.nodes.filter fun n => !s.isMatched n.id

/-- A match of every node on its own, or of the fallback name if there is no node. -/
def standaloneMatch (s : Snapshot) : Clause :=
  match s.diagram.nodes with
  | [] => .mandatoryMatch [.node ⟨none, s.settings.fallback, none⟩]
  | nodes => .mandatoryMatch ((s.nodesAfter [] nodes).1.map .node)

/-- The match of the given patterns; none if there are no patterns. -/
def matchClause : List Pattern → List Clause
  | [] => []
  | patterns => [.mandatoryMatch patterns]

/-- The names that the first match binds, in order. -/
def leadingNames (s : Snapshot) : List String :=
  distinct ((s.joining .leading).flatMap (fun r =>
      [s.nodeName r.source, s.relationshipName r, s.nodeName r.target])
    ++ s.looseNodes.map fun n => s.nodeName n.id)

/-- The clause that hands names on; none if there are no names. -/
def handOffClause : List String → List Clause
  | [] => []
  | names => [.handOff names none]

/-- The optional match of the given patterns behind a hand-off of names; nothing if there are no
patterns. -/
def optionalClauses (names : List String) : List RelationshipPattern → List Clause
  | [] => []
  | patterns => handOffClause names ++ [.optionalMatch (patterns.map .relationship)]

/-- The match clauses of a query with relationships. -/
def connectedMatch (s : Snapshot) : List Clause :=
  let (leading, seen) := s.patternsAfter [] (s.joining .leading)
  let (loose, seen) := s.nodesAfter seen s.looseNodes
  let (optional, seen) := s.patternsAfter seen (s.joining .optional)
  let (chained, _) := s.patternsAfter seen (s.joining .chained)
  matchClause (leading.map .relationship ++ loose.map .node)
    ++ optionalClauses s.leadingNames optional
    ++ chained.map fun p => .mandatoryMatch [.relationship p]

/-- The match clauses of a query that limits rows. -/
def matchClauses (s : Snapshot) : List Clause :=
  if s.active.isEmpty then [s.standaloneMatch] else s.connectedMatch

end Snapshot

end GraphQuery
