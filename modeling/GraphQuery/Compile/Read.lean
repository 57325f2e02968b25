import GraphQuery.Compile.Predicates
import GraphQuery.Compile.Projection

/-!
# Compile — queries that read

A limit counts rows or nodes.  A limit on rows ends the query.  A limit on nodes comes first: one
node is matched and limited, and the relationships are matched from there.  That takes a limit and
a relationship; without either, rows are counted.
-/

namespace GraphQuery

/-- What the limit of a query counts. -/
inductive LimitShape where
  /-- Rows, if there is a limit. -/
  | rows (limit : Option String)
  /-- The matches of one node. -/
  | nodes (primary : Node) (limit : String)
deriving DecidableEq, Repr

namespace Snapshot

/-- The limit without the blanks around it, if anything is left. -/
def limit? (s : Snapshot) : Option String :=
  (some (Text.trim s.diagram.limit)).filter (· ≠ "")

/-- The node that a limit on nodes counts: the start of the first leading relationship, or else
the first node. -/
def primary? (s : Snapshot) : Option Node :=
  ((s.joining .leading).head?.bind fun r => s.node? r.source).or s.diagram.nodes.head?

/-- What the limit counts. -/
def limitShape (s : Snapshot) : LimitShape :=
  match s.diagram.limitMode, s.limit? with
  | .nodes, some limit =>
    if s.active.isEmpty then .rows (some limit)
    else match s.primary? with
      | some primary => .nodes primary limit
      | none => .rows (some limit)
  | _, limit => .rows limit

/-- The clauses of a query that limits rows. -/
def rowsQuery (s : Snapshot) (limit : Option String) : Query :=
  s.matchClauses ++ s.filterClause s.diagram.filters
    ++ [.project (s.returnedItems s.settings.fallback)]
    ++ (limit.map Clause.limit).toList

/-- The pattern of a relationship where every node but one shows its label. -/
def patternExcept (s : Snapshot) (id : String) (r : Relationship) : Pattern :=
  .relationship (s.relationshipPattern r (r.source ≠ id) (r.target ≠ id))

/-- The clauses of a query that limits nodes. -/
def nodesQuery (s : Snapshot) (primary : Node) (limit : String) : Query :=
  let name := s.nodeName primary.id
  let (own, others) := s.diagram.filters.partition (·.node = primary.id)
  [.mandatoryMatch [.node ⟨some primary.id, name, primary.label⟩]]
    ++ s.filterClause own
    ++ [.handOff [name] (some limit)]
    ++ matchClause ((s.joining .leading).map (s.patternExcept primary.id))
    ++ (s.joining .chained).map (fun r => .mandatoryMatch [s.patternExcept primary.id r])
    ++ (s.joining .optional).map (fun r => .optionalMatch [s.patternExcept primary.id r])
    ++ s.filterClause others
    ++ [.project (s.returnedItems name)]

/-- The clauses of the query that a diagram stands for. -/
def readQuery (s : Snapshot) : Query :=
  match s.limitShape with
  | .rows limit => s.rowsQuery limit
  | .nodes primary limit => s.nodesQuery primary limit

end Snapshot

/-- The query that a diagram stands for. -/
def compileQuery (settings : Settings) (d : Diagram) : Query :=
  (d.snapshot settings).readQuery

/-- The text of the query that a diagram stands for. -/
def compile (settings : Settings) (d : Diagram) : String :=
  (compileQuery settings d).toText settings.layout

end GraphQuery
