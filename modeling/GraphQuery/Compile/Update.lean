import GraphQuery.Compile.Read
import GraphQuery.Text.Remark

/-!
# Compile — queries that set properties

An update matches like a query that limits rows, sets properties of one node and returns it.  The
node has to be one that the query binds, and every value has to have a literal.
-/

namespace GraphQuery

/-- A value to set, or why there is none. -/
abbrev NewValue := Except Text.Remark Json.Value

/-- Why an update has no query. -/
inductive CompileError where
  /-- No node has the name. -/
  | targetNotBound (name : String) (available : List String)
  /-- A value cannot be written. -/
  | unserializable (property reason : String)
deriving DecidableEq, Repr

/-- What is wrong, in words. -/
def CompileError.message : CompileError → String
  | .targetNotBound name available =>
    "Alias '" ++ name ++ "' is not bound by the query (available: "
      ++ ", ".intercalate available ++ ")"
  | .unserializable property reason =>
    "Value for property '" ++ property ++ "' cannot be serialized: " ++ reason

/-- The values to set, or the first one that there is none for. -/
def collectValues : List (String × NewValue) → Except CompileError (List (String × Json.Value))
  | [] => .ok []
  | (property, .ok value) :: rest => (collectValues rest).map ((property, value) :: ·)
  | (property, .error remark) :: _ =>
    .error (.unserializable property (String.ofList remark.write))

/-- The clause that sets values; none if there are no values. -/
def assignClause (target : String) : List (String × Json.Value) → List Clause
  | [] => []
  | values => [.assign target (values.map fun (property, v) => (property, .ofValue v))]

/-- The clauses of an update. -/
def Snapshot.updateQuery (s : Snapshot) (target : String) (values : List (String × Json.Value)) :
    Query :=
  s.matchClauses ++ s.filterClause s.diagram.filters ++ assignClause target values
    ++ [.project [target]]

/-- The query that sets properties of the node with a name. -/
def compileUpdateQuery (settings : Settings) (d : Diagram) (target : String)
    (updates : List (String × NewValue)) : Except CompileError Query :=
  let s := d.snapshot settings
  if target ∈ s.nodeNames then
    (collectValues updates).map (s.updateQuery target)
  else .error (.targetNotBound target s.nodeNames)

/-- The text of the query that sets properties of the node with a name. -/
def compileUpdate (settings : Settings) (d : Diagram) (target : String)
    (updates : List (String × NewValue)) : Except CompileError String :=
  (compileUpdateQuery settings d target updates).map (Query.toText settings.layout)

end GraphQuery
