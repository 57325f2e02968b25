import GraphQuery.Proofs.Snapshot

/-!
# Proofs — the names in scope

A match brings the names of its patterns into scope; a hand-off replaces the scope by the names
that it lists; no other clause changes it.  `scopeAfter scope q` is the scope behind the clauses
`q`, and `Everywhere P scope q` says that `P` holds of every clause of `q` in the scope that it
stands in.

`Snapshot.FindsNames` says what a clause has to find in scope: the names that it hands on, those
that it takes from filters on known nodes, the node whose properties it sets, and of the items
that it returns those that are owed a binding.
-/

namespace GraphQuery

/-- The names that a pattern binds. -/
def Pattern.names : Pattern → List String
  | .node p => [p.name]
  | .relationship p => [p.source.name, p.name, p.target.name]

/-- The scope behind a clause. -/
def Clause.scopeAfter (scope : List String) : Clause → List String
  | .mandatoryMatch patterns | .optionalMatch patterns => scope ++ patterns.flatMap Pattern.names
  | .handOff names _ => names
  | .filter _ | .assign _ _ | .project _ | .limit _ => scope

/-- The scope behind the clauses of a query. -/
def scopeAfter (scope : List String) (q : Query) : List String :=
  q.foldl Clause.scopeAfter scope

/-- Every clause of a query, in the scope that it stands in, has a property. -/
def Everywhere (P : List String → Clause → Prop) (scope : List String) : Query → Prop
  | [] => True
  | c :: q => P scope c ∧ Everywhere P (c.scopeAfter scope) q

@[simp]
theorem scopeAfter_nil (scope : List String) : scopeAfter scope [] = scope := rfl

@[simp]
theorem scopeAfter_cons (scope : List String) (c : Clause) (q : Query) :
    scopeAfter scope (c :: q) = scopeAfter (c.scopeAfter scope) q := rfl

/-- A part of a query starts from what the part before it has left in scope. -/
@[simp]
theorem scopeAfter_append (scope : List String) (p q : Query) :
    scopeAfter scope (p ++ q) = scopeAfter (scopeAfter scope p) q :=
  List.foldl_append

/-- A property of all clauses in their scopes is one of both parts, each in its scope. -/
theorem everywhere_append {P : List String → Clause → Prop} :
    ∀ {p q : Query} {scope : List String},
      Everywhere P scope (p ++ q) ↔ Everywhere P scope p ∧ Everywhere P (scopeAfter scope p) q
  | [], _, _ => (and_iff_right trivial).symm
  | c :: p, q, scope => by
      rw [List.cons_append, Everywhere, Everywhere, everywhere_append, scopeAfter_cons, and_assoc]

theorem everywhere_singleton {P : List String → Clause → Prop} {scope : List String}
    {c : Clause} : Everywhere P scope [c] ↔ P scope c :=
  and_iff_left trivial

/-- Clauses that have a property in any scope have it everywhere. -/
theorem everywhere_of_forall {P : List String → Clause → Prop} :
    ∀ {q : Query} {scope : List String}, (∀ c ∈ q, ∀ scope, P scope c) → Everywhere P scope q
  | [], _, _ => trivial
  | c :: _, scope, h =>
      ⟨h c (List.mem_cons_self ..) scope,
        everywhere_of_forall fun c' hc' => h c' (List.mem_cons_of_mem _ hc')⟩

namespace Snapshot

variable {s : Snapshot}

/-- What a clause needs is in scope. -/
def FindsNames (s : Snapshot) (owed : String → Prop) (scope : List String) : Clause → Prop
  | .handOff names _ => names ⊆ scope
  | .filter predicates => ∀ f ∈ s.diagram.filters, s.diagram.hasNode f.node →
      s.predicate f ∈ predicates → s.nodeName f.node ∈ scope
  | .assign name _ => name ∈ scope
  | .project items => ∀ x ∈ items, owed x → x ∈ scope
  | .mandatoryMatch _ | .optionalMatch _ | .limit _ => True

/-- An item that names a node: the node at a position, or without return fields a node that
relationships or filters refer to.  The fallback that is returned where there is neither does not
name a node of the diagram. -/
def NamesNode (s : Snapshot) (x : String) : Prop :=
  (∃ n, .node n ∈ s.diagram.returnItems ∧ x = s.nodeName n.id) ∨
    (s.diagram.returnItems = [] ∧ x ∈ s.referencedNames)

/-! ### The scope behind each part of a query -/

/-- Which labels are shown makes no difference to the names. -/
theorem flatMap_names_patternsAfter (s : Snapshot) :
    ∀ (rs : List Relationship) (seen : List String),
      ((s.patternsAfter seen rs).1.map Pattern.relationship).flatMap Pattern.names
        = rs.flatMap s.namesOf
  | [], _ => rfl
  | r :: rs, seen => by
      rw [patternsAfter, List.map_cons, List.flatMap_cons, List.flatMap_cons,
        flatMap_names_patternsAfter s rs]
      rfl

/-- A node is named whether its label is shown or not. -/
theorem flatMap_names_nodesAfter (s : Snapshot) :
    ∀ (ns : List Node) (seen : List String),
      ((s.nodesAfter seen ns).1.map Pattern.node).flatMap Pattern.names
        = ns.map fun n => s.nodeName n.id
  | [], _ => rfl
  | n :: ns, seen => by
      rw [nodesAfter, List.map_cons, List.flatMap_cons, List.map_cons,
        flatMap_names_nodesAfter s ns]
      rfl

/-- A match puts the names of its patterns into scope. -/
theorem scopeAfter_matchClause (scope : List String) (patterns : List Pattern) :
    scopeAfter scope (matchClause patterns) = scope ++ patterns.flatMap Pattern.names := by
  cases patterns with
  | nil => exact (List.append_nil _).symm
  | cons p ps => rfl

/-- Matches of one relationship each bind the names of all of them. -/
theorem scopeAfter_chained :
    ∀ (ps : List RelationshipPattern) (scope : List String),
      scopeAfter scope (ps.map fun p => .mandatoryMatch [.relationship p])
        = scope ++ (ps.map Pattern.relationship).flatMap Pattern.names
  | [], scope => (List.append_nil _).symm
  | p :: ps, scope => by
      rw [List.map_cons, scopeAfter_cons, scopeAfter_chained ps, List.map_cons, List.flatMap_cons,
        Clause.scopeAfter, List.append_assoc, List.flatMap_singleton]

/-- A hand-off of all names in scope loses none of them. -/
theorem mem_scopeAfter_optionalClauses {scope names : List String}
    (h : ∀ x, x ∈ names ↔ x ∈ scope) (ps : List RelationshipPattern) {x : String} :
    x ∈ scopeAfter scope (optionalClauses names ps)
      ↔ x ∈ scope ∨ x ∈ (ps.map Pattern.relationship).flatMap Pattern.names := by
  cases ps with
  | nil => simp [optionalClauses]
  | cons p ps =>
      cases names with
      | nil => simp [optionalClauses, handOffClause, Clause.scopeAfter]
      | cons name names => simp [optionalClauses, handOffClause, Clause.scopeAfter, ← h, or_assoc]

/-- Filters leave the scope as it is. -/
theorem scopeAfter_filterClause (s : Snapshot) (scope : List String) (fs : List PropertyFilter) :
    scopeAfter scope (s.filterClause fs) = scope := by
  cases fs <;> rfl

theorem scopeAfter_assignClause (scope : List String) (target : String)
    (values : List (String × Json.Value)) :
    scopeAfter scope (assignClause target values) = scope := by
  cases values <;> rfl

end Snapshot

end GraphQuery
