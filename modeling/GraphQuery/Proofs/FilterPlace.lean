import GraphQuery.Proofs.Clauses

/-!
# Proofs — the clause that a filter clause belongs to

A filter clause restricts the clause directly before it: behind an optional match it decides what
the optional patterns match and drops no row.  `filterPlaces` lists the filter clauses of a query,
each with the clause directly before it.

**Where filters stand** (`filter_place`).  A query that limits rows and an update have all their
filters in one clause behind the match clauses.  It is directly behind an optional match exactly if
there are optional relationships and no chained ones.  A query that limits nodes has the filters on
the node that it counts directly behind the match of that node, and all others behind the last
match, which is an optional one exactly if there are optional relationships.

So filters on nodes that have to match do not always restrict the rows
(`filter_behind_optionalMatch`).
-/

namespace GraphQuery

/-- Whether a clause is an optional match. -/
def Clause.isOptional : Clause → Bool
  | .optionalMatch _ => true
  | _ => false

/-- The filter clauses of a query behind the clause `last`, each with the clause directly before
it. -/
def filterPlaces (last : Option Clause) : Query → List (Option Clause × List Predicate)
  | [] => []
  | .filter predicates :: q =>
    (last, predicates) :: filterPlaces (some (.filter predicates)) q
  | c :: q => filterPlaces (some c) q

theorem filterPlaces_cons {last : Option Clause} {c : Clause} {q : Query}
    (h : ∀ predicates, c ≠ .filter predicates) :
    filterPlaces last (c :: q) = filterPlaces (some c) q := by
  cases c with
  | filter predicates => exact absurd rfl (h predicates)
  | _ => rfl

/-- Clauses before the filter clauses have no place in the list but come before the first. -/
theorem filterPlaces_append {q : Query} :
    ∀ {p : Query} {last : Option Clause}, (∀ c ∈ p, ∀ predicates, c ≠ .filter predicates) →
      filterPlaces last (p ++ q) = filterPlaces (p.getLast?.or last) q
  | [], _, _ => rfl
  | c :: p, last, h => by
      rw [List.cons_append, filterPlaces_cons (h c (List.mem_cons_self ..)),
        filterPlaces_append fun c' hc' => h c' (List.mem_cons_of_mem _ hc')]
      cases p with
      | nil => rfl
      | cons c' p => rw [List.getLast?_cons_cons, List.getLast?_cons]; rfl

namespace Snapshot

variable {s : Snapshot}

/-- The place of the clause of these filters behind a clause; none if there are no filters. -/
def placed (s : Snapshot) (last : Option Clause) (fs : List PropertyFilter) :
    List (Option Clause × List Predicate) :=
  if fs = [] then [] else [(last, fs.map s.predicate)]

/-- A filter clause stands behind the last clause before it. -/
theorem filterPlaces_filterClause {last : Option Clause} {fs : List PropertyFilter} {q : Query} :
    filterPlaces last (s.filterClause fs ++ q)
      = s.placed last fs ++ filterPlaces ((s.filterClause fs).getLast?.or last) q := by
  cases fs <;> rfl

/-- Match clauses and hand-offs are no filters. -/
theorem Matches.ne_filter {c : Clause} (h : s.Matches c) (predicates : List Predicate) :
    c ≠ .filter predicates := by
  rintro rfl
  cases h

/-! ### The last match -/

/-- The first match is not optional. -/
theorem any_getLast?_matchClause (patterns : List Pattern) :
    (matchClause patterns).getLast?.any Clause.isOptional = false := by
  cases patterns <;> rfl

/-- The optional match comes last of its clauses. -/
theorem getLast?_optionalClauses (names : List String) {ps : List RelationshipPattern}
    (h : ps ≠ []) :
    (optionalClauses names ps).getLast? = some (.optionalMatch (ps.map .relationship)) := by
  cases ps with
  | nil => exact absurd rfl h
  | cons p ps => rw [optionalClauses, List.getLast?_concat]; rintro ⟨⟩

theorem patternsAfter_eq_nil {seen : List String} {rs : List Relationship} :
    (s.patternsAfter seen rs).1 = [] ↔ rs = [] := by
  cases rs <;> simp [patternsAfter]

/-- Where no relationship takes part, none joins. -/
theorem joining_eq_nil_of_isEmpty (h : s.active.isEmpty = true) (m : MatchType) :
    s.joining m = [] := by
  rw [joining, List.isEmpty_iff.mp h]
  rfl

/-- The match clauses end with an optional match if there are optional relationships and nothing
is chained to them. -/
theorem any_getLast?_matchClauses :
    s.matchClauses.getLast?.any Clause.isOptional = true ↔
      s.joining .optional ≠ [] ∧ s.joining .chained = [] := by
  rw [matchClauses]
  split
  · rename_i hactive
    rw [joining_eq_nil_of_isEmpty hactive, standaloneMatch]
    split <;> simp [Clause.isOptional]
  · -- chained matches come last, and without them the optional match
    simp only [connectedMatch, List.getLast?_append, List.getLast?_map]
    cases hchained : s.joining .chained with
    | cons r rs => simp [patternsAfter, Clause.isOptional, List.getLast?_cons]
    | nil =>
        by_cases hoptional : s.joining .optional = []
        · simp [hoptional, patternsAfter, optionalClauses, any_getLast?_matchClause]
        · rw [getLast?_optionalClauses _ (mt patternsAfter_eq_nil.mp hoptional)]
          simp [hoptional, patternsAfter, Clause.isOptional]

/-! ### The places in each shape -/

theorem filterPlaces_eq_nil {last : Option Clause} {q : Query}
    (h : ∀ c ∈ q, ∀ predicates, c ≠ .filter predicates) : filterPlaces last q = [] := by
  rw [← List.append_nil q, filterPlaces_append h]
  rfl

/-- Behind the match clauses there is one place for all filters. -/
theorem filterPlaces_matchClauses (hs : s.EndsDrawn) {fs : List PropertyFilter} {rest : Query}
    (h : ∀ c ∈ rest, ∀ predicates, c ≠ .filter predicates) :
    filterPlaces none (s.matchClauses ++ (s.filterClause fs ++ rest))
      = s.placed s.matchClauses.getLast? fs := by
  rw [filterPlaces_append fun _ hc => (matches_matchClauses hs hc).ne_filter,
    filterPlaces_filterClause, filterPlaces_eq_nil h, List.append_nil, Option.or_none]

/-- In a query that limits rows the filters stand behind the match clauses. -/
theorem filterPlaces_rowsQuery (hs : s.EndsDrawn) (limit : Option String) :
    filterPlaces none (s.rowsQuery limit) = s.placed s.matchClauses.getLast? s.diagram.filters := by
  rw [rowsQuery, List.append_assoc, List.append_assoc, filterPlaces_matchClauses hs]
  intro c hc predicates
  rintro rfl
  simp at hc

theorem filterPlaces_updateQuery (hs : s.EndsDrawn) (target : String)
    (values : List (String × Json.Value)) :
    filterPlaces none (s.updateQuery target values)
      = s.placed s.matchClauses.getLast? s.diagram.filters := by
  rw [updateQuery, List.append_assoc, List.append_assoc, filterPlaces_matchClauses hs]
  intro c hc predicates
  rintro rfl
  cases values <;> simp [assignClause] at hc

/-- Behind the hand-off optional matches come last. -/
theorem any_getLast?_expansion (primary : Node) {first : Clause}
    (hfirst : first.isOptional = false) :
    (first :: s.expansion primary).getLast?.any Clause.isOptional = true ↔
      s.joining .optional ≠ [] := by
  rw [expansion, List.getLast?_cons, List.getLast?_append, List.getLast?_map]
  cases hoptional : s.joining .optional with
  | cons r rs => simp [Clause.isOptional, List.getLast?_cons]
  | nil =>
      cases hchained : s.joining .chained with
      | cons r rs => simp [Clause.isOptional, List.getLast?_cons]
      | nil =>
          cases s.joining .leading with
          | cons r rs => simp [Clause.isOptional, matchClause]
          | nil => simp [matchClause, hfirst]

/-- In a query that limits nodes the filters of the primary node stand behind its match, and the
others behind the relationships. -/
theorem filterPlaces_nodesQuery (hs : s.EndsDrawn) (primary : Node) (limit : String) :
    filterPlaces none (s.nodesQuery primary limit)
      = s.placed (some (s.primaryMatch primary)) (s.diagram.filters.filter (·.node = primary.id))
        ++ s.placed
          (.handOff [s.nodeName primary.id] (some limit) :: s.expansion primary).getLast?
          (s.diagram.filters.filter (·.node ≠ primary.id)) := by
  have hlast : ∃ c, (.handOff [s.nodeName primary.id] (some limit) :: s.expansion primary).getLast?
      = some c := by
    rw [List.getLast?_cons]
    exact ⟨_, rfl⟩
  obtain ⟨c, hc⟩ := hlast
  have hexpansion : ∀ c' ∈ .handOff [s.nodeName primary.id] (some limit) :: s.expansion primary,
      ∀ predicates, c' ≠ .filter predicates := by
    intro c' hc' predicates
    rcases List.mem_cons.mp hc' with rfl | hc'
    · rintro ⟨⟩
    · exact (matches_expansion hs hc').ne_filter predicates
  rw [nodesQuery_eq, filterPlaces_cons (fun _ h => by cases h), filterPlaces_filterClause,
    filterPlaces_append hexpansion, filterPlaces_filterClause, hc, filterPlaces_eq_nil,
    List.append_nil, Option.some_or]
  intro c' hc' predicates
  rintro rfl
  simp at hc'

end Snapshot

/-- **Where filters stand.**  In a query that limits rows and in an update there is one clause for
all filters, directly behind an optional match exactly if there are optional relationships and no
chained ones.  In a query that limits nodes the filters on the node that it counts stand directly
behind the match of that node, and there is one clause for all others, directly behind an optional
match exactly if there are optional relationships. -/
theorem filter_place (settings : Settings) (d : Diagram) :
    (∀ q, (∃ limit, (d.snapshot settings).limitShape = .rows limit ∧ q = compileQuery settings d) ∨
        (∃ target updates, compileUpdateQuery settings d target updates = .ok q) →
      ∃ last, filterPlaces none q = (d.snapshot settings).placed last d.filters ∧
        (last.any Clause.isOptional = true ↔
          (d.snapshot settings).joining .optional ≠ [] ∧
            (d.snapshot settings).joining .chained = [])) ∧
    ∀ primary limit, (d.snapshot settings).limitShape = .nodes primary limit →
      ∃ last, filterPlaces none (compileQuery settings d)
          = (d.snapshot settings).placed
              (some (.mandatoryMatch [.node
                ⟨some primary.id, (d.snapshot settings).nodeName primary.id, primary.label⟩]))
              (d.filters.filter (·.node = primary.id))
            ++ (d.snapshot settings).placed last (d.filters.filter (·.node ≠ primary.id)) ∧
        (last.any Clause.isOptional = true ↔ (d.snapshot settings).joining .optional ≠ []) := by
  have hs : (d.snapshot settings).EndsDrawn := Snapshot.endsDrawn settings d
  refine ⟨fun q hq => ⟨(d.snapshot settings).matchClauses.getLast?, ?_,
    Snapshot.any_getLast?_matchClauses⟩, fun primary limit hshape =>
    ⟨(.handOff [(d.snapshot settings).nodeName primary.id] (some limit) ::
      (d.snapshot settings).expansion primary).getLast?, ?_,
      Snapshot.any_getLast?_expansion primary rfl⟩⟩
  · rcases hq with ⟨limit, hshape, rfl⟩ | ⟨target, updates, hq⟩
    · rw [compileQuery, Snapshot.readQuery, hshape]
      exact Snapshot.filterPlaces_rowsQuery hs limit
    · obtain ⟨-, values, -, rfl⟩ := compileUpdateQuery_eq_ok.mp hq
      exact Snapshot.filterPlaces_updateQuery hs target values
  · rw [compileQuery, Snapshot.readQuery, hshape]
    exact Snapshot.filterPlaces_nodesQuery hs primary limit

/-! ### Filters that restrict an optional match only -/

/-- Two nodes, a leading relationship from the first to the second, and back again an optional
one.  The filter is on the node with the given id. -/
def roundTrip (id limit : String) (mode : LimitMode) : Diagram where
  nodes := [⟨"1", some "Person", "p"⟩, ⟨"2", none, "c"⟩]
  relationships := [.ofEnds "x" "1" "2" none, .ofEnds "y" "2" "1" none]
  conditions := [.ofFilter "k" ⟨id, "age", ">", "5"⟩]
  returnFields := []
  limit := limit
  limitMode := mode

/-- The filter of `roundTrip` as it is written. -/
def olderThanFive (name : String) : Predicate :=
  .compare name "age" ">" "5"

/-- **Filters on nodes that have to match do not always restrict the rows.**  The leading match of
`roundTrip` binds both its nodes; still its only filter stands directly behind the optional match,
when it is read, when it is updated, and on the second node also when the nodes are limited. -/
theorem filter_behind_optionalMatch :
    (∃ label relationship optional,
      compileQuery .default (roundTrip "1" "" .rows) =
        [.mandatoryMatch [.relationship
          ⟨relationship, "r1", ⟨some "1", "p", label⟩, ⟨some "2", "c", none⟩⟩],
        .handOff ["p", "r1", "c"] none, .optionalMatch [optional],
        .filter [olderThanFive "p"], .project ["p", "c"]] ∧
      filterPlaces none (compileQuery .default (roundTrip "1" "" .rows)) =
        [(some (.optionalMatch [optional]), [olderThanFive "p"])]) ∧
    (∃ q optional,
      compileUpdateQuery .default (roundTrip "1" "" .rows) "p" [("seen", .ok (.bool true))]
        = .ok q ∧
      filterPlaces none q = [(some (.optionalMatch [optional]), [olderThanFive "p"])]) ∧
    ∃ optional,
      filterPlaces none (compileQuery .default (roundTrip "2" "3" .nodes)) =
        [(some (.optionalMatch [optional]), [olderThanFive "c"])] :=
  ⟨⟨_, _, _, rfl, rfl⟩, ⟨_, _, rfl, rfl⟩, _, rfl⟩

end GraphQuery
