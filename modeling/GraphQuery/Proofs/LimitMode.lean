import Mathlib.Data.List.Perm.Basic
import GraphQuery.Proofs.Clauses

/-!
# Proofs — what a limit counts

A diagram with a limit and an active relationship stands for two queries, one that limits rows and
one that limits nodes.  They are put together by different rules, but

* both match every active relationship once, with the same names and the same ends
  (`rowsQuery_parts`, `nodesQuery_parts`), because the three ways of joining a query share out the
  active relationships (`perm_joining`);
* both compare the same, the one that limits nodes in two clauses (`perm_filters_of_node`);
* both return the same, because an active relationship always refers to names, so that the name to
  fall back on does not matter (`returnedItems_eq_of_active`).

**What the limit counts only moves the limit** (`limit_mode_moves_limit`).
-/

namespace GraphQuery

/-! ### Parts of a query -/

/-- The pattern of a relationship, if it is one. -/
def Pattern.relationship? : Pattern → Option RelationshipPattern
  | .node _ => none
  | .relationship p => some p

/-- The pattern with the labels of its nodes erased. -/
def RelationshipPattern.unlabelled (p : RelationshipPattern) : RelationshipPattern :=
  { p with source.label := none, target.label := none }

namespace Clause

/-- The relationships that a clause matches, in order and without the labels of their nodes. -/
def relationships : Clause → List RelationshipPattern
  | .mandatoryMatch patterns | .optionalMatch patterns =>
    (patterns.filterMap Pattern.relationship?).map RelationshipPattern.unlabelled
  | _ => []

/-- The predicates of a filter clause. -/
def predicates? : Clause → Option (List Predicate)
  | .filter predicates => some predicates
  | _ => none

/-- The items of a clause that returns items. -/
def items? : Clause → Option (List String)
  | .project items => some items
  | _ => none

/-- Whether a clause limits anything. -/
def isLimiting : Clause → Bool
  | .handOff _ rows => rows.isSome
  | .limit _ => true
  | _ => false

end Clause

namespace Query

/-- The relationships that a query matches, in order and without the labels of their nodes. -/
def relationships (q : Query) : List RelationshipPattern :=
  q.flatMap Clause.relationships

/-- The predicates of each filter clause of a query. -/
def filters (q : Query) : List (List Predicate) :=
  q.filterMap Clause.predicates?

/-- The items of each clause of a query that returns items. -/
def projections (q : Query) : List (List String) :=
  q.filterMap Clause.items?

/-- The clauses of a query that limit anything. -/
def limits (q : Query) : Query :=
  q.filter Clause.isLimiting

variable (p q : Query)

@[simp]
theorem relationships_append :
    Query.relationships (p ++ q) = Query.relationships p ++ Query.relationships q :=
  List.flatMap_append

@[simp]
theorem filters_append : Query.filters (p ++ q) = Query.filters p ++ Query.filters q :=
  List.filterMap_append

@[simp]
theorem projections_append :
    Query.projections (p ++ q) = Query.projections p ++ Query.projections q :=
  List.filterMap_append

@[simp]
theorem limits_append : Query.limits (p ++ q) = Query.limits p ++ Query.limits q :=
  List.filter_append ..

end Query

/-- The diagram with a limit that counts something else. -/
def Diagram.counting (d : Diagram) (mode : LimitMode) : Diagram :=
  { d with limitMode := mode }

namespace Snapshot

variable {s : Snapshot}

/-- The pattern of a relationship between its ends, without labels. -/
def edge (s : Snapshot) (r : Relationship) : RelationshipPattern :=
  s.relationshipPattern r false false

/-! ### Relationships -/

/-- The ways of joining a query share out the active relationships. -/
theorem perm_joining (s : Snapshot) :
    List.Perm (s.joining .leading ++ (s.joining .chained ++ s.joining .optional))
      (s.active.map (·.relationship)) := by
  simp only [joining, ← List.map_append]
  refine List.Perm.map _ ?_
  induction s.active with
  | nil => exact .refl _
  | cons a as ih =>
      cases hm : a.matchType with
      | leading => simpa [hm] using ih.cons a
      | chained => simpa [hm] using List.perm_middle.trans (ih.cons a)
      | optional =>
          rw [← List.append_assoc] at ih ⊢
          simpa [hm] using List.perm_middle.trans (ih.cons a)

/-- A match has the relationships among its patterns. -/
theorem relationships_matchClause (patterns : List Pattern) :
    Query.relationships (matchClause patterns)
      = (patterns.filterMap Pattern.relationship?).map RelationshipPattern.unlabelled := by
  cases patterns with
  | nil => rfl
  | cons p ps => exact List.append_nil _

/-- Clauses that match one relationship each match all of them. -/
theorem relationships_map {α : Type} {clause : α → Clause} (edge : α → RelationshipPattern)
    (h : ∀ x, (clause x).relationships = [edge x]) (xs : List α) :
    Query.relationships (xs.map clause) = xs.map edge := by
  rw [Query.relationships, List.flatMap_map, List.map_eq_flatMap]
  exact List.flatMap_congr fun x _ => h x

theorem filterMap_relationship? (ps : List RelationshipPattern) :
    (ps.map Pattern.relationship).filterMap Pattern.relationship? = ps := by
  rw [List.filterMap_map]
  exact List.filterMap_some

theorem relationships_optionalClauses (names : List String) (ps : List RelationshipPattern) :
    Query.relationships (optionalClauses names ps) = ps.map RelationshipPattern.unlabelled := by
  have hmatch : (Clause.optionalMatch (ps.map .relationship)).relationships
      = ps.map RelationshipPattern.unlabelled := by
    rw [Clause.relationships, filterMap_relationship?]
  have hhandOff : Query.relationships (handOffClause names) = [] := by cases names <;> rfl
  cases ps with
  | nil => rfl
  | cons p ps =>
      rw [optionalClauses, Query.relationships_append, hhandOff, List.nil_append,
        Query.relationships, List.flatMap_singleton, hmatch]
      rintro ⟨⟩

/-- Which labels are shown makes no difference. -/
theorem map_unlabelled_patternsAfter (s : Snapshot) :
    ∀ (rs : List Relationship) (seen : List String),
      (s.patternsAfter seen rs).1.map RelationshipPattern.unlabelled = rs.map s.edge
  | [], _ => rfl
  | r :: rs, seen => by
      rw [patternsAfter, List.map_cons, List.map_cons, map_unlabelled_patternsAfter s rs]
      rfl

/-- In a query that limits rows, optional relationships come before chained ones. -/
theorem relationships_connectedMatch (s : Snapshot) :
    Query.relationships s.connectedMatch
      = (s.joining .leading ++ (s.joining .optional ++ s.joining .chained)).map s.edge := by
  have hnodes : ∀ ps : List NodePattern,
      (ps.map Pattern.node).filterMap Pattern.relationship? = [] :=
    fun ps => by rw [List.filterMap_map]; exact List.filterMap_none ..
  simp only [connectedMatch, Query.relationships_append, relationships_matchClause,
    List.filterMap_append, hnodes, filterMap_relationship?, List.append_nil,
    relationships_optionalClauses, map_unlabelled_patternsAfter, List.map_append,
    List.append_assoc]
  rw [relationships_map RelationshipPattern.unlabelled fun _ => rfl,
    map_unlabelled_patternsAfter]

/-- In a query that limits nodes, optional relationships come behind chained ones. -/
theorem relationships_expansion (s : Snapshot) (primary : Node) :
    Query.relationships (s.expansion primary)
      = (s.joining .leading ++ (s.joining .chained ++ s.joining .optional)).map s.edge := by
  have hleading : ((s.joining .leading).map (s.patternExcept primary.id)).filterMap
      Pattern.relationship? = (s.joining .leading).map fun r =>
        s.relationshipPattern r (r.source ≠ primary.id) (r.target ≠ primary.id) := by
    rw [List.filterMap_map]
    exact congrFun (List.filterMap_eq_map ..) _
  rw [expansion, Query.relationships_append, Query.relationships_append, relationships_matchClause,
    relationships_map s.edge fun _ => rfl, relationships_map s.edge fun _ => rfl,
    hleading, List.map_map, List.map_append, List.map_append, List.append_assoc]
  rfl

/-! ### The other parts -/

/-- Match clauses and hand-offs without a limit filter, return and limit nothing. -/
theorem parts_of_matches {q : Query} (h : ∀ c ∈ q, s.Matches c) :
    Query.filters q = [] ∧ Query.projections q = [] ∧ Query.limits q = [] := by
  have hparts : ∀ c ∈ q, c.predicates? = none ∧ c.items? = none ∧ c.isLimiting = false := by
    intro c hc
    cases h c hc <;> exact ⟨rfl, rfl, rfl⟩
  refine ⟨List.filterMap_eq_nil_iff.mpr fun c hc => (hparts c hc).1,
    List.filterMap_eq_nil_iff.mpr fun c hc => (hparts c hc).2.1,
    List.filter_eq_nil_iff.mpr fun c hc => ?_⟩
  rw [(hparts c hc).2.2]
  exact Bool.false_ne_true

/-- The filters of a clause; no clause has none. -/
theorem filters_filterClause (s : Snapshot) (fs : List PropertyFilter) :
    Query.filters (s.filterClause fs) = [fs.map s.predicate].filter (!·.isEmpty) := by
  cases fs <;> rfl

/-- Filters match nothing, return nothing and limit nothing. -/
theorem parts_of_filterClause (s : Snapshot) (fs : List PropertyFilter) :
    Query.relationships (s.filterClause fs) = [] ∧ Query.projections (s.filterClause fs) = [] ∧
      Query.limits (s.filterClause fs) = [] := by
  cases fs <;> exact ⟨rfl, rfl, rfl⟩

/-- An active relationship refers to names, so that the one to fall back on is not returned. -/
theorem returnedItems_eq_of_active (h : s.active ≠ []) (x y : String) :
    s.returnedItems x = s.returnedItems y := by
  obtain ⟨a, ha⟩ := List.exists_mem_of_ne_nil _ h
  have hsource : s.nodeName a.relationship.source ∈ s.referencedNames := by
    rw [referencedNames, mem_distinct, List.mem_append]
    exact .inl (List.mem_flatMap.mpr ⟨a, ha, List.mem_cons_self ..⟩)
  simp only [returnedItems, if_pos (List.ne_nil_of_mem hsource)]

/-- The conditions on a node and the other ones are all of them. -/
theorem perm_filters_of_node (s : Snapshot) (id : String) (fs : List PropertyFilter) :
    List.Perm ((fs.filter (·.node = id)).map s.predicate ++ (fs.filter (·.node ≠ id)).map s.predicate)
      (fs.map s.predicate) := by
  rw [← List.map_append]
  refine List.Perm.map _ ?_
  simpa using List.filter_append_perm (fun f : PropertyFilter => decide (f.node = id)) fs

/-! ### Both shapes -/

theorem matchClauses_of_active (h : s.active ≠ []) : s.matchClauses = s.connectedMatch := by
  rw [matchClauses, List.isEmpty_eq_false_iff.mpr h]
  rfl

/-- The parts of a query that limits rows. -/
theorem rowsQuery_parts (hs : s.EndsDrawn) (hactive : s.active ≠ []) (limit : String) :
    Query.relationships (s.rowsQuery (some limit))
        = (s.joining .leading ++ (s.joining .optional ++ s.joining .chained)).map s.edge ∧
      Query.filters (s.rowsQuery (some limit))
        = [s.diagram.filters.map s.predicate].filter (!·.isEmpty) ∧
      Query.projections (s.rowsQuery (some limit)) = [s.returnedItems s.settings.fallback] ∧
      Query.limits (s.rowsQuery (some limit)) = [.limit limit] := by
  obtain ⟨hfilters, hprojections, hlimits⟩ :=
    parts_of_matches (q := s.matchClauses) fun _ hc => matches_matchClauses hs hc
  obtain ⟨hrelationships', hprojections', hlimits'⟩ := s.parts_of_filterClause s.diagram.filters
  simp only [rowsQuery, Query.relationships_append, Query.filters_append,
    Query.projections_append, Query.limits_append, hfilters, hprojections, hlimits, hrelationships',
    hprojections', hlimits', filters_filterClause]
  rw [matchClauses_of_active hactive, relationships_connectedMatch]
  exact ⟨by rw [List.append_assoc, List.append_assoc]; exact List.append_nil _,
    by rw [List.append_assoc]; exact List.append_nil _, rfl, rfl⟩

/-- The parts of a query that limits nodes. -/
theorem nodesQuery_parts (hs : s.EndsDrawn) (primary : Node) (limit : String) :
    Query.relationships (s.nodesQuery primary limit)
        = (s.joining .leading ++ (s.joining .chained ++ s.joining .optional)).map s.edge ∧
      Query.filters (s.nodesQuery primary limit)
        = [(s.diagram.filters.filter (·.node = primary.id)).map s.predicate,
            (s.diagram.filters.filter (·.node ≠ primary.id)).map s.predicate].filter
              (!·.isEmpty) ∧
      Query.projections (s.nodesQuery primary limit)
        = [s.returnedItems (s.nodeName primary.id)] ∧
      Query.limits (s.nodesQuery primary limit)
        = [.handOff [s.nodeName primary.id] (some limit)] := by
  have hquery : s.nodesQuery primary limit
      = [s.primaryMatch primary]
        ++ (s.filterClause (s.diagram.filters.filter (·.node = primary.id))
          ++ ([.handOff [s.nodeName primary.id] (some limit)]
            ++ (s.expansion primary
              ++ (s.filterClause (s.diagram.filters.filter (·.node ≠ primary.id))
                ++ [.project (s.returnedItems (s.nodeName primary.id))])))) :=
    s.nodesQuery_eq primary limit
  obtain ⟨hfilters, hprojections, hlimits⟩ :=
    parts_of_matches (q := s.expansion primary) fun _ hc => matches_expansion hs hc
  obtain ⟨hown, hown', hown''⟩ :=
    s.parts_of_filterClause (s.diagram.filters.filter (·.node = primary.id))
  obtain ⟨hothers, hothers', hothers''⟩ :=
    s.parts_of_filterClause (s.diagram.filters.filter (·.node ≠ primary.id))
  simp only [hquery, Query.relationships_append, Query.filters_append, Query.projections_append,
    Query.limits_append, hfilters, hprojections, hlimits, hown, hown', hown'', hothers, hothers',
    hothers'', filters_filterClause, relationships_expansion]
  refine ⟨?_, ?_, rfl, rfl⟩
  · exact List.append_nil _
  · show List.filter _ [_] ++ (List.filter _ [_] ++ []) = _
    rw [List.append_nil, ← List.filter_append]
    rfl

/-- With a limit and an active relationship what is counted is what the diagram says, and there is a
node to count. -/
theorem limitShape_of_active (hs : s.EndsDrawn) (hactive : s.active ≠ []) {limit : String}
    (hlimit : s.limit? = some limit) :
    ∃ primary, s.primary? = some primary ∧
      s.limitShape = match s.diagram.limitMode with
        | .rows => .rows (some limit)
        | .nodes => .nodes primary limit := by
  -- an end of an active relationship is a node, so there is a first one
  obtain ⟨a, ha⟩ := List.exists_mem_of_ne_nil _ hactive
  obtain ⟨n, hn, -⟩ := Diagram.hasNode_iff.mp (hs a ha).1
  have hprimary : s.primary?.isSome = true := by
    obtain ⟨m, ms, hnodes⟩ := List.exists_cons_of_ne_nil (List.ne_nil_of_mem hn)
    rw [primary?, Option.isSome_or, hnodes]
    exact Bool.or_true _
  obtain ⟨primary, hprimary⟩ := Option.isSome_iff_exists.mp hprimary
  refine ⟨primary, hprimary, ?_⟩
  rw [limitShape, hlimit]
  cases s.diagram.limitMode with
  | rows => rfl
  | nodes => simp only [List.isEmpty_eq_false_iff.mpr hactive, hprimary]; rfl

end Snapshot

/-- **What the limit counts only moves the limit.**  Of a diagram with a limit and an active
relationship take the query that limits rows and the one that limits nodes.

* Both return the same, in one clause.
* Both match every active relationship exactly once, with the same name and type and between the
  same ends in the same direction; only labels and the order may differ.
* The filters of the one that limits nodes are in two clauses.  Each keeps the order of the single
  clause of the other query, and together they hold the same filters.
* In one the limit is the last clause, in the other it is in the hand-off of the node that is
  counted, and nothing else is limited. -/
theorem limit_mode_moves_limit (settings : Settings) (d : Diagram)
    (hlimit : Text.trim d.limit ≠ "") (hactive : d.activeRelationships ≠ []) :
    ∃ primary, (d.snapshot settings).primary? = some primary ∧
    (∃ items,
      (compileQuery settings (d.counting .rows)).projections = [items] ∧
      (compileQuery settings (d.counting .nodes)).projections = [items]) ∧
    List.Perm (compileQuery settings (d.counting .rows)).relationships
      (d.activeRelationships.map fun a => (d.snapshot settings).edge a.relationship) ∧
    List.Perm (compileQuery settings (d.counting .nodes)).relationships
      (d.activeRelationships.map fun a => (d.snapshot settings).edge a.relationship) ∧
    (∃ own others : List Predicate,
      (compileQuery settings (d.counting .rows)).filters
        = [d.filters.map (d.snapshot settings).predicate].filter (!·.isEmpty) ∧
      (compileQuery settings (d.counting .nodes)).filters = [own, others].filter (!·.isEmpty) ∧
      own.Sublist (d.filters.map (d.snapshot settings).predicate) ∧
      others.Sublist (d.filters.map (d.snapshot settings).predicate) ∧
      List.Perm (own ++ others) (d.filters.map (d.snapshot settings).predicate)) ∧
    (compileQuery settings (d.counting .rows)).limits = [.limit (Text.trim d.limit)] ∧
    (compileQuery settings (d.counting .nodes)).limits =
      [.handOff [(d.snapshot settings).nodeName primary.id] (some (Text.trim d.limit))] := by
  have hs : (d.snapshot settings).EndsDrawn := Snapshot.endsDrawn settings d
  have hlimit? : (d.snapshot settings).limit? = some (Text.trim d.limit) :=
    Option.filter_eq_some_iff.mpr ⟨rfl, decide_eq_true hlimit⟩
  obtain ⟨primary, hprimary, hrows⟩ :=
    Snapshot.limitShape_of_active (s := (d.counting .rows).snapshot settings) hs hactive hlimit?
  obtain ⟨primary', hprimary', hnodes⟩ :=
    Snapshot.limitShape_of_active (s := (d.counting .nodes).snapshot settings) hs hactive hlimit?
  obtain rfl : primary = primary' := Option.some.inj (hprimary.symm.trans hprimary')
  have hrowsQuery : compileQuery settings (d.counting .rows)
      = ((d.counting .rows).snapshot settings).rowsQuery (some (Text.trim d.limit)) := by
    rw [compileQuery, Snapshot.readQuery, hrows]
    rfl
  have hnodesQuery : compileQuery settings (d.counting .nodes)
      = ((d.counting .nodes).snapshot settings).nodesQuery primary (Text.trim d.limit) := by
    rw [compileQuery, Snapshot.readQuery, hnodes]
    rfl
  obtain ⟨hrel, hfil, hpro, hlim⟩ := Snapshot.rowsQuery_parts
    (s := (d.counting .rows).snapshot settings) hs hactive (Text.trim d.limit)
  obtain ⟨hrel', hfil', hpro', hlim'⟩ := Snapshot.nodesQuery_parts
    (s := (d.counting .nodes).snapshot settings) hs primary (Text.trim d.limit)
  have hperm := (d.snapshot settings).perm_joining.map (d.snapshot settings).edge
  rw [List.map_map] at hperm
  rw [hrowsQuery, hnodesQuery]
  refine ⟨primary, hprimary, ⟨_, hpro, ?_⟩, ?_, ?_, ⟨_, _, hfil, hfil', ?_, ?_, ?_⟩, hlim, hlim'⟩
  · rw [hpro']
    exact congrArg (fun items => [items]) (Snapshot.returnedItems_eq_of_active hactive _ _)
  · rw [hrel]
    exact ((List.perm_append_comm.append_left _).map _).trans hperm
  · rw [hrel']
    exact hperm
  · exact List.filter_sublist.map _
  · exact List.filter_sublist.map _
  · exact (d.snapshot settings).perm_filters_of_node primary.id d.filters

/-- Four nodes with a relationship of each way of joining a query, the optional one first, and
conditions on all of them in turn. -/
def tour : Diagram where
  nodes := [⟨"1", some "Person", "p"⟩, ⟨"2", none, "c"⟩, ⟨"3", some "City", "c"⟩, ⟨"4", none, "z"⟩]
  relationships :=
    [⟨"w", some "KNOWS", "2", "1", none, some .optional, true⟩,
      ⟨"x", none, "3", "4", none, some .chained, true⟩,
      ⟨"y", none, "1", "2", some "to", some .leading, true⟩]
  conditions :=
    [.ofFilter "k" ⟨"1", "nick", "CONTAINS", "x"⟩, .ofFilter "l" ⟨"3", "name", "=", "Oslo"⟩,
      .ofFilter "m" ⟨"1", "name", "=", "Ada"⟩]
  returnFields := []
  limit := " 3 "
  limitMode := .rows

/-- The two queries of `tour` list its relationships in different orders and split its conditions
differently, and return the same. -/
theorem limit_mode_of_tour :
    Text.trim tour.limit ≠ "" ∧ tour.activeRelationships ≠ [] ∧
      (compileQuery .default (tour.counting .rows)).relationships.map (·.name)
        = ["to", "r1", "r2"] ∧
      (compileQuery .default (tour.counting .nodes)).relationships.map (·.name)
        = ["to", "r2", "r1"] ∧
      (compileQuery .default (tour.counting .nodes)).filters.map (·.map (·.property))
        = [["nick", "name"], ["name"]] ∧
      ∃ items, (compileQuery .default (tour.counting .rows)).projections = [items] ∧
        (compileQuery .default (tour.counting .nodes)).projections = [items] := by
  have hlimit : Text.trim tour.limit ≠ "" := by decide
  have hactive : tour.activeRelationships ≠ [] := by decide
  obtain ⟨primary, -, hitems, -⟩ := limit_mode_moves_limit .default tour hlimit hactive
  exact ⟨hlimit, hactive, by decide, by decide, by decide, hitems⟩

end GraphQuery
