import GraphQuery.Proofs.LimitMode

/-!
# Proofs — how relationships are grouped

`Diagram.group` lists the relationships that join a query in a given way, read off the diagram as it
stands: an enabled relationship takes part if both its ends are nodes, and joins as it says or, if it
does not say, by whether an enabled relationship stands before it.  A query lists the same groups
(`joining_eq_group`), although it numbers the enabled relationships first and leaves out those with
an end that is no node afterwards.  `Query.matchings` tells match clauses from optional ones, counts
the single nodes of each and lists its relationships.

**No relationship is lost, duplicated or misplaced** (`relationships_are_grouped`).
-/

namespace GraphQuery

/-! ### What the diagram says -/

namespace Diagram

/-- Whether a relationship takes part: it is enabled and both its ends are nodes. -/
def takesPart (d : Diagram) (r : Relationship) : Bool :=
  r.enabled && (d.hasNode r.source && d.hasNode r.target)

/-- How the relationship at a place of the diagram joins the query: as it says, or else optional if
an enabled relationship stands before it and leading if none does. -/
def joinType (d : Diagram) (place : Nat) (r : Relationship) : MatchType :=
  r.matchType.getD
    (if (d.relationships.take place).any (·.enabled) then .optional else .leading)

/-- The relationships that take part and join the query in a given way, in order. -/
def group (d : Diagram) (m : MatchType) : List Relationship :=
  (d.relationships.zipIdx.filter fun (r, place) => d.takesPart r && d.joinType place r = m).map
    (·.1)

end Diagram

/-! ### What a query matches -/

/-- What a match clause matches. -/
structure Matching where
  /-- Whether it may match nothing. -/
  optional : Bool
  /-- How many of its patterns are nodes on their own. -/
  single : Nat
  /-- The relationships of its other patterns, in order and without the labels of their nodes. -/
  relationships : List RelationshipPattern
deriving DecidableEq, Repr

namespace Matching

/-- What patterns match. -/
def ofPatterns (optional : Bool) (patterns : List Pattern) : Matching where
  optional := optional
  single := patterns.countP (·.relationship?.isNone)
  relationships :=
    (patterns.filterMap Pattern.relationship?).map RelationshipPattern.unlabelled

/-- Whether no patterns are matched. -/
def isEmpty (m : Matching) : Bool :=
  m.single = 0 ∧ m.relationships = []

/-- Patterns are matched if there are any. -/
theorem isEmpty_ofPatterns (optional : Bool) (patterns : List Pattern) :
    (ofPatterns optional patterns).isEmpty = patterns.isEmpty := by
  rcases patterns with _ | ⟨_ | _, ps⟩
  · rfl
  · simp [ofPatterns, isEmpty, Pattern.relationship?]
  · simp [ofPatterns, isEmpty, Pattern.relationship?]

/-- Patterns of relationships before patterns of nodes. -/
theorem ofPatterns_append (optional : Bool) (ps : List RelationshipPattern)
    (qs : List NodePattern) :
    ofPatterns optional (ps.map .relationship ++ qs.map .node)
      = ⟨optional, qs.length, ps.map RelationshipPattern.unlabelled⟩ := by
  have hedges : (ps.map Pattern.relationship).countP (·.relationship?.isNone) = 0 := by
    rw [List.countP_map]
    exact List.countP_eq_zero.mpr fun _ _ => Bool.false_ne_true
  have hnodes : (qs.map Pattern.node).countP (·.relationship?.isNone) = qs.length := by
    rw [List.countP_map]
    exact List.countP_eq_length.mpr fun _ _ => rfl
  have hnone : (qs.map Pattern.node).filterMap Pattern.relationship? = [] := by
    rw [List.filterMap_map]
    exact List.filterMap_none ..
  rw [ofPatterns, List.countP_append, hedges, hnodes, Nat.zero_add, List.filterMap_append,
    Snapshot.filterMap_relationship?, hnone, List.append_nil]

theorem ofPatterns_relationship (optional : Bool) (ps : List RelationshipPattern) :
    ofPatterns optional (ps.map .relationship)
      = ⟨optional, 0, ps.map RelationshipPattern.unlabelled⟩ := by
  have h := ofPatterns_append optional ps []
  rwa [List.map_nil, List.append_nil] at h

theorem ofPatterns_node (optional : Bool) (qs : List NodePattern) :
    ofPatterns optional (qs.map .node) = ⟨optional, qs.length, []⟩ :=
  ofPatterns_append optional [] qs

/-- The leading relationships and single nodes in one match, the optional relationships in one
optional match behind it, and behind that each chained one in a match of its own. -/
def byRow (single : Nat) (edges : MatchType → List RelationshipPattern) : List Matching :=
  [⟨false, single, edges .leading⟩, ⟨true, 0, edges .optional⟩].filter (!·.isEmpty)
    ++ (edges .chained).map fun edge => ⟨false, 0, [edge]⟩

/-- The leading relationships in one match, behind it each chained one in a match of its own, and
behind those each optional one in an optional match of its own. -/
def byNode (edges : MatchType → List RelationshipPattern) : List Matching :=
  [⟨false, 0, edges .leading⟩].filter (!·.isEmpty)
    ++ (edges .chained).map (fun edge => ⟨false, 0, [edge]⟩)
    ++ (edges .optional).map fun edge => ⟨true, 0, [edge]⟩

/-- What matches nothing can be left out. -/
theorem flatMap_relationships_filter (ms : List Matching) :
    (ms.filter (!·.isEmpty)).flatMap (·.relationships) = ms.flatMap (·.relationships) := by
  induction ms with
  | nil => rfl
  | cons m ms ih =>
      rw [List.filter_cons]
      split
      · rw [List.flatMap_cons, List.flatMap_cons, ih]
      · rename_i hm
        have hempty : m.isEmpty = true := by simpa using hm
        have hnone : m.relationships = [] := (of_decide_eq_true hempty).2
        rw [List.flatMap_cons, hnone, ih, List.nil_append]

theorem flatMap_relationships_map (optional : Bool) (edges : List RelationshipPattern) :
    (edges.map fun edge => (⟨optional, 0, [edge]⟩ : Matching)).flatMap (·.relationships)
      = edges := by
  rw [List.flatMap_map]
  exact List.flatMap_singleton' edges

theorem flatMap_relationships_byRow (single : Nat) (edges : MatchType → List RelationshipPattern) :
    (byRow single edges).flatMap (·.relationships)
      = edges .leading ++ (edges .optional ++ edges .chained) := by
  rw [byRow, List.flatMap_append, flatMap_relationships_filter, flatMap_relationships_map,
    List.flatMap_cons, List.flatMap_singleton, List.append_assoc]

theorem flatMap_relationships_byNode (edges : MatchType → List RelationshipPattern) :
    (byNode edges).flatMap (·.relationships)
      = edges .leading ++ (edges .chained ++ edges .optional) := by
  rw [byNode, List.flatMap_append, List.flatMap_append, flatMap_relationships_filter,
    flatMap_relationships_map, flatMap_relationships_map, List.flatMap_singleton,
    List.append_assoc]

end Matching

/-- What a clause matches, if it is a match clause. -/
def Clause.matching? : Clause → Option Matching
  | .mandatoryMatch patterns => some (.ofPatterns false patterns)
  | .optionalMatch patterns => some (.ofPatterns true patterns)
  | _ => none

/-- What the match clauses of a query match, in order. -/
def Query.matchings (q : Query) : List Matching :=
  q.filterMap Clause.matching?

@[simp]
theorem Query.matchings_append (p q : Query) :
    Query.matchings (p ++ q) = Query.matchings p ++ Query.matchings q :=
  List.filterMap_append

/-- The relationships of a query are those of its match clauses. -/
theorem Query.relationships_eq_flatMap (q : Query) :
    q.relationships = q.matchings.flatMap (·.relationships) := by
  induction q with
  | nil => rfl
  | cons c q ih =>
      rw [Query.relationships, List.flatMap_cons, ← Query.relationships, ih]
      cases c <;> rfl

namespace Diagram

variable {d : Diagram}

/-! ### The groups of the diagram -/

/-- Behind `before` the enabled relationships are counted from the number of enabled ones in it; a
relationship without a match type is leading exactly if that number is zero. -/
theorem effectiveMatchType_countP {before after : List Relationship}
    (h : d.relationships = before ++ after) (r : Relationship) :
    effectiveMatchType r (before.countP (·.enabled)) = d.joinType before.length r := by
  have hnone : before.countP (·.enabled) = 0 ↔ ¬ before.any (·.enabled) = true := by
    rw [List.countP_eq_zero, List.any_eq_true]
    push Not
    rfl
  rw [effectiveMatchType, joinType, h, List.take_left]
  by_cases hany : before.any (·.enabled) = true
  · rw [if_neg fun h => hnone.mp h hany, if_pos hany]
  · rw [if_pos (hnone.mpr hany), if_neg hany]

/-- The groups of the relationships behind `before`, as the query finds them and as the diagram says
them. -/
theorem group_step (m : MatchType) :
    ∀ (before rs : List Relationship), d.relationships = before ++ rs →
      (((((rs.filter (·.enabled)).zipIdx (before.countP (·.enabled))).map
          fun (r, i) => (⟨i, r⟩ : ActiveRelationship)).filter fun a =>
            d.hasNode a.relationship.source && d.hasNode a.relationship.target).filter
              (·.matchType = m)).map (·.relationship)
        = ((rs.zipIdx before.length).filter fun (r, place) =>
            d.takesPart r && d.joinType place r = m).map (·.1)
  | _, [], _ => rfl
  | before, r :: rs, h => by
      -- `before` grows by `r`: its length is the place, its enabled ones are the number
      have ih := group_step m (before ++ [r]) rs (by rw [h, List.append_cons])
      rw [List.length_append, List.countP_append, List.length_singleton] at ih
      by_cases henabled : r.enabled = true
      · -- an enabled relationship is counted, whether its ends are nodes or not
        have htype : (⟨before.countP (·.enabled), r⟩ : ActiveRelationship).matchType
            = d.joinType before.length r := effectiveMatchType_countP h r
        have hpart : d.takesPart r = (d.hasNode r.source && d.hasNode r.target) := by
          rw [takesPart, henabled, Bool.true_and]
        rw [List.countP_singleton, if_pos henabled] at ih
        rw [List.filter_cons_of_pos henabled]
        simp only [List.zipIdx_cons, List.map_cons, List.filter_cons, hpart]
        cases d.hasNode r.source && d.hasNode r.target with
        | false => exact ih
        | true =>
            simp only [if_true, List.filter_cons, htype, Bool.true_and]
            split
            · rw [List.map_cons, List.map_cons, ih]
            · exact ih
      · have hpart : d.takesPart r = false := by
          rw [takesPart, eq_false_of_ne_true henabled, Bool.false_and]
        rw [List.countP_singleton, if_neg henabled, Nat.add_zero] at ih
        rw [List.filter_cons_of_neg henabled, ih]
        simp only [List.zipIdx_cons, List.filter_cons, hpart]
        rfl

/-- **The groups of a query** are those of its diagram. -/
theorem joining_eq_group (d : Diagram) (settings : Settings) (m : MatchType) :
    (d.snapshot settings).joining m = d.group m :=
  group_step m [] d.relationships rfl

/-- The active relationships are those that take part. -/
theorem map_relationship_activeRelationships (d : Diagram) :
    d.activeRelationships.map (·.relationship) = d.relationships.filter d.takesPart := by
  have hends : ∀ rs : List (Relationship × Nat),
      ((rs.map fun (r, i) => (⟨i, r⟩ : ActiveRelationship)).filter fun a =>
          d.hasNode a.relationship.source && d.hasNode a.relationship.target).map (·.relationship)
        = (rs.map (·.1)).filter fun r => d.hasNode r.source && d.hasNode r.target := by
    intro rs
    rw [List.filter_map, List.map_map, List.filter_map]
    rfl
  rw [activeRelationships, hends, List.zipIdx_map_fst, List.filter_filter]
  exact List.filter_congr fun r _ => Bool.and_comm ..

/-- The groups share out the relationships that take part. -/
theorem perm_group (d : Diagram) :
    List.Perm (d.group .leading ++ (d.group .chained ++ d.group .optional))
      (d.relationships.filter d.takesPart) := by
  have h := (d.snapshot .default).perm_joining
  rw [joining_eq_group, joining_eq_group, joining_eq_group] at h
  exact h.trans (.of_eq d.map_relationship_activeRelationships)

end Diagram

namespace Snapshot

variable {s : Snapshot}

/-! ### The groups of a query -/

theorem matchings_matchClause (patterns : List Pattern) :
    Query.matchings (matchClause patterns)
      = [Matching.ofPatterns false patterns].filter (!·.isEmpty) := by
  rw [List.filter_singleton, Matching.isEmpty_ofPatterns]
  cases patterns <;> rfl

theorem matchings_optionalClauses (names : List String) (ps : List RelationshipPattern) :
    Query.matchings (optionalClauses names ps)
      = [⟨true, 0, ps.map RelationshipPattern.unlabelled⟩].filter (!·.isEmpty) := by
  have hhandOff : Query.matchings (handOffClause names) = [] := by cases names <;> rfl
  rw [← Matching.ofPatterns_relationship, List.filter_singleton, Matching.isEmpty_ofPatterns]
  cases ps with
  | nil => rfl
  | cons p ps =>
      rw [optionalClauses, Query.matchings_append, hhandOff]
      · rfl
      · rintro ⟨⟩

/-- Clauses that match one relationship each. -/
theorem matchings_map {α : Type} {clause : α → Clause} (optional : Bool)
    (edge : α → RelationshipPattern)
    (h : ∀ x, (clause x).matching? = some ⟨optional, 0, [edge x]⟩) (xs : List α) :
    Query.matchings (xs.map clause) = (xs.map edge).map fun e => ⟨optional, 0, [e]⟩ := by
  rw [Query.matchings, List.filterMap_map, List.map_map, ← List.filterMap_eq_map]
  exact List.filterMap_congr fun x _ => h x

theorem matchings_filterClause (s : Snapshot) (fs : List PropertyFilter) :
    Query.matchings (s.filterClause fs) = [] := by
  cases fs <;> rfl

theorem matchings_project (items : List String) : Query.matchings [.project items] = [] := rfl

theorem matchings_assignClause (target : String) (values : List (String × Json.Value)) :
    Query.matchings (assignClause target values) = [] := by
  cases values <;> rfl

/-- The patterns of the relationships that join in a given way, without labels. -/
def edges (s : Snapshot) (m : MatchType) : List RelationshipPattern :=
  (s.joining m).map s.edge

theorem matchings_connectedMatch (s : Snapshot) :
    ∃ single, Query.matchings s.connectedMatch = Matching.byRow single s.edges := by
  refine ⟨(s.nodesAfter (s.patternsAfter [] (s.joining .leading)).2 s.looseNodes).1.length, ?_⟩
  simp only [connectedMatch, Query.matchings_append, matchings_matchClause,
    Matching.ofPatterns_append, matchings_optionalClauses, map_unlabelled_patternsAfter]
  rw [matchings_map false RelationshipPattern.unlabelled fun _ => rfl, ← List.filter_append,
    map_unlabelled_patternsAfter]
  rfl

/-- The match clauses of a query that limits rows, and of an update. -/
theorem matchings_matchClauses (s : Snapshot) :
    ∃ single, Query.matchings s.matchClauses = Matching.byRow single s.edges := by
  by_cases hactive : s.active = []
  · -- without active relationships every group is empty, and only the single nodes are left
    have hnone : s.edges = fun _ => [] := by
      funext m
      rw [edges, joining, hactive]
      rfl
    obtain ⟨p, ps, hpatterns⟩ := s.exists_standaloneMatch_eq
    have hclauses : s.matchClauses = matchClause ((p :: ps).map .node) := by
      rw [matchClauses, hactive]
      exact congrArg (fun clause => [clause]) hpatterns
    refine ⟨(p :: ps).length, ?_⟩
    rw [hclauses, matchings_matchClause, Matching.ofPatterns_node, hnone]
    rfl
  · rw [matchClauses_of_active hactive]
    exact s.matchings_connectedMatch

theorem matchings_expansion (s : Snapshot) (primary : Node) :
    Query.matchings (s.expansion primary) = Matching.byNode s.edges := by
  have hleading : (s.joining .leading).map (s.patternExcept primary.id)
      = ((s.joining .leading).map fun r =>
          s.relationshipPattern r (r.source ≠ primary.id) (r.target ≠ primary.id)).map
        .relationship := by
    rw [List.map_map]
    rfl
  rw [expansion, Query.matchings_append, Query.matchings_append, matchings_matchClause, hleading,
    Matching.ofPatterns_relationship, matchings_map false s.edge fun _ => rfl,
    matchings_map true s.edge fun _ => rfl, List.map_map]
  rfl

/-- **A query that limits rows** lists the groups by row. -/
theorem matchings_rowsQuery (s : Snapshot) (limit : Option String) :
    ∃ single, Query.matchings (s.rowsQuery limit) = Matching.byRow single s.edges := by
  obtain ⟨single, h⟩ := s.matchings_matchClauses
  have hlimit : Query.matchings (limit.map Clause.limit).toList = [] := by cases limit <;> rfl
  refine ⟨single, ?_⟩
  simp only [rowsQuery, Query.matchings_append, h, matchings_filterClause, matchings_project,
    hlimit, List.append_nil]

/-- **An update** lists the groups by row. -/
theorem matchings_updateQuery (s : Snapshot) (target : String)
    (values : List (String × Json.Value)) :
    ∃ single, Query.matchings (s.updateQuery target values) = Matching.byRow single s.edges := by
  obtain ⟨single, h⟩ := s.matchings_matchClauses
  refine ⟨single, ?_⟩
  simp only [updateQuery, Query.matchings_append, h, matchings_filterClause,
    matchings_assignClause, matchings_project, List.append_nil]

/-- **A query that limits nodes** matches one node and lists the groups by node behind the
hand-off. -/
theorem matchings_nodesQuery (s : Snapshot) (primary : Node) (limit : String) :
    ∃ before behind, s.nodesQuery primary limit
        = before ++ .handOff [s.nodeName primary.id] (some limit) :: behind ∧
      Query.matchings before = [⟨false, 1, []⟩] ∧
      Query.matchings behind = Matching.byNode s.edges := by
  refine ⟨s.primaryMatch primary :: s.filterClause (s.diagram.filters.filter (·.node = primary.id)),
    s.expansion primary ++ (s.filterClause (s.diagram.filters.filter (·.node ≠ primary.id))
      ++ [Clause.project (s.returnedItems (s.nodeName primary.id))]),
    s.nodesQuery_eq primary limit, ?_, ?_⟩
  · exact congrArg (_ :: ·) (s.matchings_filterClause _)
  · simp only [Query.matchings_append, matchings_expansion, matchings_filterClause,
      matchings_project, List.append_nil]

end Snapshot

/-! ### No relationship is lost, duplicated or misplaced -/

namespace Diagram

/-- The patterns of the groups of a diagram, without labels. -/
def edges (d : Diagram) (settings : Settings) (m : MatchType) : List RelationshipPattern :=
  (d.group m).map (d.snapshot settings).edge

theorem edges_snapshot (d : Diagram) (settings : Settings) :
    (d.snapshot settings).edges = d.edges settings := by
  funext m
  rw [Snapshot.edges, edges, joining_eq_group]

theorem map_relationship_edges (d : Diagram) (settings : Settings) (m : MatchType) :
    (d.edges settings m).map (·.relationship) = d.group m := by
  rw [edges, List.map_map]
  exact List.map_id' (d.group m)

end Diagram

/-- A query that lists the groups by row matches every relationship that takes part once. -/
theorem perm_relationships_byRow {q : Query} {settings : Settings} {d : Diagram} {single : Nat}
    (h : q.matchings = Matching.byRow single (d.edges settings)) :
    List.Perm (q.relationships.map (·.relationship)) (d.relationships.filter d.takesPart) := by
  rw [q.relationships_eq_flatMap, h, Matching.flatMap_relationships_byRow, List.map_append,
    List.map_append, d.map_relationship_edges, d.map_relationship_edges, d.map_relationship_edges]
  -- the optional ones come before the chained ones here
  exact (List.perm_append_comm.append_left _).trans d.perm_group

/-- So does a query that matches one node and lists the groups by node behind the hand-off. -/
theorem perm_relationships_byNode {q before behind : Query} {settings : Settings} {d : Diagram}
    {names : List String} {limit : Option String} (hq : q = before ++ .handOff names limit :: behind)
    (hbefore : before.matchings = [⟨false, 1, []⟩])
    (hbehind : behind.matchings = Matching.byNode (d.edges settings)) :
    List.Perm (q.relationships.map (·.relationship)) (d.relationships.filter d.takesPart) := by
  have hmatchings : q.matchings = ⟨false, 1, []⟩ :: Matching.byNode (d.edges settings) := by
    rw [hq, Query.matchings_append, hbefore, ← hbehind]
    rfl
  rw [q.relationships_eq_flatMap, hmatchings, List.flatMap_cons, List.nil_append,
    Matching.flatMap_relationships_byNode, List.map_append, List.map_append,
    d.map_relationship_edges, d.map_relationship_edges, d.map_relationship_edges]
  exact d.perm_group

/-- **No relationship is lost, duplicated or misplaced.**

* A query that limits rows, and every update, matches the leading relationships in one match
  together with single nodes, the optional ones in one optional match behind it, and behind that
  each chained one in a match of its own.  A match without patterns is left out.
* A query that limits nodes first matches one node and hands it on.  Behind the hand-off it matches
  the leading relationships in one match, then each chained one in a match of its own, then each
  optional one in an optional match of its own.
* Each group is in the order of the diagram (`Diagram.group`), and every query matches every
  relationship that takes part once and nothing else. -/
theorem relationships_are_grouped (settings : Settings) (d : Diagram) :
    (match (d.snapshot settings).limitShape with
      | .rows _ => ∃ single,
          (compileQuery settings d).matchings = Matching.byRow single (d.edges settings)
      | .nodes primary limit => ∃ before behind,
          compileQuery settings d
            = before ++ .handOff [(d.snapshot settings).nodeName primary.id] (some limit) :: behind ∧
          Query.matchings before = [⟨false, 1, []⟩] ∧
          Query.matchings behind = Matching.byNode (d.edges settings)) ∧
    List.Perm ((compileQuery settings d).relationships.map (·.relationship))
      (d.relationships.filter d.takesPart) ∧
    ∀ target updates q, compileUpdateQuery settings d target updates = .ok q →
      (∃ single, q.matchings = Matching.byRow single (d.edges settings)) ∧
      List.Perm (q.relationships.map (·.relationship)) (d.relationships.filter d.takesPart) := by
  refine ⟨?_, ?_, fun target updates q hq => ?_⟩
  · rw [compileQuery, Snapshot.readQuery]
    cases (d.snapshot settings).limitShape with
    | rows limit =>
        have h := (d.snapshot settings).matchings_rowsQuery limit
        rwa [d.edges_snapshot] at h
    | nodes primary limit =>
        have h := (d.snapshot settings).matchings_nodesQuery primary limit
        rwa [d.edges_snapshot] at h
  · rw [compileQuery, Snapshot.readQuery]
    cases (d.snapshot settings).limitShape with
    | rows limit =>
        obtain ⟨single, h⟩ := (d.snapshot settings).matchings_rowsQuery limit
        rw [d.edges_snapshot] at h
        exact perm_relationships_byRow h
    | nodes primary limit =>
        obtain ⟨before, behind, hquery, hbefore, hbehind⟩ :=
          (d.snapshot settings).matchings_nodesQuery primary limit
        rw [d.edges_snapshot] at hbehind
        exact perm_relationships_byNode hquery hbefore hbehind
  · obtain ⟨-, values, -, rfl⟩ := compileUpdateQuery_eq_ok.mp hq
    obtain ⟨single, h⟩ := (d.snapshot settings).matchings_updateQuery target values
    rw [d.edges_snapshot] at h
    exact ⟨⟨single, h⟩, perm_relationships_byRow h⟩

/-- Three nodes with relationships that join in each way.  The first enabled one has an end that is
no node, a disabled one stands before it, and the optional one of the others has no match type. -/
def crossing : Diagram where
  nodes := [⟨"1", some "Person", "p"⟩, ⟨"2", none, "c"⟩, ⟨"3", some "City", "z"⟩]
  relationships :=
    [⟨"v", none, "1", "2", none, none, false⟩, .ofEnds "w" "1" "9" none,
      ⟨"x", none, "3", "1", some "in", some .chained, true⟩, .ofEnds "y" "1" "2" none,
      ⟨"z", none, "2", "3", some "to", some .leading, true⟩]
  conditions := []
  returnFields := []
  limit := "3"
  limitMode := .nodes

/-- The relationships of `crossing` that take part, in the query that limits nodes and in an
update. -/
theorem relationships_of_crossing :
    (crossing.group .leading).map (·.id) = ["z"] ∧ (crossing.group .chained).map (·.id) = ["x"] ∧
      (crossing.group .optional).map (·.id) = ["y"] ∧
      (∃ q, compileUpdateQuery .default crossing "c" [("age", .ok (.number (.integer 7)))] = .ok q ∧
        ∃ single, q.matchings = Matching.byRow single (crossing.edges .default)) ∧
      List.Perm ((compileQuery .default crossing).relationships.map (·.relationship))
        (crossing.relationships.drop 2) := by
  obtain ⟨-, hperm, hupdate⟩ := relationships_are_grouped .default crossing
  refine ⟨by decide, by decide, by decide, ⟨_, rfl, ?_⟩, hperm⟩
  exact (hupdate "c" [("age", .ok (.number (.integer 7)))] _ rfl).1

end GraphQuery
