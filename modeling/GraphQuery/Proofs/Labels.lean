import Mathlib.Data.List.Nodup
import GraphQuery.Proofs.Grouping

/-!
# Proofs — where nodes and labels are written

Which nodes have been written is carried along four lists of patterns that are made one after the
other: the leading relationships, the single nodes, the optional relationships and the chained ones.
`Query.nodePatterns` reads the patterns of nodes off the match clauses in the order of the text, and
`Snapshot.inOrder` writes nodes in a given order, each with its label the first time.  The match
clauses write the nodes of `Snapshot.writtenIds` in order (`nodePatterns_matchClauses`), so that the
carried lists agree with the text.  The nodes on their own are those that no leading or chained
relationship touches (`singles_matchClauses`).

**Every node is written, and its label once** (`labels_shown_once`).
-/

namespace GraphQuery

/-! ### Patterns in the order of the text -/

/-- The label that a pattern writes. -/
def NodePattern.shown (p : NodePattern) : Option String :=
  p.label.filter (· ≠ "")

/-- An empty label is not written. -/
theorem NodePattern.write_eq (p : NodePattern) : p.write = writeNodePattern p.name p.shown := by
  rw [write, writeNodePattern, writeNodePattern, writeTagged, writeTagged, shown, Option.filter_filter]
  simp only [Bool.and_self]

/-- The patterns of nodes in a pattern, in order. -/
def Pattern.nodes : Pattern → List NodePattern
  | .node p => [p]
  | .relationship p => [p.source, p.target]

/-- The pattern of a node on its own, if it is one. -/
def Pattern.node? : Pattern → Option NodePattern
  | .node p => some p
  | .relationship _ => none

/-- The patterns of a match clause, in order. -/
def Clause.patterns : Clause → List Pattern
  | .mandatoryMatch patterns | .optionalMatch patterns => patterns
  | _ => []

namespace Query

/-- The patterns of nodes in a query, in the order of its text. -/
def nodePatterns (q : Query) : List NodePattern :=
  (q.flatMap Clause.patterns).flatMap Pattern.nodes

/-- The patterns of nodes on their own in a query, in order. -/
def singles (q : Query) : List NodePattern :=
  (q.flatMap Clause.patterns).filterMap Pattern.node?

variable (p q : Query)

@[simp]
theorem nodePatterns_append :
    nodePatterns (p ++ q) = nodePatterns p ++ nodePatterns q := by
  rw [nodePatterns, List.flatMap_append, List.flatMap_append]
  rfl

@[simp]
theorem singles_append : singles (p ++ q) = singles p ++ singles q := by
  rw [singles, List.flatMap_append, List.filterMap_append]
  rfl

end Query

/-- The node is an end of a leading or chained relationship. -/
def Diagram.Touched (d : Diagram) (n : Node) : Prop :=
  ∃ r ∈ d.group .leading ++ d.group .chained, r.source = n.id ∨ r.target = n.id

namespace Snapshot

variable {s : Snapshot}

/-! ### Nodes in order -/

/-- The patterns of nodes in order, after the nodes in `seen` have been written: each shows its label
the first time. -/
def inOrder (s : Snapshot) (seen : List String) : List String → List NodePattern
  | [] => []
  | id :: ids => s.nodePattern (id ∉ seen) id :: s.inOrder (id :: seen) ids

/-- What the first part has written counts as written for the second one. -/
theorem inOrder_append (s : Snapshot) :
    ∀ (ids ids' seen : List String),
      s.inOrder seen (ids ++ ids') = s.inOrder seen ids ++ s.inOrder (ids.reverse ++ seen) ids'
  | [], _, _ => rfl
  | id :: ids, ids', seen => by
      rw [List.cons_append, inOrder, inOrder, inOrder_append s ids ids', List.cons_append,
        List.reverse_cons, List.append_assoc, List.singleton_append]

/-- Every node has a pattern at its place. -/
theorem map_node_inOrder (s : Snapshot) :
    ∀ (ids seen : List String), (s.inOrder seen ids).map (·.node) = ids.map some
  | [], _ => rfl
  | id :: ids, seen => by
      rw [inOrder, List.map_cons, List.map_cons, map_node_inOrder s ids]
      rfl

/-- **A label stands where its node is written first.** -/
theorem eq_nodePattern_of_inOrder {id : String} {p : NodePattern} {after : List NodePattern}
    (hp : p.node = some id) {ids seen : List String} {before : List NodePattern}
    (h : s.inOrder seen ids = before ++ p :: after) :
    p = s.nodePattern (id ∉ seen ∧ some id ∉ before.map (·.node)) id := by
  induction ids generalizing seen before with
  | nil => cases before <;> cases h
  | cons x xs ih =>
      cases before with
      | nil =>
          obtain ⟨rfl, -⟩ := List.cons.inj h
          obtain rfl : x = id := Option.some.inj hp
          simp
      | cons b before =>
          obtain ⟨rfl, hrest⟩ := List.cons.inj h
          rw [ih hrest]
          congr 2
          simp [nodePattern, and_assoc, not_or, and_left_comm]

/-! ### The clauses write nodes in order -/

/-- The ends of relationships, in order. -/
def endsOf (rs : List Relationship) : List String :=
  rs.flatMap fun r => [r.source, r.target]

/-- The ids of the nodes that the match clauses write, in order. -/
def writtenIds (s : Snapshot) : List String :=
  endsOf (s.joining .leading) ++ s.looseNodes.map (·.id) ++ endsOf (s.joining .optional)
    ++ endsOf (s.joining .chained)

/-- Relationships leave their ends written. -/
theorem patternsAfter_seen (s : Snapshot) :
    ∀ (rs : List Relationship) (seen : List String),
      (s.patternsAfter seen rs).2 = (endsOf rs).reverse ++ seen
  | [], _ => rfl
  | r :: rs, seen => by
      have h := patternsAfter_seen s rs (r.target :: r.source :: seen)
      simp only [patternsAfter, h]
      simp [endsOf]

/-- The nodes that relationships write are their ends, in order. -/
theorem patternsAfter_nodes (s : Snapshot) :
    ∀ (rs : List Relationship) (seen : List String),
      ((s.patternsAfter seen rs).1.map Pattern.relationship).flatMap Pattern.nodes
        = s.inOrder seen (endsOf rs)
  | [], _ => rfl
  | r :: rs, seen => by
      have h := patternsAfter_nodes s rs (r.target :: r.source :: seen)
      simp only [patternsAfter, List.map_cons, List.flatMap_cons, h]
      rfl

theorem nodesAfter_seen (s : Snapshot) :
    ∀ (ns : List Node) (seen : List String),
      (s.nodesAfter seen ns).2 = (ns.map (·.id)).reverse ++ seen
  | [], _ => rfl
  | n :: ns, seen => by
      have h := nodesAfter_seen s ns (n.id :: seen)
      simp only [nodesAfter, h]
      simp

theorem nodesAfter_nodes (s : Snapshot) :
    ∀ (ns : List Node) (seen : List String),
      (s.nodesAfter seen ns).1 = s.inOrder seen (ns.map (·.id))
  | [], _ => rfl
  | n :: ns, seen => by
      have h := nodesAfter_nodes s ns (n.id :: seen)
      simp only [nodesAfter, h]
      rfl

/-! ### Match clauses -/

theorem patterns_matchClause (patterns : List Pattern) :
    (matchClause patterns).flatMap Clause.patterns = patterns := by
  cases patterns with
  | nil => rfl
  | cons p ps => exact List.append_nil _

theorem patterns_optionalClauses (names : List String) (ps : List RelationshipPattern) :
    (optionalClauses names ps).flatMap Clause.patterns = ps.map .relationship := by
  have hhandOff : (handOffClause names).flatMap Clause.patterns = [] := by cases names <;> rfl
  cases ps with
  | nil => rfl
  | cons p ps =>
      rw [optionalClauses, List.flatMap_append, hhandOff]
      · exact List.append_nil _
      · rintro ⟨⟩

/-- Clauses that match one pattern each match all of them. -/
theorem patterns_map {α : Type} {clause : α → Clause} (pattern : α → Pattern)
    (h : ∀ x, (clause x).patterns = [pattern x]) (xs : List α) :
    (xs.map clause).flatMap Clause.patterns = xs.map pattern := by
  rw [List.flatMap_map, List.map_eq_flatMap]
  exact List.flatMap_congr fun x _ => h x

/-- The relationship patterns hold no nodes on their own. -/
theorem filterMap_node?_relationship (ps : List RelationshipPattern) :
    (ps.map Pattern.relationship).filterMap Pattern.node? = [] := by
  rw [List.filterMap_map]
  exact List.filterMap_none ..

theorem filterMap_node?_node (ps : List NodePattern) :
    (ps.map Pattern.node).filterMap Pattern.node? = ps := by
  rw [List.filterMap_map]
  exact List.filterMap_some

theorem flatMap_nodes_node (ps : List NodePattern) :
    (ps.map Pattern.node).flatMap Pattern.nodes = ps := by
  rw [List.flatMap_map]
  exact List.flatMap_singleton' ps

/-- The nodes of the match clauses are written one after the other, whatever the clause. -/
theorem nodePatterns_connectedMatch (s : Snapshot) :
    Query.nodePatterns s.connectedMatch = s.inOrder [] s.writtenIds := by
  simp only [Query.nodePatterns, connectedMatch, List.flatMap_append, patterns_matchClause,
    patterns_optionalClauses, flatMap_nodes_node, patternsAfter_nodes, patternsAfter_seen,
    nodesAfter_nodes, nodesAfter_seen, writtenIds, inOrder_append, List.append_assoc]
  rw [patterns_map Pattern.relationship fun _ => rfl, patternsAfter_nodes]

/-- Without active relationships every node stands on its own. -/
theorem looseNodes_of_inactive (h : s.active = []) : s.looseNodes = s.diagram.nodes := by
  refine List.filter_eq_self.mpr fun n _ => ?_
  rw [isMatched, joining, joining, h]
  rfl

/-- Without relationships every node is loose. -/
theorem matchClauses_of_inactive (h : s.active = []) (hnodes : s.diagram.nodes ≠ []) :
    s.matchClauses = matchClause ((s.nodesAfter [] s.looseNodes).1.map .node) := by
  obtain ⟨n, ns, hns⟩ := List.exists_cons_of_ne_nil hnodes
  rw [looseNodes_of_inactive h, matchClauses, h, standaloneMatch, hns]
  rfl

/-- **The match clauses** write the nodes in order. -/
theorem nodePatterns_matchClauses (hnodes : s.diagram.nodes ≠ []) :
    Query.nodePatterns s.matchClauses = s.inOrder [] s.writtenIds := by
  by_cases hactive : s.active = []
  · have hids : s.writtenIds = s.looseNodes.map (·.id) := by
      rw [writtenIds, joining, joining, joining, hactive]
      simp [endsOf]
    rw [matchClauses_of_inactive hactive hnodes, hids, Query.nodePatterns, patterns_matchClause,
      flatMap_nodes_node, nodesAfter_nodes]
  · rw [matchClauses_of_active hactive, nodePatterns_connectedMatch]

/-- **The nodes on their own** stand in the first match and are those that no leading or chained
relationship touches. -/
theorem singles_matchClauses (hnodes : s.diagram.nodes ≠ []) :
    ∃ patterns rest, s.matchClauses = matchClause patterns ++ rest ∧
      (patterns.filterMap Pattern.node?).map (·.node) = s.looseNodes.map (fun n => some n.id) ∧
      Query.singles rest = [] := by
  have hloose : ∀ seen, (s.nodesAfter seen s.looseNodes).1.map (·.node)
      = s.looseNodes.map fun n => some n.id := by
    intro seen
    rw [nodesAfter_nodes, map_node_inOrder, List.map_map]
    rfl
  by_cases hactive : s.active = []
  · refine ⟨(s.nodesAfter [] s.looseNodes).1.map .node, [], ?_, ?_, rfl⟩
    · rw [matchClauses_of_inactive hactive hnodes, List.append_nil]
    · rw [filterMap_node?_node, hloose]
  · rw [matchClauses_of_active hactive]
    refine ⟨_, _, List.append_assoc .., ?_, ?_⟩
    · rw [List.filterMap_append, filterMap_node?_relationship, filterMap_node?_node,
        List.nil_append, hloose]
    · rw [Query.singles, List.flatMap_append, patterns_optionalClauses,
        patterns_map Pattern.relationship fun _ => rfl, ← List.map_append, filterMap_node?_relationship]

/-- A node that a leading or chained relationship touches is matched, whatever the settings are. -/
theorem touched_iff {d : Diagram} (settings : Settings) (n : Node) :
    d.Touched n ↔ (d.snapshot settings).isMatched n.id = true := by
  rw [isMatched_iff, d.joining_eq_group, d.joining_eq_group, Diagram.Touched]

/-- A node of the diagram is one of those on their own if it is not matched. -/
theorem some_id_mem_looseNodes {n : Node} (hn : n ∈ s.diagram.nodes) :
    some n.id ∈ s.looseNodes.map (fun n => some n.id) ↔ s.isMatched n.id = false := by
  refine ⟨fun h => ?_, fun h => List.mem_map_of_mem (mem_looseNodes.mpr ⟨hn, h⟩)⟩
  obtain ⟨m, hm, hid⟩ := List.mem_map.mp h
  rw [← Option.some.inj hid]
  exact (mem_looseNodes.mp hm).2

/-- Every node is written. -/
theorem mem_writtenIds {n : Node} (hn : n ∈ s.diagram.nodes) : n.id ∈ s.writtenIds := by
  have hends : ∀ {m r}, r ∈ s.joining m → r.source = n.id ∨ r.target = n.id →
      n.id ∈ endsOf (s.joining m) := by
    intro m r hr hid
    refine List.mem_flatMap.mpr ⟨r, hr, ?_⟩
    simpa [eq_comm] using hid
  simp only [writtenIds, List.mem_append]
  cases hmatched : s.isMatched n.id with
  | false =>
      -- it stands on its own
      exact .inl (.inl (.inr (List.mem_map_of_mem (mem_looseNodes.mpr ⟨hn, hmatched⟩))))
  | true =>
      obtain ⟨r, hr, hid⟩ := isMatched_iff.mp hmatched
      rcases List.mem_append.mp hr with hr | hr
      · exact .inl (.inl (.inl (hends hr hid)))
      · exact .inr (hends hr hid)

end Snapshot

/-- With different ids the last node with the id of a node is that node. -/
theorem lastNode?_of_nodup {nodes : List Node} (h : (nodes.map (·.id)).Nodup) {n : Node}
    (hn : n ∈ nodes) : lastNode? nodes n.id = some n := by
  cases hlast : lastNode? nodes n.id with
  | none =>
      rw [lastNode?, List.find?_eq_none] at hlast
      exact absurd (decide_eq_true rfl) (hlast n (List.mem_reverse.mpr hn))
  | some m =>
      obtain ⟨hm, hid⟩ := mem_of_lastNode? hlast
      rw [List.inj_on_of_nodup_map h hm hn hid]

/-- **Every node is written, and its label once.**  Let the ids of the nodes differ, and read the
patterns of nodes in the match clauses in the order of the text.

* Every node has a pattern.
* The first pattern of a node shows its label if it has one that is not empty, and no later one
  shows a label.
* A node that no leading or chained relationship touches stands on its own exactly once, in the first
  clause, which is a match; no other node stands on its own anywhere. -/
theorem labels_shown_once (settings : Settings) {d : Diagram}
    (hids : (d.nodes.map (·.id)).Nodup) {n : Node} (hn : n ∈ d.nodes) :
    (∃ p ∈ Query.nodePatterns (d.snapshot settings).matchClauses, p.node = some n.id) ∧
    (∀ before p after,
      Query.nodePatterns (d.snapshot settings).matchClauses = before ++ p :: after →
        p.node = some n.id →
          p.shown
            = (if some n.id ∈ before.map (·.node) then none else n.label.filter (· ≠ "")) ∧
          p.write = writeNodePattern ((d.snapshot settings).nodeName n.id) p.shown) ∧
    (¬ d.Touched n → ∃ patterns rest,
      (d.snapshot settings).matchClauses = .mandatoryMatch patterns :: rest ∧
      ((patterns.filterMap Pattern.node?).map (·.node)).count (some n.id) = 1 ∧
      ∀ p ∈ Query.singles rest, p.node ≠ some n.id) ∧
    (d.Touched n → ∀ p ∈ Query.singles (d.snapshot settings).matchClauses, p.node ≠ some n.id) := by
  have hnodes : (d.snapshot settings).diagram.nodes ≠ [] := List.ne_nil_of_mem hn
  have hpatterns := Snapshot.nodePatterns_matchClauses hnodes
  obtain ⟨patterns, rest, hclauses, hsingles, hrest⟩ := Snapshot.singles_matchClauses hnodes
  have hloose : some n.id ∈ (patterns.filterMap Pattern.node?).map (·.node) ↔ ¬ d.Touched n := by
    rw [hsingles, Snapshot.some_id_mem_looseNodes hn, Snapshot.touched_iff settings,
      Bool.not_eq_true]
  refine ⟨?_, fun before p after hsplit hp => ?_, fun huntouched => ?_, fun htouched p hp hid => ?_⟩
  -- the four parts: every node is written, where its label is, and who stands on its own
  · have hwritten : some n.id ∈ (Query.nodePatterns (d.snapshot settings).matchClauses).map
        (·.node) := by
      rw [hpatterns, Snapshot.map_node_inOrder]
      exact List.mem_map_of_mem (Snapshot.mem_writtenIds hn)
    exact List.mem_map.mp hwritten
  · have hnode : (d.snapshot settings).node? n.id = some n := lastNode?_of_nodup hids hn
    obtain rfl := Snapshot.eq_nodePattern_of_inOrder hp (hpatterns ▸ hsplit)
    refine ⟨?_, NodePattern.write_eq _⟩
    rw [NodePattern.shown, Snapshot.nodePattern, hnode]
    by_cases hfirst : some n.id ∈ before.map (·.node)
    · rw [if_pos hfirst, if_neg (by simpa using hfirst)]
      rfl
    · rw [if_neg hfirst, if_pos (by simpa using hfirst)]
      rfl
  · have hnodup : ((patterns.filterMap Pattern.node?).map (·.node)).Nodup := by
      have hloose : ((d.snapshot settings).looseNodes.map (·.id)).Nodup :=
        hids.sublist (List.filter_sublist.map _)
      have hsome := hloose.map fun _ _ h => Option.some.inj h
      rw [List.map_map] at hsome
      exact hsingles ▸ hsome
    have hmem := hloose.mpr huntouched
    refine ⟨patterns, rest, ?_, List.count_eq_one_of_mem hnodup hmem, fun p hp => ?_⟩
    · rw [hclauses]
      cases patterns with
      | nil => cases hmem
      | cons p ps => rfl
    · rw [hrest] at hp
      cases hp
  · rw [hclauses, Query.singles_append, hrest, List.append_nil, Query.singles,
      Snapshot.patterns_matchClause] at hp
    exact hloose.mp (List.mem_map.mpr ⟨p, hp, hid⟩) htouched

/-- Three nodes, a self-loop in the leading match and an optional relationship from a node that only
it touches. -/
def loop : Diagram where
  nodes := [⟨"1", some "Person", "p"⟩, ⟨"2", some "City", "c"⟩, ⟨"3", some "", "z"⟩]
  relationships := [.ofEnds "x" "1" "1" none, .ofEnds "y" "2" "1" none]
  conditions := []
  returnFields := []
  limit := ""
  limitMode := .rows

/-- The nodes of `loop` in the order of the text, and the label of each pattern. -/
theorem labels_of_loop :
    (loop.nodes.map (·.id)).Nodup ∧
      (Query.nodePatterns (loop.snapshot .default).matchClauses).map (fun p => (p.node, p.shown))
        = [(some "1", some "Person"), (some "1", none), (some "2", some "City"), (some "3", none),
            (some "2", none), (some "1", none)] ∧
      ∃ patterns rest,
        (loop.snapshot .default).matchClauses = .mandatoryMatch patterns :: rest ∧
        ((patterns.filterMap Pattern.node?).map (·.node)).count (some "2") = 1 ∧
        ∀ p ∈ Query.singles rest, p.node ≠ some "2" := by
  have hids : (loop.nodes.map (·.id)).Nodup := by decide
  have hcity : ⟨"2", some "City", "c"⟩ ∈ loop.nodes := by decide
  have huntouched : ¬ loop.Touched ⟨"2", some "City", "c"⟩ := by
    rw [Snapshot.touched_iff .default]
    decide
  exact ⟨hids, by decide, (labels_shown_once .default hids hcity).2.2.1 huntouched⟩

end GraphQuery
