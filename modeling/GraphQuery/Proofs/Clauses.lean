import GraphQuery.Proofs.Snapshot

/-!
# Proofs — the clauses of a query

What the clauses of a query are, whatever the shape of its limit.  A pattern is drawn from the
diagram (`Snapshot.Draws`); the match clauses hold such patterns and hand on names of the diagram
(`matches_matchClauses`, `matches_expansion`), and depend on nodes, settings, active relationships
and names only (`SameDrawing.matchClauses_eq`).  A limit on nodes counts a node of the diagram
(`mem_nodes_of_primary?`), and the query lists its filters on that node apart from the others
(`nodesQuery_eq`).
-/

namespace GraphQuery.Snapshot

variable {s : Snapshot}

/-- A node of the diagram, with its label or without. -/
def DrawsNode (s : Snapshot) (p : NodePattern) : Prop :=
  ∃ n ∈ s.diagram.nodes, ∃ label,
    (label = none ∨ label = n.label) ∧ p = ⟨some n.id, s.nodeName n.id, label⟩

/-- The patterns of a query. -/
inductive Draws (s : Snapshot) : Pattern → Prop
  /-- Without nodes there is one pattern, of the fallback name. -/
  | fallback : Draws s (.node ⟨none, s.settings.fallback, none⟩)
  /-- A node. -/
  | node {p : NodePattern} (h : s.DrawsNode p) : Draws s (.node p)
  /-- An active relationship between two nodes. -/
  | relationship {a : ActiveRelationship} {source target : NodePattern} (ha : a ∈ s.active)
      (hsource : s.DrawsNode source) (htarget : s.DrawsNode target) :
      Draws s (.relationship ⟨a.relationship, s.relationshipName a.relationship, source, target⟩)

/-- The clauses that match, and hand names on between matches. -/
inductive Matches (s : Snapshot) : Clause → Prop
  /-- A match. -/
  | mandatoryMatch {patterns : List Pattern} (h : ∀ p ∈ patterns, s.Draws p) :
      Matches s (.mandatoryMatch patterns)
  /-- An optional match. -/
  | optionalMatch {patterns : List Pattern} (h : ∀ p ∈ patterns, s.Draws p) :
      Matches s (.optionalMatch patterns)
  /-- A hand-off. -/
  | handOff {names : List String} (h : ∀ x ∈ names, s.HasName x) : Matches s (.handOff names none)

/-! ### Patterns -/

/-- The pattern of a node of the diagram draws it, with its label or without. -/
theorem drawsNode_nodePattern {id : String} (h : s.diagram.hasNode id = true) (showLabel : Bool) :
    s.DrawsNode (s.nodePattern showLabel id) := by
  obtain ⟨n, hn, rfl⟩ := Diagram.hasNode_iff.mp h
  cases showLabel with
  | false => exact ⟨n, hn, none, .inl rfl, rfl⟩
  | true =>
      -- the label is the one of the last node with the id, which need not be `n`
      cases hlast : s.node? n.id with
      | none => exact ⟨n, hn, none, .inl rfl, by simp [nodePattern, hlast]⟩
      | some m =>
          obtain ⟨hm, hid⟩ := mem_of_lastNode? hlast
          exact ⟨m, hm, m.label, .inr rfl, by simp [nodePattern, hlast, hid]⟩

/-- The pattern of a relationship that joins the query draws it between its two ends. -/
theorem draws_relationshipPattern (hs : s.EndsDrawn) {m : MatchType} {r : Relationship}
    (hr : r ∈ s.joining m) (showSource showTarget : Bool) :
    s.Draws (.relationship (s.relationshipPattern r showSource showTarget)) := by
  obtain ⟨a, ha, -, rfl⟩ := mem_joining.mp hr
  obtain ⟨hsource, htarget⟩ := hs a ha
  exact .relationship ha (drawsNode_nodePattern hsource showSource)
    (drawsNode_nodePattern htarget showTarget)

/-- Whatever has been written before, relationships that join the query are drawn. -/
theorem draws_patternsAfter (hs : s.EndsDrawn) {m : MatchType} :
    ∀ {rs : List Relationship} {seen : List String}, (∀ r ∈ rs, r ∈ s.joining m) →
      ∀ p ∈ (s.patternsAfter seen rs).1, s.Draws (.relationship p)
  | [], _, _, _, hp => by cases hp
  | r :: rs, seen, hrs, p, hp => by
      rw [patternsAfter] at hp
      rcases List.mem_cons.mp hp with rfl | hp
      · exact draws_relationshipPattern hs (hrs r (List.mem_cons_self ..)) _ _
      · exact draws_patternsAfter hs (fun r' hr' => hrs r' (List.mem_cons_of_mem _ hr')) p hp

/-- Whatever has been written before, nodes of the diagram are drawn. -/
theorem draws_nodesAfter :
    ∀ {ns : List Node} {seen : List String}, (∀ n ∈ ns, n ∈ s.diagram.nodes) →
      ∀ p ∈ (s.nodesAfter seen ns).1, s.Draws (.node p)
  | [], _, _, _, hp => by cases hp
  | n :: ns, seen, hns, p, hp => by
      rw [nodesAfter] at hp
      rcases List.mem_cons.mp hp with rfl | hp
      · exact .node (drawsNode_nodePattern
          (Diagram.hasNode_iff.mpr ⟨n, hns n (List.mem_cons_self ..), rfl⟩) _)
      · exact draws_nodesAfter (fun n' hn' => hns n' (List.mem_cons_of_mem _ hn')) p hp

/-! ### Match clauses -/

/-- A match of what the diagram draws; without patterns there is no clause to speak of. -/
theorem matches_matchClause {patterns : List Pattern} (h : ∀ p ∈ patterns, s.Draws p) :
    ∀ c ∈ matchClause patterns, s.Matches c := by
  intro c hc
  cases patterns with
  | nil => cases hc
  | cons p ps =>
      rw [matchClause, List.mem_singleton] at hc
      exact hc ▸ .mandatoryMatch h
      rintro ⟨⟩

/-- An optional match of what the diagram draws, behind a hand-off of its names. -/
theorem matches_optionalClauses {names : List String} {ps : List RelationshipPattern}
    (hnames : ∀ x ∈ names, s.HasName x) (hps : ∀ p ∈ ps, s.Draws (.relationship p)) :
    ∀ c ∈ optionalClauses names ps, s.Matches c := by
  intro c hc
  cases ps with
  | nil => cases hc
  | cons p ps =>
      have hpatterns : ∀ q ∈ (p :: ps).map Pattern.relationship, s.Draws q := by
        intro q hq
        obtain ⟨r, hr, rfl⟩ := List.mem_map.mp hq
        exact hps r hr
      cases names with
      | nil =>
          rw [List.mem_singleton.mp hc]
          exact .optionalMatch hpatterns
      | cons name names =>
          rcases List.mem_cons.mp hc with rfl | hc
          · exact .handOff hnames
          · rw [List.mem_singleton.mp hc]
            exact .optionalMatch hpatterns

/-- A hand-off lists names of the diagram. -/
theorem hasName_of_mem_leadingNames (hs : s.EndsDrawn) {x : String} (hx : x ∈ s.leadingNames) :
    s.HasName x := by
  rcases List.mem_append.mp (mem_leadingNames.mp hx) with hx | hx
  · obtain ⟨r, hr, hx⟩ := List.mem_flatMap.mp hx
    obtain ⟨a, ha, -, rfl⟩ := mem_joining.mp hr
    exact hasName_of_mem_namesOf hs ha hx
  · obtain ⟨n, hn, rfl⟩ := List.mem_map.mp hx
    exact .inl ⟨n, (mem_looseNodes.mp hn).1, rfl⟩

/-- With relationships: the first match, the optional one and each chained one. -/
theorem matches_connectedMatch (hs : s.EndsDrawn) : ∀ c ∈ s.connectedMatch, s.Matches c := by
  have hjoining : ∀ {m seen}, ∀ p ∈ (s.patternsAfter seen (s.joining m)).1,
      s.Draws (.relationship p) := draws_patternsAfter hs fun _ hr => hr
  intro c hc
  simp only [connectedMatch, List.mem_append, or_assoc] at hc
  rcases hc with hc | hc | hc
  · refine matches_matchClause (fun p hp => ?_) c hc
    rcases List.mem_append.mp hp with hp | hp <;> obtain ⟨q, hq, rfl⟩ := List.mem_map.mp hp
    · exact hjoining q hq
    · exact draws_nodesAfter (fun n hn => (mem_looseNodes.mp hn).1) q hq
  · exact matches_optionalClauses (fun x hx => hasName_of_mem_leadingNames hs hx) hjoining c hc
  · obtain ⟨p, hp, rfl⟩ := List.mem_map.mp hc
    refine .mandatoryMatch fun q hq => ?_
    rw [List.mem_singleton.mp hq]
    exact hjoining p hp

/-- Without relationships: every node on its own, or the fallback name. -/
theorem matches_standaloneMatch : s.Matches s.standaloneMatch := by
  rw [standaloneMatch]
  split
  · refine .mandatoryMatch fun p hp => ?_
    rw [List.mem_singleton.mp hp]
    exact .fallback
  · refine .mandatoryMatch fun p hp => ?_
    obtain ⟨q, hq, rfl⟩ := List.mem_map.mp hp
    exact draws_nodesAfter (fun _ hn => hn) q hq

/-- The match of a query without relationships has patterns, all of them of nodes. -/
theorem exists_standaloneMatch_eq (s : Snapshot) :
    ∃ p ps, s.standaloneMatch = .mandatoryMatch ((p :: ps).map .node) := by
  rw [standaloneMatch]
  split
  · exact ⟨_, [], rfl⟩
  · rename_i nodes hnodes
    cases hall : s.diagram.nodes with
    | nil => exact absurd hall hnodes
    | cons n ns => exact ⟨_, _, rfl⟩

/-- **The match clauses** match patterns of the diagram and hand on names of it. -/
theorem matches_matchClauses (hs : s.EndsDrawn) {c : Clause} (hc : c ∈ s.matchClauses) :
    s.Matches c := by
  rw [matchClauses] at hc
  split at hc
  · rw [List.mem_singleton.mp hc]
    exact matches_standaloneMatch
  · exact matches_connectedMatch hs c hc

/-! ### What the match clauses depend on -/

/-- The same nodes, fallback name, active relationships and names. -/
structure SameDrawing (s t : Snapshot) : Prop where
  nodes : s.diagram.nodes = t.diagram.nodes
  fallback : s.settings.fallback = t.settings.fallback
  active : s.active = t.active
  names : s.names = t.names

namespace SameDrawing

variable {t : Snapshot}

theorem nodeName_eq (h : s.SameDrawing t) (id : String) : s.nodeName id = t.nodeName id := by
  rw [nodeName, nodeName, h.names, h.fallback]

theorem relationshipName_eq (h : s.SameDrawing t) (r : Relationship) :
    s.relationshipName r = t.relationshipName r := by
  rw [relationshipName, relationshipName, h.names]

theorem nodePattern_eq (h : s.SameDrawing t) (showLabel : Bool) (id : String) :
    s.nodePattern showLabel id = t.nodePattern showLabel id := by
  rw [nodePattern, nodePattern, h.nodeName_eq, node?, node?, h.nodes]

/-- The same relationships join the query, each in the same way. -/
theorem joining_eq (h : s.SameDrawing t) (m : MatchType) : s.joining m = t.joining m := by
  rw [joining, joining, h.active]

theorem looseNodes_eq (h : s.SameDrawing t) : s.looseNodes = t.looseNodes := by
  simp only [looseNodes, isMatched, h.nodes, h.joining_eq]

/-- Relationships have the same patterns, and the same nodes have been written after them. -/
theorem patternsAfter_eq (h : s.SameDrawing t) :
    ∀ (rs : List Relationship) (seen : List String),
      s.patternsAfter seen rs = t.patternsAfter seen rs
  | [], _ => rfl
  | r :: rs, seen => by
      simp only [patternsAfter, h.patternsAfter_eq rs, relationshipPattern, h.nodePattern_eq,
        h.relationshipName_eq]

theorem nodesAfter_eq (h : s.SameDrawing t) :
    ∀ (ns : List Node) (seen : List String), s.nodesAfter seen ns = t.nodesAfter seen ns
  | [], _ => rfl
  | n :: ns, seen => by
      simp only [nodesAfter, h.nodesAfter_eq ns, h.nodePattern_eq]

theorem standaloneMatch_eq (h : s.SameDrawing t) : s.standaloneMatch = t.standaloneMatch := by
  simp only [standaloneMatch, h.nodes, h.fallback, h.nodesAfter_eq]

/-- The first match, the optional one and the chained ones are the same, and so is the hand-off. -/
theorem connectedMatch_eq (h : s.SameDrawing t) : s.connectedMatch = t.connectedMatch := by
  simp only [connectedMatch, leadingNames, h.joining_eq, h.looseNodes_eq, h.patternsAfter_eq,
    h.nodesAfter_eq, h.nodeName_eq, h.relationshipName_eq]

/-- **The match clauses** depend on nothing else: not on conditions, return fields or a limit. -/
theorem matchClauses_eq (h : s.SameDrawing t) : s.matchClauses = t.matchClauses := by
  rw [matchClauses, matchClauses, h.active, h.standaloneMatch_eq, h.connectedMatch_eq]

end SameDrawing

/-! ### Queries that limit nodes -/

/-- A limit that counts nodes counts the primary node, and a limit is what was typed. -/
theorem limitShape_cases (s : Snapshot) :
    s.limitShape = .rows s.limit? ∨
      ∃ primary limit, s.limitShape = .nodes primary limit ∧ s.primary? = some primary ∧
        s.limit? = some limit := by
  rw [limitShape]
  cases s.diagram.limitMode with
  | rows => exact .inl rfl
  | nodes =>
      cases hlimit : s.limit? with
      | none => exact .inl rfl
      | some limit =>
          by_cases hactive : s.active.isEmpty = true
          · exact .inl (if_pos hactive)
          · cases hprimary : s.primary? with
            | none => exact .inl (if_neg hactive)
            | some primary => exact .inr ⟨primary, limit, if_neg hactive, rfl, rfl⟩

/-- A limit is what was typed, without the blanks around it. -/
theorem eq_trim_of_limit? {limit : String} (h : s.limit? = some limit) :
    limit = Text.trim s.diagram.limit := by
  rw [limit?, Option.filter_eq_some_iff] at h
  exact (Option.some.inj h.1).symm

/-- The primary node is a node of the diagram. -/
theorem mem_nodes_of_primary? {primary : Node} (h : s.primary? = some primary) :
    primary ∈ s.diagram.nodes := by
  rw [primary?, Option.or_eq_some_iff] at h
  rcases h with h | ⟨-, h⟩
  · obtain ⟨r, -, hr⟩ := Option.bind_eq_some_iff.mp h
    exact (mem_of_lastNode? hr).1
  · exact List.mem_of_mem_head? h

/-- The first match of a query that limits nodes. -/
def primaryMatch (s : Snapshot) (primary : Node) : Clause :=
  .mandatoryMatch [.node ⟨some primary.id, s.nodeName primary.id, primary.label⟩]

/-- The match clauses behind the hand-off of the primary node. -/
def expansion (s : Snapshot) (primary : Node) : List Clause :=
  matchClause ((s.joining .leading).map (s.patternExcept primary.id))
    ++ (s.joining .chained).map (fun r => .mandatoryMatch [s.patternExcept primary.id r])
    ++ (s.joining .optional).map (fun r => .optionalMatch [s.patternExcept primary.id r])

/-- A query that limits nodes, clause by clause: the primary node and its filters, the hand-off, the
relationships, the other filters and what is returned. -/
theorem nodesQuery_eq (s : Snapshot) (primary : Node) (limit : String) :
    s.nodesQuery primary limit
      = s.primaryMatch primary ::
        (s.filterClause (s.diagram.filters.filter (·.node = primary.id))
          ++ (.handOff [s.nodeName primary.id] (some limit) :: s.expansion primary
            ++ (s.filterClause (s.diagram.filters.filter (·.node ≠ primary.id))
              ++ [.project (s.returnedItems (s.nodeName primary.id))]))) := by
  simp [nodesQuery, primaryMatch, expansion, List.partition_eq_filter_filter, Function.comp_def]

theorem matches_primaryMatch {primary : Node} (h : primary ∈ s.diagram.nodes) :
    s.Matches (s.primaryMatch primary) := by
  refine .mandatoryMatch fun p hp => ?_
  rw [List.mem_singleton.mp hp]
  exact .node ⟨primary, h, primary.label, .inr rfl, rfl⟩

/-- Behind the hand-off of the primary node, each clause draws relationships that join the query. -/
theorem matches_expansion (hs : s.EndsDrawn) {primary : Node} {c : Clause}
    (hc : c ∈ s.expansion primary) : s.Matches c := by
  have hpattern : ∀ {m r}, r ∈ s.joining m → s.Draws (s.patternExcept primary.id r) :=
    fun hr => draws_relationshipPattern hs hr _ _
  have hsingle : ∀ {m r}, r ∈ s.joining m → ∀ p ∈ [s.patternExcept primary.id r], s.Draws p := by
    intro m r hr p hp
    rw [List.mem_singleton.mp hp]
    exact hpattern hr
  simp only [expansion, List.mem_append, or_assoc] at hc
  rcases hc with hc | hc | hc
  · refine matches_matchClause (fun p hp => ?_) c hc
    obtain ⟨r, hr, rfl⟩ := List.mem_map.mp hp
    exact hpattern hr
  · obtain ⟨r, hr, rfl⟩ := List.mem_map.mp hc
    exact .mandatoryMatch (hsingle hr)
  · obtain ⟨r, hr, rfl⟩ := List.mem_map.mp hc
    exact .optionalMatch (hsingle hr)

end GraphQuery.Snapshot
