import GraphQuery.Proofs.Labels

/-!
# Proofs — where the limit stands

`Diagram.LimitsNodes` says of a diagram as it stands when its limit counts nodes, and
`Diagram.primary?` which node it counts.  A query agrees with both (`limitShape_of_limitsNodes`,
`limitShape_of_not_limitsNodes`): there always is a node to count, because an active relationship has
nodes at its ends.

A query that limits nodes matches the node that it counts, filters it, and hands it on with the
limit.  Behind the hand-off the patterns of nodes are the ends of the active relationships
(`nodePatterns_expansion`), and each shows its label unless it is of the node that is counted
(`write_of_mem_nodePatterns_expansion`).  A query that limits rows ends with the limit
(`rowsQuery_eq`).

**The limit takes one of two shapes** (`limit_takes_shape`).
-/

namespace GraphQuery

namespace Diagram

/-- Whether the limit counts nodes: the mode says so, there is a limit and a relationship takes
part. -/
def LimitsNodes (d : Diagram) : Prop :=
  d.limitMode = .nodes ∧ Text.trim d.limit ≠ "" ∧ ∃ r ∈ d.relationships, d.takesPart r = true

instance (d : Diagram) : Decidable d.LimitsNodes :=
  inferInstanceAs (Decidable (d.limitMode = .nodes ∧ Text.trim d.limit ≠ "" ∧
    ∃ r ∈ d.relationships, d.takesPart r = true))

/-- The node that a limit on nodes counts: the one that the first leading relationship starts from,
or the first node if there is no leading relationship. -/
def primary? (d : Diagram) : Option Node :=
  match d.group .leading with
  | r :: _ => lastNode? d.nodes r.source
  | [] => d.nodes.head?

variable {d : Diagram}

theorem activeRelationships_ne_nil_iff :
    d.activeRelationships ≠ [] ↔ ∃ r ∈ d.relationships, d.takesPart r = true := by
  have hnil : d.activeRelationships = [] ↔ d.relationships.filter d.takesPart = [] := by
    rw [← map_relationship_activeRelationships, List.map_eq_nil_iff]
  rw [ne_eq, hnil, List.filter_eq_nil_iff]
  push Not
  rfl

/-- An id of a node is the id of its last node. -/
theorem exists_lastNode?_of_hasNode {id : String} (h : d.hasNode id = true) :
    ∃ n, lastNode? d.nodes id = some n ∧ n.id = id := by
  obtain ⟨n, hn, rfl⟩ := hasNode_iff.mp h
  obtain ⟨m, hm⟩ := exists_lastNode?_eq hn
  exact ⟨m, hm, (mem_of_lastNode? hm).2⟩

/-- A query counts the node that its diagram says. -/
theorem primary?_snapshot (d : Diagram) (settings : Settings) :
    (d.snapshot settings).primary? = d.primary? := by
  rw [Snapshot.primary?, joining_eq_group, primary?]
  cases hleading : d.group .leading with
  | nil => rfl
  | cons r rs =>
      -- the start of an active relationship is a node, so the first node is not asked for
      have hr : r ∈ (d.snapshot settings).joining .leading := by
        rw [joining_eq_group, hleading]
        exact List.mem_cons_self ..
      obtain ⟨a, ha, -, rfl⟩ := Snapshot.mem_joining.mp hr
      obtain ⟨n, hn, -⟩ := exists_lastNode?_of_hasNode (hasNode_of_mem_active ha).1
      have hnode : (d.snapshot settings).node? a.relationship.source = some n := hn
      simp [hnode, hn]

/-- **A limit that counts nodes** counts the node that the diagram says; there always is one. -/
theorem limitShape_of_limitsNodes (h : d.LimitsNodes) (settings : Settings) :
    ∃ primary, d.primary? = some primary ∧
      (d.snapshot settings).limitShape = .nodes primary (Text.trim d.limit) := by
  obtain ⟨hmode, hlimit, hactive⟩ := h
  have hlimit? : (d.snapshot settings).limit? = some (Text.trim d.limit) :=
    Option.filter_eq_some_iff.mpr ⟨rfl, decide_eq_true hlimit⟩
  obtain ⟨primary, hprimary, hshape⟩ := Snapshot.limitShape_of_active
    (Snapshot.endsDrawn settings d) (activeRelationships_ne_nil_iff.mpr hactive) hlimit?
  rw [primary?_snapshot] at hprimary
  rw [snapshot_diagram, hmode] at hshape
  exact ⟨primary, hprimary, hshape⟩

/-- **Any other limit** counts rows. -/
theorem limitShape_of_not_limitsNodes (h : ¬ d.LimitsNodes) (settings : Settings) :
    (d.snapshot settings).limitShape = .rows (d.snapshot settings).limit? := by
  rw [Snapshot.limitShape, snapshot_diagram]
  cases hmode : d.limitMode with
  | rows => rfl
  | nodes =>
      cases hlimit : (d.snapshot settings).limit? with
      | none => rfl
      | some limit =>
          -- the mode and the limit ask for nodes, so no relationship takes part
          refine if_pos (List.isEmpty_iff.mpr (Classical.byContradiction fun hactive => h ?_))
          obtain ⟨htrim, hne⟩ := Option.filter_eq_some_iff.mp hlimit
          rw [← Option.some.inj htrim] at hne
          exact ⟨hmode, of_decide_eq_true hne, activeRelationships_ne_nil_iff.mp hactive⟩

end Diagram

/-- The clause of some predicates; none if there are no predicates. -/
def Clause.ofPredicates : List Predicate → List Clause
  | [] => []
  | predicates => [.filter predicates]

namespace Snapshot

variable {s : Snapshot}

theorem filterClause_eq_ofPredicates (s : Snapshot) (fs : List PropertyFilter) :
    s.filterClause fs = Clause.ofPredicates (fs.map s.predicate) := by
  cases fs <;> rfl

/-- Filters on one node compare properties of its name. -/
theorem map_predicate_own (s : Snapshot) (id : String) (fs : List PropertyFilter) :
    (fs.filter (·.node = id)).map s.predicate = (fs.filter (·.node = id)).map fun f =>
      Predicate.compare (s.nodeName id) f.property f.operator f.value := by
  refine List.map_congr_left fun f hf => ?_
  rw [predicate, of_decide_eq_true (List.mem_filter.mp hf).2]

/-! ### Behind the hand-off -/

/-- Behind the hand-off there are match clauses only. -/
theorem isSome_matching?_of_mem_expansion {primary : Node} {c : Clause}
    (hc : c ∈ s.expansion primary) : c.matching?.isSome = true := by
  simp only [expansion, List.mem_append, or_assoc] at hc
  rcases hc with hc | hc | hc
  · cases hpatterns : (s.joining .leading).map (s.patternExcept primary.id) with
    | nil => rw [hpatterns] at hc; cases hc
    | cons p ps =>
        rw [hpatterns] at hc
        rw [List.mem_singleton.mp hc]
        rfl
  · obtain ⟨r, -, rfl⟩ := List.mem_map.mp hc
    rfl
  · obtain ⟨r, -, rfl⟩ := List.mem_map.mp hc
    rfl

theorem nodePatterns_expansion (s : Snapshot) (primary : Node) :
    Query.nodePatterns (s.expansion primary)
      = (endsOf (s.joining .leading ++ (s.joining .chained ++ s.joining .optional))).map fun id =>
          s.nodePattern (id ≠ primary.id) id := by
  have hpatterns : (s.expansion primary).flatMap Clause.patterns
      = (s.joining .leading ++ (s.joining .chained ++ s.joining .optional)).map
          (s.patternExcept primary.id) := by
    rw [expansion, List.flatMap_append, List.flatMap_append, patterns_matchClause,
      patterns_map (s.patternExcept primary.id) fun _ => rfl,
      patterns_map (s.patternExcept primary.id) fun _ => rfl, List.map_append, List.map_append,
      List.append_assoc]
  rw [Query.nodePatterns, hpatterns, endsOf, List.flatMap_map, List.map_flatMap]
  rfl

/-- The ends of active relationships are nodes. -/
theorem hasNode_of_mem_endsOf (hs : s.EndsDrawn) {id : String}
    (h : id ∈ endsOf (s.joining .leading ++ (s.joining .chained ++ s.joining .optional))) :
    s.diagram.hasNode id = true := by
  obtain ⟨r, hr, hid⟩ := List.mem_flatMap.mp h
  obtain ⟨a, ha, rfl⟩ := List.mem_map.mp (s.perm_joining.mem_iff.mp hr)
  rcases List.mem_pair.mp hid with rfl | rfl
  · exact (hs a ha).1
  · exact (hs a ha).2

/-- **Behind the hand-off** a node shows its label unless it is the one that is counted. -/
theorem write_of_mem_nodePatterns_expansion (hs : s.EndsDrawn) {primary : Node} {p : NodePattern}
    (hp : p ∈ Query.nodePatterns (s.expansion primary)) :
    ∃ n, s.node? n.id = some n ∧ p.node = some n.id ∧
      p.write = writeNodePattern (s.nodeName n.id)
        (if n.id = primary.id then none else n.label.filter (· ≠ "")) := by
  rw [nodePatterns_expansion] at hp
  obtain ⟨id, hid, rfl⟩ := List.mem_map.mp hp
  obtain ⟨n, hn, rfl⟩ := Diagram.exists_lastNode?_of_hasNode (hasNode_of_mem_endsOf hs hid)
  have hnode : s.node? n.id = some n := hn
  refine ⟨n, hn, rfl, ?_⟩
  rw [NodePattern.write_eq, NodePattern.shown, nodePattern, hnode]
  by_cases hprimary : n.id = primary.id <;> simp [hprimary]

/-! ### Queries that limit rows -/

/-- Nothing in front of the items that are returned is limited. -/
theorem limits_matchClauses_append (hs : s.EndsDrawn) (fs : List PropertyFilter) :
    Query.limits (s.matchClauses ++ s.filterClause fs) = [] := by
  rw [Query.limits_append, (parts_of_matches fun _ hc => matches_matchClauses hs hc).2.2,
    (s.parts_of_filterClause fs).2.2]
  rfl

/-- A query that limits rows ends with the limit, if there is one. -/
theorem rowsQuery_eq (s : Snapshot) :
    s.rowsQuery s.limit?
      = s.matchClauses ++ s.filterClause s.diagram.filters
        ++ .project (s.returnedItems s.settings.fallback)
          :: (if Text.trim s.diagram.limit = "" then [] else [.limit (Text.trim s.diagram.limit)]) := by
  rw [rowsQuery, limit?, List.append_assoc, List.singleton_append]
  by_cases hlimit : Text.trim s.diagram.limit = "" <;> simp [hlimit]

end Snapshot

/-- **The limit takes one of two shapes.**  Let `LimitsNodes` say of a diagram that its limit counts
nodes: the mode says so, the trimmed limit is not empty and some relationship takes part.

* The query limits nodes exactly then.
* It then counts the node that the first leading relationship starts from, or the first node if
  there is no leading relationship.  It matches this node alone with its label, keeps the rows that
  satisfy the filters on it, and hands its name on with the trimmed limit.  Match clauses follow in
  which this node shows no label and every other node shows its own one if that is not empty, then
  all other filters and the items that are returned.  Both lists of filters are in the order of the
  conditions, and nothing else is limited.
* Any other query returns items and then limits rows, if the trimmed limit is not empty, and ends
  there.  Nothing in front of the items is limited. -/
theorem limit_takes_shape (settings : Settings) (d : Diagram) :
    ((∃ primary limit, (d.snapshot settings).limitShape = .nodes primary limit) ↔ d.LimitsNodes) ∧
    (d.LimitsNodes → ∃ primary matchings items, d.primary? = some primary ∧
      compileQuery settings d
        = .mandatoryMatch
            [.node ⟨some primary.id, (d.snapshot settings).nodeName primary.id, primary.label⟩] ::
          (Clause.ofPredicates ((d.filters.filter (·.node = primary.id)).map fun f =>
              .compare ((d.snapshot settings).nodeName primary.id) f.property f.operator f.value)
            ++ .handOff [(d.snapshot settings).nodeName primary.id] (some (Text.trim d.limit)) ::
              (matchings
                ++ (Clause.ofPredicates ((d.filters.filter (·.node ≠ primary.id)).map fun f =>
                    .compare ((d.snapshot settings).nodeName f.node) f.property f.operator f.value)
                  ++ [.project items]))) ∧
      (∀ c ∈ matchings, c.matching?.isSome = true) ∧
      (∀ p ∈ Query.nodePatterns matchings, ∃ n, lastNode? d.nodes n.id = some n ∧
        p.node = some n.id ∧
        p.write = writeNodePattern ((d.snapshot settings).nodeName n.id)
          (if n.id = primary.id then none else n.label.filter (· ≠ ""))) ∧
      Query.limits (compileQuery settings d)
        = [.handOff [(d.snapshot settings).nodeName primary.id] (some (Text.trim d.limit))]) ∧
    (¬ d.LimitsNodes → ∃ front items,
      compileQuery settings d
        = front ++ .project items ::
          (if Text.trim d.limit = "" then [] else [.limit (Text.trim d.limit)]) ∧
      Query.limits front = []) := by
  have hs : (d.snapshot settings).EndsDrawn := Snapshot.endsDrawn settings d
  refine ⟨⟨fun ⟨primary, limit, hshape⟩ => ?_, fun h => ?_⟩, fun h => ?_, fun h => ?_⟩
  -- when nodes are counted, the query then, and the query otherwise
  · by_contra h
    rw [Diagram.limitShape_of_not_limitsNodes h] at hshape
    cases hshape
  · obtain ⟨primary, -, hshape⟩ := Diagram.limitShape_of_limitsNodes h settings
    exact ⟨primary, _, hshape⟩
  · obtain ⟨primary, hprimary, hshape⟩ := Diagram.limitShape_of_limitsNodes h settings
    have hquery : compileQuery settings d
        = (d.snapshot settings).nodesQuery primary (Text.trim d.limit) := by
      rw [compileQuery, Snapshot.readQuery, hshape]
    refine ⟨primary, (d.snapshot settings).expansion primary,
      (d.snapshot settings).returnedItems ((d.snapshot settings).nodeName primary.id), hprimary, ?_,
      fun _ hc => Snapshot.isSome_matching?_of_mem_expansion hc,
      fun _ hp => Snapshot.write_of_mem_nodePatterns_expansion hs hp, ?_⟩
    · rw [hquery, Snapshot.nodesQuery_eq, Snapshot.filterClause_eq_ofPredicates,
        Snapshot.filterClause_eq_ofPredicates, Snapshot.map_predicate_own]
      rfl
    · rw [hquery]
      exact (Snapshot.nodesQuery_parts hs primary _).2.2.2
  · refine ⟨(d.snapshot settings).matchClauses ++ (d.snapshot settings).filterClause d.filters,
      (d.snapshot settings).returnedItems settings.fallback, ?_,
      Snapshot.limits_matchClauses_append hs d.filters⟩
    rw [compileQuery, Snapshot.readQuery, Diagram.limitShape_of_not_limitsNodes h]
    exact (d.snapshot settings).rowsQuery_eq

/-- Three nodes and a limit on nodes with blanks around it.  The first relationship is disabled, the
second one joins as an optional one, and the only leading one starts from the second node, which has
the middle one of three conditions. -/
def outing : Diagram where
  nodes := [⟨"1", some "City", "c"⟩, ⟨"2", some "Person", "p"⟩, ⟨"3", some "", "z"⟩]
  relationships :=
    [⟨"v", none, "3", "1", none, none, false⟩, ⟨"w", none, "1", "2", none, some .optional, true⟩,
      ⟨"x", some "SEES", "2", "3", none, some .leading, true⟩]
  conditions :=
    [.ofFilter "k" ⟨"3", "kind", "=", "park"⟩, .ofFilter "l" ⟨"2", "name", "=", "Ada"⟩,
      .ofFilter "m" ⟨"1", "name", "=", "Oslo"⟩]
  returnFields := []
  limit := " 2 "
  limitMode := .nodes

/-- `outing` without the relationships that take part. -/
def stayIn : Diagram :=
  { outing with relationships := outing.relationships.take 1 }

/-- The limit of `outing` counts its second node, and the one of `stayIn` counts rows. -/
theorem limit_shape_of_outing :
    outing.LimitsNodes ∧ ¬ stayIn.LimitsNodes ∧
      (∃ matchings items,
        compileQuery .default outing
          = .mandatoryMatch [.node ⟨some "2", "p", some "Person"⟩] ::
            .filter [.compare "p" "name" "=" "Ada"] :: .handOff ["p"] (some "2") :: (matchings
              ++ [.filter [.compare "z" "kind" "=" "park", .compare "c" "name" "=" "Oslo"],
                .project items]) ∧
        ∀ p ∈ Query.nodePatterns matchings, p.node = some "2" → p.write = "(p)".toList) ∧
      ∃ front items,
        compileQuery .default stayIn = front ++ [.project items, .limit "2"] ∧
        Query.limits front = [] := by
  have houting : outing.LimitsNodes := by decide
  have hstayIn : ¬ stayIn.LimitsNodes := by decide
  obtain ⟨primary, matchings, items, hprimary, hquery, -, hlabels, -⟩ :=
    (limit_takes_shape .default outing).2.1 houting
  obtain rfl : ⟨"2", some "Person", "p"⟩ = primary := Option.some.inj hprimary
  obtain ⟨front, items', hrows, hfront⟩ := (limit_takes_shape .default stayIn).2.2 hstayIn
  refine ⟨houting, hstayIn, ⟨matchings, items, hquery, fun p hp hid => ?_⟩, front, items', hrows,
    hfront⟩
  obtain ⟨n, -, hnode, hwrite⟩ := hlabels p hp
  have hcounted : n.id = "2" := Option.some.inj (hnode.symm.trans hid)
  rw [hwrite, if_pos hcounted, hcounted]
  rfl

/-- The clauses of the query of `outing` as they are written. -/
example : (compileQuery .default outing).map (fun c => String.ofList c.write)
    = ["MATCH (p:Person)", "WHERE p.name = \"Ada\"", "WITH p LIMIT 2", "MATCH (p)-[r2:SEES]->(z)",
      "OPTIONAL MATCH (c:City)-[r1]->(p)", "WHERE z.kind = \"park\" AND c.name = \"Oslo\"",
      "RETURN c, p, z"] := by
  decide +kernel

end GraphQuery
