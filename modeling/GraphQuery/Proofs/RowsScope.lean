import GraphQuery.Proofs.Scope

/-!
# Proofs — the scope of queries that limit rows

Behind the match clauses of a diagram with nodes, the names in scope are those of all its nodes
and of all active relationships (`mem_scopeAfter_matchClauses`), because the hand-off to the
optional match lists every name that is in scope there.

**Everything that such a query and an update use is in scope** (`names_in_scope_of_rows`).
-/

namespace GraphQuery

namespace Snapshot

variable {s : Snapshot}

/-- Behind the match clauses of a query with relationships, the names of the relationships of each
kind, of their ends and of the loose nodes are in scope. -/
theorem mem_scopeAfter_connectedMatch {x : String} :
    x ∈ scopeAfter [] s.connectedMatch ↔
      (∃ a ∈ s.active, x ∈ s.namesOf a.relationship) ∨
        ∃ n ∈ s.looseNodes, x = s.nodeName n.id := by
  simp only [connectedMatch]
  rw [scopeAfter_append, scopeAfter_append, scopeAfter_matchClause, List.flatMap_append,
    flatMap_names_patternsAfter, flatMap_names_nodesAfter, List.nil_append, scopeAfter_chained,
    List.mem_append, mem_scopeAfter_optionalClauses fun _ => mem_leadingNames,
    flatMap_names_patternsAfter, flatMap_names_patternsAfter]
  simp only [List.mem_append, List.mem_flatMap, List.mem_map, mem_joining]
  constructor
  · rintro (((⟨r, ⟨a, ha, -, rfl⟩, hx⟩ | ⟨n, hn, rfl⟩) | ⟨r, ⟨a, ha, -, rfl⟩, hx⟩) |
      ⟨r, ⟨a, ha, -, rfl⟩, hx⟩)
    · exact .inl ⟨a, ha, hx⟩
    · exact .inr ⟨n, hn, rfl⟩
    · exact .inl ⟨a, ha, hx⟩
    · exact .inl ⟨a, ha, hx⟩
  · rintro (⟨a, ha, hx⟩ | ⟨n, hn, rfl⟩)
    -- each way of joining has its own place among the clauses
    · cases hm : a.matchType with
      | leading => exact .inl (.inl (.inl ⟨_, ⟨a, ha, hm, rfl⟩, hx⟩))
      | optional => exact .inl (.inr ⟨_, ⟨a, ha, hm, rfl⟩, hx⟩)
      | chained => exact .inr ⟨_, ⟨a, ha, hm, rfl⟩, hx⟩
    · exact .inl (.inl (.inr ⟨n, hn, rfl⟩))

/-- A node that is not loose is an end of an active relationship. -/
theorem exists_active_of_not_loose {n : Node} (hn : n ∈ s.diagram.nodes)
    (hloose : n ∉ s.looseNodes) :
    ∃ a ∈ s.active, a.relationship.source = n.id ∨ a.relationship.target = n.id := by
  cases hm : s.isMatched n.id with
  | false => exact absurd (mem_looseNodes.mpr ⟨hn, hm⟩) hloose
  | true =>
      obtain ⟨r, hr, hend⟩ := isMatched_iff.mp hm
      rcases List.mem_append.mp hr with hr | hr <;> obtain ⟨a, ha, -, rfl⟩ := mem_joining.mp hr
      · exact ⟨a, ha, hend⟩
      · exact ⟨a, ha, hend⟩

end Snapshot

variable {settings : Settings} {d : Diagram}

/-- **The scope behind the match clauses**: the names of all nodes and of all active
relationships. -/
theorem mem_scopeAfter_matchClauses (hd : d.nodes ≠ []) {x : String} :
    x ∈ scopeAfter [] (d.snapshot settings).matchClauses ↔ (d.snapshot settings).HasName x := by
  rw [Snapshot.matchClauses]
  split
  · rename_i hactive
    rw [Snapshot.HasName, List.isEmpty_iff.mp hactive, Snapshot.standaloneMatch]
    cases hnodes : (d.snapshot settings).diagram.nodes with
    | nil => exact absurd hnodes hd
    | cons n ns =>
        rw [scopeAfter_cons, scopeAfter_nil, Clause.scopeAfter, Snapshot.flatMap_names_nodesAfter]
        simp [eq_comm]
  · rw [Snapshot.mem_scopeAfter_connectedMatch]
    constructor
    · rintro (⟨a, ha, hx⟩ | ⟨n, hn, rfl⟩)
      · exact Snapshot.hasName_of_mem_namesOf (Snapshot.endsDrawn settings d) ha hx
      · exact .inl ⟨n, (Snapshot.mem_looseNodes.mp hn).1, rfl⟩
    · rintro (⟨n, hn, rfl⟩ | ⟨a, ha, rfl⟩)
      · by_cases hloose : n ∈ (d.snapshot settings).looseNodes
        · exact .inr ⟨n, hloose, rfl⟩
        · obtain ⟨a, ha, hend⟩ := Snapshot.exists_active_of_not_loose hn hloose
          refine .inl ⟨a, ha, ?_⟩
          rcases hend with hend | hend <;> simp [Snapshot.namesOf, hend]
      · exact .inl ⟨a, ha, by simp [Snapshot.namesOf]⟩

/-! ### What the clauses find -/

namespace Snapshot

variable {s : Snapshot} {owed : String → Prop}

theorem everywhere_matchClause {scope : List String} (patterns : List Pattern) :
    Everywhere (s.FindsNames owed) scope (matchClause patterns) := by
  cases patterns with
  | nil => trivial
  | cons p ps => exact ⟨trivial, trivial⟩

theorem everywhere_optionalClauses {scope names : List String} (h : names ⊆ scope)
    (ps : List RelationshipPattern) :
    Everywhere (s.FindsNames owed) scope (optionalClauses names ps) := by
  cases ps with
  | nil => trivial
  | cons p ps =>
      cases names with
      | nil => exact ⟨trivial, trivial⟩
      | cons name names => exact ⟨h, trivial, trivial⟩

/-- Every hand-off of the match clauses lists names in scope. -/
theorem everywhere_matchClauses : Everywhere (s.FindsNames owed) [] s.matchClauses := by
  rw [matchClauses]
  split
  · rw [standaloneMatch]
    split <;> exact ⟨trivial, trivial⟩
  · simp only [connectedMatch]
    rw [everywhere_append, everywhere_append]
    refine ⟨⟨everywhere_matchClause _, everywhere_optionalClauses (fun x hx => ?_) _⟩, ?_⟩
    · rw [scopeAfter_matchClause, List.flatMap_append, flatMap_names_patternsAfter,
        flatMap_names_nodesAfter]
      exact mem_leadingNames.mp hx
    · refine everywhere_of_forall fun c hc scope => ?_
      obtain ⟨p, -, rfl⟩ := List.mem_map.mp hc
      trivial

theorem everywhere_filterClause {scope : List String} (fs : List PropertyFilter)
    (h : ∀ f ∈ s.diagram.filters, s.diagram.hasNode f.node → s.nodeName f.node ∈ scope) :
    Everywhere (s.FindsNames owed) scope (s.filterClause fs) := by
  cases fs with
  | nil => trivial
  | cons g gs => exact ⟨fun f hf hnode _ => h f hf hnode, trivial⟩

theorem everywhere_assignClause {scope : List String} {target : String} (h : target ∈ scope)
    (values : List (String × Json.Value)) :
    Everywhere (s.FindsNames owed) scope (assignClause target values) := by
  cases values with
  | nil => trivial
  | cons v vs => exact ⟨h, trivial⟩

end Snapshot

/-- A name of a node is in scope behind the match clauses. -/
theorem nodeName_mem_scope (hd : d.nodes ≠ []) {id : String} (h : d.hasNode id = true) :
    (d.snapshot settings).nodeName id ∈ scopeAfter [] (d.snapshot settings).matchClauses := by
  exact (mem_scopeAfter_matchClauses hd).mpr (Snapshot.hasName_nodeName h)

theorem namesNode_mem_scope (hd : d.nodes ≠ []) {x : String}
    (h : (d.snapshot settings).NamesNode x) :
    x ∈ scopeAfter [] (d.snapshot settings).matchClauses := by
  rcases h with ⟨n, hn, rfl⟩ | ⟨-, hx⟩
  · exact nodeName_mem_scope hd
      (Diagram.hasNode_iff.mpr ⟨n, Diagram.mem_nodes_of_mem_returnItems hn, rfl⟩)
  · obtain ⟨id, hid, rfl⟩ := Snapshot.exists_hasNode_of_mem_referencedNames hx
    exact nodeName_mem_scope hd hid

/-- **Everything that a query that limits rows and an update use is in scope.**  Every hand-off of
the match clauses lists names in scope, and behind them the names of all nodes and of all active
relationships are in scope and nothing else.  So a read finds what it takes from filters on known
nodes and the items that name nodes, and an update finds its target. -/
theorem names_in_scope_of_rows (settings : Settings) (d : Diagram) (hd : d.nodes ≠ []) :
    Everywhere ((d.snapshot settings).FindsNames fun _ => True) []
      (d.snapshot settings).matchClauses ∧
    (∀ x, x ∈ scopeAfter [] (d.snapshot settings).matchClauses ↔
      (∃ n ∈ d.nodes, x = (d.snapshot settings).nodeName n.id) ∨
        ∃ a ∈ d.activeRelationships, x = (d.snapshot settings).relationshipName a.relationship) ∧
    (∀ limit, (d.snapshot settings).limitShape = .rows limit →
      Everywhere ((d.snapshot settings).FindsNames (d.snapshot settings).NamesNode) []
        (compileQuery settings d)) ∧
    ∀ target updates q, compileUpdateQuery settings d target updates = .ok q →
      Everywhere ((d.snapshot settings).FindsNames fun _ => True) [] q := by
  have hfilters : ∀ f ∈ (d.snapshot settings).diagram.filters,
      (d.snapshot settings).diagram.hasNode f.node →
        (d.snapshot settings).nodeName f.node ∈ scopeAfter [] (d.snapshot settings).matchClauses :=
    fun f _ hnode => nodeName_mem_scope hd hnode
  refine ⟨Snapshot.everywhere_matchClauses, fun x => mem_scopeAfter_matchClauses hd,
    fun limit hlimit => ?_, fun target updates q hq => ?_⟩
  · rw [compileQuery, Snapshot.readQuery, hlimit]
    simp only [Snapshot.rowsQuery, everywhere_append, everywhere_singleton, scopeAfter_append,
      Snapshot.scopeAfter_filterClause]
    refine ⟨⟨⟨Snapshot.everywhere_matchClauses, Snapshot.everywhere_filterClause _ hfilters⟩,
      fun x _ hx => namesNode_mem_scope hd hx⟩, everywhere_of_forall fun c hc scope => ?_⟩
    obtain ⟨count, -, rfl⟩ := Option.map_eq_some_iff.mp (Option.mem_toList.mp hc)
    trivial
  · obtain ⟨htarget, values, -, rfl⟩ := compileUpdateQuery_eq_ok.mp hq
    obtain ⟨n, hn, rfl⟩ := List.mem_map.mp htarget
    have hbound : (d.snapshot settings).nodeName n.id ∈
        scopeAfter [] (d.snapshot settings).matchClauses :=
      nodeName_mem_scope hd (Diagram.hasNode_iff.mpr ⟨n, hn, rfl⟩)
    simp only [Snapshot.updateQuery, everywhere_append, everywhere_singleton, scopeAfter_append,
      Snapshot.scopeAfter_filterClause, Snapshot.scopeAfter_assignClause]
    refine ⟨⟨⟨Snapshot.everywhere_matchClauses, Snapshot.everywhere_filterClause _ hfilters⟩,
      Snapshot.everywhere_assignClause hbound values⟩, fun x hx _ => ?_⟩
    rw [List.mem_singleton.mp hx]
    exact hbound

/-- Four nodes: an optional relationship between the first two, a chained one from the second to
the third, and the fourth on its own. -/
def detour : Diagram where
  nodes := [⟨"1", some "Person", "p"⟩, ⟨"2", none, "c"⟩, ⟨"3", none, "c"⟩, ⟨"4", none, "z"⟩]
  relationships :=
    [⟨"x", none, "1", "2", none, some .optional, true⟩,
      ⟨"y", none, "2", "3", none, some .chained, true⟩]
  conditions := [⟨"k", .property, some "3", some "age", some ">", some "5"⟩]
  returnFields := ["2"]
  limit := ""
  limitMode := .rows

theorem names_in_scope_of_detour :
    detour.nodes ≠ [] ∧
      "r2" ∈ scopeAfter [] (detour.snapshot .default).matchClauses ∧
      (detour.snapshot .default).limitShape = .rows none ∧
      Everywhere ((detour.snapshot .default).FindsNames (detour.snapshot .default).NamesNode) []
        (compileQuery .default detour) ∧
      ∃ q, compileUpdateQuery .default detour "d" [("seen", .ok (.bool true))] = .ok q ∧
        Everywhere ((detour.snapshot .default).FindsNames fun _ => True) [] q := by
  have hd : detour.nodes ≠ [] := by decide
  have hshape : (detour.snapshot .default).limitShape = .rows none := by decide
  obtain ⟨-, hscope, hread, hupdate⟩ := names_in_scope_of_rows .default detour hd
  exact ⟨hd, (hscope "r2").mpr (.inr ⟨⟨1, detour.relationships[1]⟩, by decide, by decide⟩), hshape,
    hread none hshape, _, rfl, hupdate "d" [("seen", .ok (.bool true))] _ rfl⟩

end GraphQuery
