import GraphQuery.Proofs.Clauses
import GraphQuery.Proofs.RowsScope

/-!
# Proofs — the scope of queries that limit nodes

A query that limits nodes hands on nothing but the node that it counts, and the matches behind that
bring in the names of the active relationships and of their ends (`mem_scopeAfter_expansion`).
Other nodes are not matched at all, although conditions on them are rendered and their positions may
be return fields.

**What a query that limits nodes finds in scope** (`names_in_scope_of_nodes`).  Up to the last match
it finds everything.  Behind that it finds what it uses exactly if the conditions on known nodes and
the positional return fields are on nodes whose names are in that scope.  So not every such query
finds its names (`stray_node_out_of_scope`).
-/

namespace GraphQuery

/-- Whatever the operator and the value, a comparison is of the node with the given name. -/
theorem Predicate.name_compare (name property operator value : String) :
    (Predicate.compare name property operator value).name = name := by
  rw [Predicate.compare]
  split <;> rfl

namespace Snapshot

variable {s : Snapshot} {owed : String → Prop}

/-- The clauses of a query that limits nodes, up to the last match. -/
def limitedMatch (s : Snapshot) (primary : Node) (limit : String) : Query :=
  s.primaryMatch primary :: (s.filterClause (s.diagram.filters.filter (·.node = primary.id))
    ++ .handOff [s.nodeName primary.id] (some limit) :: s.expansion primary)

theorem nodesQuery_eq_limitedMatch (s : Snapshot) (primary : Node) (limit : String) :
    s.nodesQuery primary limit
      = s.limitedMatch primary limit
        ++ (s.filterClause (s.diagram.filters.filter (·.node ≠ primary.id))
          ++ [.project (s.returnedItems (s.nodeName primary.id))]) := by
  rw [nodesQuery_eq, limitedMatch]
  simp only [List.cons_append, List.append_assoc]

/-- A name that is bound once a query has matched what it limits: the one of the node that it
counts, of an active relationship, or of an end of one. -/
def BindsFrom (s : Snapshot) (primary : Node) (x : String) : Prop :=
  x = s.nodeName primary.id ∨ ∃ a ∈ s.active, x ∈ s.namesOf a.relationship

/-! ### The scope -/

/-- Matches of one pattern each bind the names of all of them. -/
theorem scopeAfter_map_singleton {α : Type} {match_ : List Pattern → Clause}
    (hmatch : ∀ scope patterns,
      (match_ patterns).scopeAfter scope = scope ++ patterns.flatMap Pattern.names)
    (pattern : α → Pattern) :
    ∀ (xs : List α) (scope : List String),
      scopeAfter scope (xs.map fun x => match_ [pattern x])
        = scope ++ xs.flatMap fun x => (pattern x).names
  | [], scope => (List.append_nil _).symm
  | x :: xs, scope => by
      rw [List.map_cons, scopeAfter_cons, hmatch, List.flatMap_singleton,
        scopeAfter_map_singleton hmatch pattern xs, List.flatMap_cons, List.append_assoc]

/-- The matches behind the hand-off bind the names of every active relationship and of its ends,
however the relationship joins the query. -/
theorem mem_scopeAfter_expansion {scope : List String} {primary : Node} {x : String} :
    x ∈ scopeAfter scope (s.expansion primary) ↔
      x ∈ scope ∨ ∃ a ∈ s.active, x ∈ s.namesOf a.relationship := by
  have hnames : ∀ r, (s.patternExcept primary.id r).names = s.namesOf r := fun _ => rfl
  rw [expansion, scopeAfter_append, scopeAfter_append, scopeAfter_matchClause, List.flatMap_map,
    scopeAfter_map_singleton fun _ _ => rfl, scopeAfter_map_singleton fun _ _ => rfl]
  simp only [hnames, List.mem_append, List.mem_flatMap, mem_joining, or_assoc]
  refine or_congr_right ⟨?_, ?_⟩
  · rintro (⟨r, ⟨a, ha, -, rfl⟩, hx⟩ | ⟨r, ⟨a, ha, -, rfl⟩, hx⟩ | ⟨r, ⟨a, ha, -, rfl⟩, hx⟩)
    · exact ⟨a, ha, hx⟩
    · exact ⟨a, ha, hx⟩
    · exact ⟨a, ha, hx⟩
  · rintro ⟨a, ha, hx⟩
    cases hm : a.matchType with
    | leading => exact .inl ⟨_, ⟨a, ha, hm, rfl⟩, hx⟩
    | chained => exact .inr (.inl ⟨_, ⟨a, ha, hm, rfl⟩, hx⟩)
    | optional => exact .inr (.inr ⟨_, ⟨a, ha, hm, rfl⟩, hx⟩)

/-- **The scope behind the last match** of a query that limits nodes. -/
theorem mem_scopeAfter_limitedMatch {primary : Node} {limit : String} {x : String} :
    x ∈ scopeAfter [] (s.limitedMatch primary limit) ↔ s.BindsFrom primary x := by
  rw [limitedMatch, scopeAfter_cons, scopeAfter_append, scopeAfter_cons, mem_scopeAfter_expansion,
    Clause.scopeAfter, List.mem_singleton]
  rfl

/-! ### What the clauses find -/

/-- Filters on one node find their names where its name is in scope. -/
theorem everywhere_own {primary : Node} {scope : List String}
    (hprimary : s.nodeName primary.id ∈ scope) :
    Everywhere (s.FindsNames owed) scope
      (s.filterClause (s.diagram.filters.filter (·.node = primary.id))) := by
  cases hown : s.diagram.filters.filter (·.node = primary.id) with
  | nil => trivial
  | cons g gs =>
      refine ⟨fun f _ _ hf => ?_, trivial⟩
      obtain ⟨h, hh, hpredicate⟩ := List.mem_map.mp hf
      rw [← hown, List.mem_filter, decide_eq_true_eq] at hh
      -- a filter on another node may read the same, but then its node has the same name
      have hname : s.nodeName h.node = s.nodeName f.node := by
        simpa only [predicate, Predicate.name_compare] using congrArg Predicate.name hpredicate
      rw [← hname, hh.2]
      exact hprimary

theorem everywhere_expansion {primary : Node} {scope : List String} :
    Everywhere (s.FindsNames owed) scope (s.expansion primary) := by
  rw [expansion, everywhere_append, everywhere_append]
  refine ⟨⟨everywhere_matchClause _, everywhere_of_forall fun c hc scope => ?_⟩,
    everywhere_of_forall fun c hc scope => ?_⟩
  · obtain ⟨r, -, rfl⟩ := List.mem_map.mp hc
    trivial
  · obtain ⟨r, -, rfl⟩ := List.mem_map.mp hc
    trivial

/-- Up to the last match everything is found. -/
theorem everywhere_limitedMatch {primary : Node} {limit : String} :
    Everywhere (s.FindsNames owed) [] (s.limitedMatch primary limit) := by
  rw [limitedMatch, Everywhere, everywhere_append, scopeAfter_filterClause]
  exact ⟨trivial, everywhere_own (List.mem_singleton_self _), List.Subset.refl _,
    everywhere_expansion⟩

/-- The filters behind the last match find their names exactly if those on known nodes do. -/
theorem everywhere_others_iff {primary : Node} {scope : List String}
    (hprimary : s.nodeName primary.id ∈ scope) :
    Everywhere (s.FindsNames owed) scope
        (s.filterClause (s.diagram.filters.filter (·.node ≠ primary.id))) ↔
      ∀ f ∈ s.diagram.filters, s.diagram.hasNode f.node → s.nodeName f.node ∈ scope := by
  constructor
  · intro h f hf hnode
    by_cases hown : f.node = primary.id
    · rw [hown]
      exact hprimary
    · have hother : f ∈ s.diagram.filters.filter (·.node ≠ primary.id) :=
        List.mem_filter.mpr ⟨hf, decide_eq_true hown⟩
      cases hothers : s.diagram.filters.filter (·.node ≠ primary.id) with
      | nil => rw [hothers] at hother; cases hother
      | cons g gs =>
          rw [hothers] at h hother
          exact h.1 f hf hnode (List.mem_map_of_mem hother)
  · exact everywhere_filterClause _

/-- A name of a node that is returned by its position is one of the items. -/
theorem nodeName_mem_returnedItems {n : Node} (h : .node n ∈ s.diagram.returnItems)
    (fallback : String) : s.nodeName n.id ∈ s.returnedItems fallback := by
  have hmem : s.nodeName n.id ∈ s.explicitItems :=
    mem_distinct.mpr (List.mem_map.mpr ⟨.node n, h, rfl⟩)
  rw [returnedItems, if_pos (List.ne_nil_of_mem hmem)]
  exact hmem

/-- The items that name nodes are found exactly if the nodes at positions are, given that the
conditions find theirs. -/
theorem findsNames_project_iff {primary : Node} {scope : List String}
    (hscope : ∀ x, x ∈ scope ↔ s.BindsFrom primary x)
    (hfilters : ∀ f ∈ s.diagram.filters, s.diagram.hasNode f.node → s.nodeName f.node ∈ scope)
    (fallback : String) :
    s.FindsNames s.NamesNode scope (.project (s.returnedItems fallback)) ↔
      ∀ n, .node n ∈ s.diagram.returnItems → s.nodeName n.id ∈ scope := by
  constructor
  · exact fun h n hn => h _ (nodeName_mem_returnedItems hn fallback) (.inl ⟨n, hn, rfl⟩)
  · rintro h x - (⟨n, hn, rfl⟩ | ⟨-, hx⟩)
    · exact h n hn
    · rw [referencedNames, mem_distinct, List.mem_append] at hx
      rcases hx with hx | hx
      · -- both ends of an active relationship are matched
        obtain ⟨a, ha, hx⟩ := List.mem_flatMap.mp hx
        refine (hscope x).mpr (.inr ⟨a, ha, ?_⟩)
        simp only [namesOf, List.mem_cons, List.not_mem_nil, or_false] at hx ⊢
        exact hx.imp_right .inr
      · obtain ⟨f, hf, rfl⟩ := List.mem_map.mp hx
        exact hfilters f (List.mem_filter.mp hf).1 (List.mem_filter.mp hf).2

end Snapshot

/-- **What a query that limits nodes finds in scope.**  Behind its last match the names in scope are
those of the node that it counts, of the active relationships and of their ends, and nothing else.
Up to there the query finds all names that it uses.  The filters behind the last match and the items
that name nodes find theirs exactly if every condition on a known node, and every return field at a
position, is on a node with a name in that scope. -/
theorem names_in_scope_of_nodes (settings : Settings) (d : Diagram) {primary : Node}
    {limit : String} (hshape : (d.snapshot settings).limitShape = .nodes primary limit) :
    (∃ items, compileQuery settings d =
      (d.snapshot settings).limitedMatch primary limit
        ++ ((d.snapshot settings).filterClause (d.filters.filter (·.node ≠ primary.id))
          ++ [.project items])) ∧
    (∀ x, x ∈ scopeAfter [] ((d.snapshot settings).limitedMatch primary limit) ↔
      (d.snapshot settings).BindsFrom primary x) ∧
    Everywhere ((d.snapshot settings).FindsNames (d.snapshot settings).NamesNode) []
      ((d.snapshot settings).limitedMatch primary limit) ∧
    (Everywhere ((d.snapshot settings).FindsNames (d.snapshot settings).NamesNode) []
        (compileQuery settings d) ↔
      (∀ f ∈ d.filters, d.hasNode f.node →
        (d.snapshot settings).BindsFrom primary ((d.snapshot settings).nodeName f.node)) ∧
      ∀ n, .node n ∈ d.returnItems →
        (d.snapshot settings).BindsFrom primary ((d.snapshot settings).nodeName n.id)) := by
  have hquery : compileQuery settings d = (d.snapshot settings).nodesQuery primary limit := by
    rw [compileQuery, Snapshot.readQuery, hshape]
  have hscope : ∀ x, x ∈ scopeAfter [] ((d.snapshot settings).limitedMatch primary limit) ↔
      (d.snapshot settings).BindsFrom primary x :=
    fun x => Snapshot.mem_scopeAfter_limitedMatch
  have hprimary : (d.snapshot settings).nodeName primary.id ∈
      scopeAfter [] ((d.snapshot settings).limitedMatch primary limit) :=
    (hscope _).mpr (.inl rfl)
  rw [Snapshot.nodesQuery_eq_limitedMatch] at hquery
  refine ⟨⟨_, hquery⟩, hscope, Snapshot.everywhere_limitedMatch, ?_⟩
  simp only [hquery, ← hscope]
  rw [everywhere_append, everywhere_append, everywhere_singleton, Snapshot.scopeAfter_filterClause,
    Snapshot.everywhere_others_iff hprimary, and_iff_right Snapshot.everywhere_limitedMatch]
  exact and_congr_right fun hfilters => Snapshot.findsNames_project_iff hscope hfilters _

/-- A limit on nodes, a relationship between the first two of three nodes, and nothing at the third.
The condition is on the node with the given id. -/
def bystander (id : String) (fields : List String) : Diagram where
  nodes := [⟨"1", some "Person", "p"⟩, ⟨"2", none, "c"⟩, ⟨"3", none, "z"⟩]
  relationships := [.ofEnds "x" "1" "2" none]
  conditions := [.ofFilter "k" ⟨id, "age", ">", "5"⟩]
  returnFields := fields
  limit := "3"
  limitMode := .nodes

/-- Where the condition and the return field of `bystander` leave out the third node, every name is
found. -/
theorem names_in_scope_of_bystander :
    ((bystander "2" ["1"]).snapshot .default).limitShape
        = .nodes ⟨"1", some "Person", "p"⟩ "3" ∧
      "r1" ∈ scopeAfter []
        (((bystander "2" ["1"]).snapshot .default).limitedMatch ⟨"1", some "Person", "p"⟩ "3") ∧
      Everywhere (((bystander "2" ["1"]).snapshot .default).FindsNames
        ((bystander "2" ["1"]).snapshot .default).NamesNode) []
        (compileQuery .default (bystander "2" ["1"])) := by
  have hshape : ((bystander "2" ["1"]).snapshot .default).limitShape
      = .nodes ⟨"1", some "Person", "p"⟩ "3" := by decide
  have hbinds : ((bystander "2" ["1"]).snapshot .default).BindsFrom
      ⟨"1", some "Person", "p"⟩ (((bystander "2" ["1"]).snapshot .default).nodeName "2") :=
    .inr ⟨⟨0, .ofEnds "x" "1" "2" none⟩, by decide, by decide⟩
  obtain ⟨-, hscope, -, hfinds⟩ := names_in_scope_of_nodes .default (bystander "2" ["1"]) hshape
  refine ⟨hshape, (hscope "r1").mpr (.inr ⟨⟨0, .ofEnds "x" "1" "2" none⟩, by decide, by decide⟩),
    hfinds.mpr ⟨fun f hf _ => ?_, fun n hn => ?_⟩⟩
  · have hall : ∀ f ∈ (bystander "2" ["1"]).filters, f.node = "2" := by decide
    rw [hall f hf]
    exact hbinds
  · have hitems : (bystander "2" ["1"]).returnItems = [.node ⟨"2", none, "c"⟩] := by decide
    rw [hitems, List.mem_singleton] at hn
    cases hn
    exact hbinds

/-- **Not every query that limits nodes finds its names.**  A condition on the third node of
`bystander` compares a name that is not in scope, which is returned as well; and so is the name of
that node if its position is a return field. -/
theorem stray_node_out_of_scope :
    (∃ primary limit,
      ((bystander "3" []).snapshot .default).limitShape = .nodes primary limit ∧
      compileQuery .default (bystander "3" []) =
        ((bystander "3" []).snapshot .default).limitedMatch primary limit
          ++ [.filter [.compare "z" "age" ">" "5"], .project ["p", "c", "z"]] ∧
      scopeAfter [] (((bystander "3" []).snapshot .default).limitedMatch primary limit)
        = ["p", "p", "r1", "c"]) ∧
    ¬ Everywhere (((bystander "3" []).snapshot .default).FindsNames
        ((bystander "3" []).snapshot .default).NamesNode) []
        (compileQuery .default (bystander "3" [])) ∧
    ¬ Everywhere (((bystander "2" ["2"]).snapshot .default).FindsNames
        ((bystander "2" ["2"]).snapshot .default).NamesNode) []
        (compileQuery .default (bystander "2" ["2"])) := by
  refine ⟨⟨⟨"1", some "Person", "p"⟩, "3", by decide, rfl, by decide⟩, fun h => ?_, fun h => ?_⟩
  · obtain ⟨-, -, -, hfilter, -⟩ := h
    have hz := hfilter ⟨"3", "age", ">", "5"⟩ (by decide) (by decide) (List.mem_singleton_self _)
    exact absurd hz (by decide)
  · obtain ⟨-, -, -, -, hproject, -⟩ := h
    have hz := hproject "z" (by decide) (.inl ⟨⟨"3", none, "z"⟩, by decide, by decide⟩)
    exact absurd hz (by decide)

end GraphQuery
