import Mathlib.Data.List.Induction
import GraphQuery.Proofs.LimitShape

/-!
# Proofs — what a query returns

`Snapshot.askedItems` are the items that the return fields ask for as they stand, and
`Snapshot.referredItems` the names that relationships and conditions refer to, read off the diagram:
relationships in the order of the diagram, although a query matches them group by group.

Repetitions are dropped by the text of an item.  What is kept are the items that no equal one stands
before (`distinct_eq_firstOnes`), so that an item is only ever dropped for an earlier one.

A query returns in one clause, whatever its limit counts (`projections_compileQuery`), and **what it
returns is what the fields ask for, or else what the diagram refers to**
(`returned_items_by_priority`).
-/

namespace GraphQuery

/-! ### Items without repetitions -/

/-- The texts of a list that no equal text stands before. -/
def firstOnes (xs : List String) : List String :=
  (xs.zipIdx.filter fun (x, place) => x ∉ xs.take place).map (·.1)

/-- A text at the end of a list is kept if it is not in the list. -/
theorem distinct_concat (xs : List String) (x : String) :
    distinct (xs ++ [x]) = distinct xs ++ if x ∈ xs then [] else [x] := by
  induction xs with
  | nil => rfl
  | cons y ys ih =>
      rw [List.cons_append, distinct, distinct, ih, List.filter_append, List.cons_append]
      by_cases hys : x ∈ ys
      · rw [if_pos hys, if_pos (List.mem_cons_of_mem y hys)]
        rfl
      · by_cases hy : x = y <;> simp [hys, hy]

/-- A text at the end is kept if it has not come before. -/
theorem firstOnes_concat (xs : List String) (x : String) :
    firstOnes (xs ++ [x]) = firstOnes xs ++ if x ∈ xs then [] else [x] := by
  -- what stands before a text of `xs` is the same in both lists
  have hfront : ∀ p ∈ xs.zipIdx,
      decide (p.1 ∉ (xs ++ [x]).take p.2) = decide (p.1 ∉ xs.take p.2) := by
    intro p hp
    rw [List.take_append_of_le_length (Nat.le_of_lt (List.snd_lt_of_mem_zipIdx hp))]
  have hend : (xs ++ [x]).take xs.length = xs := List.take_left
  rw [firstOnes, firstOnes, List.zipIdx_append, List.filter_append, List.map_append,
    List.filter_congr hfront]
  congr 1
  by_cases hx : x ∈ xs <;> simp [hx, hend]

/-- **What is kept of a list** are the texts that no equal text stands before. -/
theorem distinct_eq_firstOnes (xs : List String) : distinct xs = firstOnes xs := by
  induction xs using List.reverseRecOn with
  | nil => rfl
  | append_singleton xs x ih => rw [distinct_concat, firstOnes_concat, ih]

theorem firstOnes_eq_nil_iff {xs : List String} : firstOnes xs = [] ↔ xs = [] := by
  rw [← distinct_eq_firstOnes]
  cases xs with
  | nil => rfl
  | cons x xs => exact iff_of_false (List.cons_ne_nil _ _) (List.cons_ne_nil _ _)

/-! ### What is asked for and what is referred to -/

namespace Snapshot

variable {s : Snapshot}

/-- What the return fields ask for, in order: for each one that is not blank the name of the node at
its position, or its trimmed text if it is no position. -/
def askedItems (s : Snapshot) : List String :=
  ((s.diagram.returnFields.map Text.trim).filter (· ≠ "")).map fun field =>
    ((position? field s.diagram.nodes.length).bind (s.nodeNames[·]?)).getD field

/-- What the diagram refers to, in order: the names of the two ends of each relationship that takes
part, and then the names of the nodes that conditions are on. -/
def referredItems (s : Snapshot) : List String :=
  ((s.diagram.relationships.filter s.diagram.takesPart).flatMap (fun r => [r.source, r.target])
    ++ (s.diagram.filters.map (·.node)).filter s.diagram.hasNode).map s.nodeName

/-- Return fields are asked for once each, where they come first. -/
theorem explicitItems_eq (s : Snapshot) : s.explicitItems = firstOnes s.askedItems := by
  have hitem : ∀ field, s.itemText (.ofField s.diagram.nodes field)
      = ((position? field s.diagram.nodes.length).bind (s.nodeNames[·]?)).getD field := by
    intro field
    simp only [ReturnItem.ofField, nodeNames, List.getElem?_map]
    cases position? field s.diagram.nodes.length with
    | none => rfl
    | some place =>
        simp only [Option.bind_some]
        cases s.diagram.nodes[place]? <;> rfl
  rw [explicitItems, distinct_eq_firstOnes, Diagram.returnItems, List.map_map]
  exact congrArg firstOnes (List.map_congr_left fun field _ => hitem field)

/-- Names are referred to once each, where they come first. -/
theorem referencedNames_eq (d : Diagram) (settings : Settings) :
    (d.snapshot settings).referencedNames = firstOnes (d.snapshot settings).referredItems := by
  have hends : d.activeRelationships.flatMap (fun a =>
        [(d.snapshot settings).nodeName a.relationship.source,
          (d.snapshot settings).nodeName a.relationship.target])
      = ((d.relationships.filter d.takesPart).flatMap fun r => [r.source, r.target]).map
          (d.snapshot settings).nodeName := by
    rw [← d.map_relationship_activeRelationships, List.flatMap_map, List.map_flatMap]
    rfl
  have hfilters : (d.filters.filter fun f => d.hasNode f.node).map
        (fun f => (d.snapshot settings).nodeName f.node)
      = ((d.filters.map (·.node)).filter d.hasNode).map (d.snapshot settings).nodeName := by
    rw [List.filter_map, List.map_map]
    rfl
  rw [referencedNames, distinct_eq_firstOnes, referredItems, List.map_append]
  exact congrArg₂ (fun ends filters => firstOnes (ends ++ filters)) hends hfilters

/-- Something is asked for if some return field is not blank. -/
theorem askedItems_ne_nil_iff :
    s.askedItems ≠ [] ↔ ∃ field ∈ s.diagram.returnFields, Text.trim field ≠ "" := by
  simp [askedItems]

/-- A limit that counts nodes has a relationship to refer to. -/
theorem referredItems_ne_nil {settings : Settings} {d : Diagram} (h : d.LimitsNodes) :
    (d.snapshot settings).referredItems ≠ [] := by
  obtain ⟨-, -, r, hr, hpart⟩ := h
  have hsource : r.source ∈ (d.relationships.filter d.takesPart).flatMap fun r =>
      [r.source, r.target] :=
    List.mem_flatMap.mpr ⟨r, List.mem_filter.mpr ⟨hr, hpart⟩, List.mem_cons_self ..⟩
  exact List.ne_nil_of_mem (List.mem_map_of_mem (List.mem_append_left _ hsource))

/-! ### What is returned -/

/-- No item is returned twice. -/
theorem nodup_returnedItems (s : Snapshot) (fallback : String) :
    (s.returnedItems fallback).Nodup := by
  rw [returnedItems]
  split
  · exact nodup_distinct _
  · split
    · exact nodup_distinct _
    · exact List.nodup_singleton fallback

/-- Return fields go before everything else. -/
theorem returnedItems_of_asked {fallback : String} (h : s.askedItems ≠ []) :
    s.returnedItems fallback = firstOnes s.askedItems := by
  rw [returnedItems, explicitItems_eq, if_pos (mt firstOnes_eq_nil_iff.mp h)]

theorem returnedItems_of_referred {settings : Settings} {d : Diagram} {fallback : String}
    (hasked : (d.snapshot settings).askedItems = [])
    (h : (d.snapshot settings).referredItems ≠ []) :
    (d.snapshot settings).returnedItems fallback
      = firstOnes (d.snapshot settings).referredItems := by
  rw [returnedItems, explicitItems_eq, hasked, referencedNames_eq, if_neg (fun hne => hne rfl),
    if_pos (mt firstOnes_eq_nil_iff.mp h)]

/-- What nothing asks for or refers to is the fallback. -/
theorem returnedItems_of_nil {settings : Settings} {d : Diagram} {fallback : String}
    (hasked : (d.snapshot settings).askedItems = [])
    (h : (d.snapshot settings).referredItems = []) :
    (d.snapshot settings).returnedItems fallback = [fallback] := by
  rw [returnedItems, explicitItems_eq, hasked, referencedNames_eq, h, if_neg (fun hne => hne rfl),
    if_neg (fun hne => hne rfl)]

/-! ### The clause that returns -/

theorem projections_rowsQuery (hs : s.EndsDrawn) (limit : Option String) :
    Query.projections (s.rowsQuery limit) = [s.returnedItems s.settings.fallback] := by
  have hlimit : Query.projections (limit.map Clause.limit).toList = [] := by cases limit <;> rfl
  rw [rowsQuery, Query.projections_append, Query.projections_append, Query.projections_append,
    (parts_of_matches fun _ hc => matches_matchClauses hs hc).2.1,
    (s.parts_of_filterClause s.diagram.filters).2.1, hlimit]
  rfl

end Snapshot

/-- **A query returns in one clause.**  A limit on nodes falls back on the name of the node that it
counts, any other query on the name that the settings give. -/
theorem projections_compileQuery (settings : Settings) (d : Diagram) :
    ∃ fallback, (compileQuery settings d).projections
        = [(d.snapshot settings).returnedItems fallback] ∧
      (¬ d.LimitsNodes → fallback = settings.fallback) := by
  have hs : (d.snapshot settings).EndsDrawn := Snapshot.endsDrawn settings d
  rw [compileQuery, Snapshot.readQuery]
  by_cases h : d.LimitsNodes
  · obtain ⟨primary, -, hshape⟩ := Diagram.limitShape_of_limitsNodes h settings
    rw [hshape]
    exact ⟨_, (Snapshot.nodesQuery_parts hs primary _).2.2.1, fun hnot => absurd h hnot⟩
  · rw [Diagram.limitShape_of_not_limitsNodes h]
    exact ⟨_, Snapshot.projections_rowsQuery hs _, fun _ => rfl⟩

/-- **What is asked for comes first, then what is referred to.**  A query has one clause that
returns items.  There is at least one item, and no item is there twice.

* If some return field is not blank, the items are what the fields ask for.
* If all of them are blank, the items are what relationships and conditions refer to, if they refer
  to anything.  They do if the limit counts nodes.
* If there is nothing to refer to either, the fallback name of the settings is the only item.

Of equal items the first one is kept. -/
theorem returned_items_by_priority (settings : Settings) (d : Diagram) :
    ∃ items, (compileQuery settings d).projections = [items] ∧ items ≠ [] ∧ items.Nodup ∧
      ((∃ field ∈ d.returnFields, Text.trim field ≠ "") →
        items = firstOnes (d.snapshot settings).askedItems) ∧
      ((∀ field ∈ d.returnFields, Text.trim field = "") →
        (d.snapshot settings).referredItems ≠ [] →
        items = firstOnes (d.snapshot settings).referredItems) ∧
      ((∀ field ∈ d.returnFields, Text.trim field = "") →
        (d.snapshot settings).referredItems = [] → items = [settings.fallback]) ∧
      (d.LimitsNodes → (d.snapshot settings).referredItems ≠ []) := by
  obtain ⟨fallback, hquery, hfallback⟩ := projections_compileQuery settings d
  have hreferred : d.LimitsNodes → (d.snapshot settings).referredItems ≠ [] :=
    Snapshot.referredItems_ne_nil
  refine ⟨_, hquery, Snapshot.returnedItems_ne_nil _ _, Snapshot.nodup_returnedItems _ _,
    fun hasked => ?asked, fun hblank hne => ?referred, fun hblank hnil => ?fallback, hreferred⟩
  case asked => exact Snapshot.returnedItems_of_asked (Snapshot.askedItems_ne_nil_iff.mpr hasked)
  all_goals
    have hnone : (d.snapshot settings).askedItems = [] := by
      by_contra hasked
      obtain ⟨field, hfield, htrim⟩ := Snapshot.askedItems_ne_nil_iff.mp hasked
      exact htrim (hblank field hfield)
  case referred => exact Snapshot.returnedItems_of_referred hnone hne
  case fallback =>
    rw [Snapshot.returnedItems_of_nil hnone hnil, hfallback fun h => hreferred h hnil]

/-- Three nodes, of which two ask for the same name, and a limit on nodes.  The first relationship
joins as an optional one.  A return field spells the name that is settled for the first node, and
two others are positions, one with blanks around it and one with a plus sign. -/
def wishes : Diagram where
  nodes := [⟨"1", none, "a"⟩, ⟨"2", none, "c"⟩, ⟨"3", none, "a"⟩]
  relationships :=
    [⟨"x", none, "2", "3", none, some .optional, true⟩, ⟨"y", none, "1", "2", none, none, true⟩]
  conditions := [.ofFilter "k" ⟨"3", "age", ">", "5"⟩, .ofFilter "l" ⟨"4", "age", ">", "5"⟩]
  returnFields := ["", "b", " 2 ", "c.age", "+0", "3"]
  limit := "2"
  limitMode := .nodes

/-- What the fields of `wishes` ask for, what it refers to without them, and what the empty diagram
returns. -/
theorem returned_items_of_wishes :
    (∃ field ∈ wishes.returnFields, Text.trim field ≠ "") ∧ wishes.LimitsNodes ∧
      (compileQuery .default wishes).projections = [["b", "a", "c.age", "3"]] ∧
      (compileQuery .default { wishes with returnFields := ["", " "] }).projections
        = [["c", "a", "b"]] ∧
      (compileQuery .default .empty).projections = [["n"]] := by
  have hfield : ∃ field ∈ wishes.returnFields, Text.trim field ≠ "" := by decide
  obtain ⟨items, hasked, -, -, hitems, -⟩ := returned_items_by_priority .default wishes
  obtain ⟨items', hreferred, -, -, -, hitems', -⟩ :=
    returned_items_by_priority .default { wishes with returnFields := ["", " "] }
  obtain ⟨items'', hempty, -, -, -, -, hitems'', -⟩ := returned_items_by_priority .default .empty
  refine ⟨hfield, by decide, ?_, ?_, ?_⟩
  · rw [hasked, hitems hfield]
    decide
  · rw [hreferred, hitems' (by decide) (by decide)]
    decide
  · rw [hempty, hitems'' (by decide) (by decide)]
    decide

end GraphQuery
