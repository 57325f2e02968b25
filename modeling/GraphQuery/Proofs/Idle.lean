import Mathlib.Data.List.Forall2
import GraphQuery.Proofs.Clauses

/-!
# Proofs — what is left out has no influence

A disabled relationship, a relationship with an end that is no node and a condition that is not
filled in are left out of the query.  `Diagram.SameButIdle` relates diagrams that differ in such
parts only: disabled relationships and unfinished conditions are put in or taken out anywhere
(`Aligned`), and an enabled relationship with an end that is no node is replaced by another one.  It
has to be replaced, because the enabled relationships are counted before those without both ends are
left out.

The relationships that take part, with their places, and the filters are then the same
(`activeRelationships_eq`, `filters_eq`), and a query depends on nothing else
(`SameReading.readQuery_eq`, `SameReading.updateQuery_eq`).

**What is left out has no influence** (`idle_parts_have_no_influence`).
-/

namespace GraphQuery

/-! ### Lists that differ in places that do not count -/

/-- Two lists that are related element by element, once elements that are skipped have been put in
or taken out anywhere. -/
inductive Aligned {α : Type} (skip : α → Prop) (R : α → α → Prop) : List α → List α → Prop
  /-- Nothing is left in either. -/
  | nil : Aligned skip R [] []
  /-- Two elements stand for each other. -/
  | both {a b : α} {as bs : List α} (hab : R a b) (h : Aligned skip R as bs) :
      Aligned skip R (a :: as) (b :: bs)
  /-- An element is put in. -/
  | putIn {b : α} {as bs : List α} (hb : skip b) (h : Aligned skip R as bs) :
      Aligned skip R as (b :: bs)
  /-- An element is taken out. -/
  | takenOut {a : α} {as bs : List α} (ha : skip a) (h : Aligned skip R as bs) :
      Aligned skip R (a :: as) bs

namespace Aligned

variable {α β : Type} {skip : α → Prop} {R : α → α → Prop} {as bs : List α}

/-- The same elements may be put in front of both lists. -/
theorem append_left (hR : ∀ a, R a a) (h : Aligned skip R as bs) :
    ∀ before : List α, Aligned skip R (before ++ as) (before ++ bs)
  | [] => h
  | a :: before => .both (hR a) (append_left hR h before)

theorem refl (hR : ∀ a, R a a) (as : List α) : Aligned skip R as as := by
  have h : Aligned skip R (as ++ []) (as ++ []) := append_left hR .nil as
  rwa [List.append_nil] at h

/-- A filter that drops what is skipped leaves lists that are related element by element. -/
theorem forall₂_filter {p : α → Bool} (hskip : ∀ a, skip a → p a = false)
    (hR : ∀ a b, R a b → p a = p b) (h : Aligned skip R as bs) :
    List.Forall₂ R (as.filter p) (bs.filter p) := by
  induction h with
  | nil => exact .nil
  | @both a b as bs hab _ ih =>
      rw [List.filter_cons, List.filter_cons, ← hR a b hab]
      split
      · exact .cons hab ih
      · exact ih
  | @putIn b as bs hb _ ih => rwa [List.filter_cons, hskip b hb]
  | @takenOut a as bs ha _ ih => rwa [List.filter_cons, hskip a ha]

/-- What is made of the elements is the same if nothing is made of those that are skipped. -/
theorem filterMap_eq {f : α → Option β} (hskip : ∀ a, skip a → f a = none)
    (hR : ∀ a b, R a b → f a = f b) (h : Aligned skip R as bs) :
    as.filterMap f = bs.filterMap f := by
  induction h with
  | nil => rfl
  | @both a b as bs hab _ ih => rw [List.filterMap_cons, List.filterMap_cons, hR a b hab, ih]
  | @putIn b as bs hb _ ih => rw [List.filterMap_cons, hskip b hb, ih]
  | @takenOut a as bs ha _ ih => rw [List.filterMap_cons, hskip a ha, ih]

end Aligned

/-! ### What is left out -/

/-- One end of the relationship is none of these nodes. -/
def Relationship.Dangling (nodes : List Node) (r : Relationship) : Prop :=
  r.source ∉ nodes.map (·.id) ∨ r.target ∉ nodes.map (·.id)

/-- The same relationship, or two that are enabled and have both an end that is none of these
nodes. -/
def Relationship.SameOrDangling (nodes : List Node) (r r' : Relationship) : Prop :=
  r = r' ∨ r.enabled = true ∧ r'.enabled = true ∧ r.Dangling nodes ∧ r'.Dangling nodes

/-- The relationship without taking part. -/
def Relationship.disabled (r : Relationship) : Relationship :=
  { r with enabled := false }

/-- The diagram with other relationships. -/
def Diagram.withRelationships (d : Diagram) (rs : List Relationship) : Diagram :=
  { d with relationships := rs }

/-- The condition is not about a property, or one of its fields is missing or empty. -/
def Condition.Unfinished (c : Condition) : Prop :=
  c.type ≠ .property ∨
    ∃ field ∈ [c.node, c.property, c.operator, c.value], field = none ∨ field = some ""

/-- Diagrams that differ only in what is left out of the query. -/
structure Diagram.SameButIdle (d d' : Diagram) : Prop where
  nodes : d.nodes = d'.nodes
  relationships : Aligned (·.enabled = false) (Relationship.SameOrDangling d.nodes)
    d.relationships d'.relationships
  conditions : Aligned Condition.Unfinished Eq d.conditions d'.conditions
  returnFields : d.returnFields = d'.returnFields
  limit : d.limit = d'.limit
  limitMode : d.limitMode = d'.limitMode

/-- A field is not filled in if it is missing or empty. -/
theorem Condition.filled?_eq_none_iff {field : Option String} :
    filled? field = none ↔ field = none ∨ field = some "" := by
  cases field <;> simp [filled?]

/-- Exactly the unfinished conditions ask for no filter. -/
theorem Condition.filter?_eq_none_iff {c : Condition} : c.filter? = none ↔ c.Unfinished := by
  obtain ⟨id, type, node, property, operator, value⟩ := c
  cases type with
  | property =>
      simp only [Unfinished, ne_eq, not_true_eq_false, false_or, List.mem_cons, List.not_mem_nil,
        or_false, exists_eq_or_imp, exists_eq_left, ← filled?_eq_none_iff, filter?]
      cases filled? node <;> cases filled? property <;> cases filled? operator <;>
        cases filled? value <;> simp
  | node => exact iff_of_true rfl (.inl nofun)
  | relationship => exact iff_of_true rfl (.inl nofun)
  | path => exact iff_of_true rfl (.inl nofun)

namespace Diagram

variable {d d' : Diagram}

theorem hasNode_eq_false_iff {id : String} : d.hasNode id = false ↔ id ∉ d.nodes.map (·.id) := by
  rw [← Bool.not_eq_true, hasNode_iff, List.mem_map]

/-- A relationship with an end that is no node does not take part. -/
theorem not_hasNode_ends {r : Relationship} (h : r.Dangling d.nodes) :
    (d.hasNode r.source && d.hasNode r.target) = false := by
  rcases h with h | h
  · rw [hasNode_eq_false_iff.mpr h, Bool.false_and]
  · rw [hasNode_eq_false_iff.mpr h, Bool.and_false]

/-- Enabled relationships are counted from `k` on; replacing one with an end that is no node by
another one changes neither the count nor what takes part. -/
theorem filter_zipIdx_eq {rs ss : List Relationship}
    (h : List.Forall₂ (Relationship.SameOrDangling d.nodes) rs ss) (k : Nat) :
    ((rs.zipIdx k).map fun (r, i) => (⟨i, r⟩ : ActiveRelationship)).filter (fun a =>
        d.hasNode a.relationship.source && d.hasNode a.relationship.target)
      = ((ss.zipIdx k).map fun (r, i) => (⟨i, r⟩ : ActiveRelationship)).filter fun a =>
        d.hasNode a.relationship.source && d.hasNode a.relationship.target := by
  induction h generalizing k with
  | nil => rfl
  | @cons r s rs ss hrs _ ih =>
      simp only [List.zipIdx_cons, List.map_cons, List.filter_cons]
      rcases hrs with rfl | ⟨-, -, hr, hs⟩
      · rw [ih (k + 1)]
      · rw [not_hasNode_ends hr, not_hasNode_ends hs, ih (k + 1)]
        rfl

/-- **The same relationships take part, at the same places.** -/
theorem SameButIdle.activeRelationships_eq (h : d.SameButIdle d') :
    d.activeRelationships = d'.activeRelationships := by
  have henabled : List.Forall₂ (Relationship.SameOrDangling d.nodes)
      (d.relationships.filter (·.enabled)) (d'.relationships.filter (·.enabled)) := by
    refine h.relationships.forall₂_filter (fun _ hr => hr) fun r r' hrr' => ?_
    rcases hrr' with rfl | ⟨hr, hr', -⟩
    · rfl
    · rw [hr, hr']
  have hnode : d'.hasNode = d.hasNode := by
    funext id
    rw [hasNode, hasNode, h.nodes]
  rw [activeRelationships, activeRelationships, hnode]
  exact filter_zipIdx_eq henabled 0

/-- **The same filters are asked for.** -/
theorem SameButIdle.filters_eq (h : d.SameButIdle d') : d.filters = d'.filters :=
  h.conditions.filterMap_eq (fun _ hc => Condition.filter?_eq_none_iff.mpr hc)
    fun _ _ hcc' => congrArg _ hcc'

/-- A disabled relationship may as well be removed. -/
theorem sameButIdle_remove (d : Diagram) (before : List Relationship) (r : Relationship)
    (after : List Relationship) :
    SameButIdle (d.withRelationships (before ++ r.disabled :: after))
      (d.withRelationships (before ++ after)) where
  nodes := rfl
  relationships := by
    refine .append_left (fun _ => .inl rfl) (.takenOut ?_ (.refl (fun _ => .inl rfl) after)) before
    rfl
  conditions := .refl (fun _ => rfl) d.conditions
  returnFields := rfl
  limit := rfl
  limitMode := rfl

end Diagram

/-! ### What a query depends on -/

namespace Snapshot

/-- The same drawing, and the same filters, return fields and limit. -/
structure SameReading (s t : Snapshot) : Prop extends SameDrawing s t where
  filters : s.diagram.filters = t.diagram.filters
  returnFields : s.diagram.returnFields = t.diagram.returnFields
  limit : s.diagram.limit = t.diagram.limit
  limitMode : s.diagram.limitMode = t.diagram.limitMode

namespace SameReading

variable {s t : Snapshot}

theorem filterClause_eq (h : s.SameReading t) (fs : List PropertyFilter) :
    s.filterClause fs = t.filterClause fs := by
  have hpredicate : s.predicate = t.predicate := by
    funext f
    rw [predicate, predicate, h.nodeName_eq]
  cases fs with
  | nil => rfl
  | cons f fs => exact congrArg (fun write => [Clause.filter ((f :: fs).map write)]) hpredicate

theorem returnedItems_eq (h : s.SameReading t) (fallback : String) :
    s.returnedItems fallback = t.returnedItems fallback := by
  have hitem : s.itemText = t.itemText := by
    funext item
    cases item with
    | node n => exact h.nodeName_eq n.id
    | text text => rfl
  have hexplicit : s.explicitItems = t.explicitItems := by
    rw [explicitItems, explicitItems, Diagram.returnItems, Diagram.returnItems, h.nodes,
      h.returnFields, hitem]
  have hreferenced : s.referencedNames = t.referencedNames := by
    simp only [referencedNames, Diagram.hasNode, h.active, h.nodes, h.filters, h.nodeName_eq]
  rw [returnedItems, returnedItems, hexplicit, hreferenced]

theorem patternExcept_eq (h : s.SameReading t) (id : String) :
    s.patternExcept id = t.patternExcept id := by
  funext r
  simp only [patternExcept, relationshipPattern, h.nodePattern_eq, h.relationshipName_eq]

/-- The limit counts the same, and the same primary node if it counts nodes. -/
theorem limitShape_eq (h : s.SameReading t) : s.limitShape = t.limitShape := by
  have hlimit : s.limit? = t.limit? := by rw [limit?, limit?, h.limit]
  have hprimary : s.primary? = t.primary? := by
    simp only [primary?, node?, h.joining_eq, h.nodes]
  rw [limitShape, limitShape, h.limitMode, hlimit, h.active, hprimary]

/-- **A query that reads** depends on nothing else. -/
theorem readQuery_eq (h : s.SameReading t) : s.readQuery = t.readQuery := by
  rw [readQuery, readQuery, h.limitShape_eq]
  cases t.limitShape with
  | rows limit =>
      simp only [rowsQuery, h.matchClauses_eq, h.filterClause_eq, h.filters, h.returnedItems_eq,
        h.fallback]
  | nodes primary limit =>
      simp only [nodesQuery, h.patternExcept_eq, h.joining_eq, h.nodeName_eq, h.filterClause_eq,
        h.filters, h.returnedItems_eq]

/-- **An update** depends on nothing else. -/
theorem updateQuery_eq (h : s.SameReading t) (target : String)
    (values : List (String × Json.Value)) :
    s.updateQuery target values = t.updateQuery target values := by
  rw [updateQuery, updateQuery, h.matchClauses_eq, h.filters, h.filterClause_eq]

theorem nodeNames_eq (h : s.SameReading t) : s.nodeNames = t.nodeNames := by
  simp only [nodeNames, h.nodes, h.nodeName_eq]

end SameReading

end Snapshot

/-! ### Idle parts -/

namespace Diagram.SameButIdle

variable {d d' : Diagram}

theorem sameReading (h : d.SameButIdle d') (settings : Settings) :
    (d.snapshot settings).SameReading (d'.snapshot settings) where
  nodes := h.nodes
  fallback := rfl
  active := h.activeRelationships_eq
  names := by
    show Names.resolve _ _ _ = Names.resolve _ _ _
    rw [h.nodes, h.activeRelationships_eq]
  filters := h.filters_eq
  returnFields := h.returnFields
  limit := h.limit
  limitMode := h.limitMode

theorem compile_eq (h : d.SameButIdle d') (settings : Settings) :
    compile settings d = compile settings d' := by
  rw [compile, compileQuery, (h.sameReading settings).readQuery_eq]
  rfl

theorem compileUpdate_eq (h : d.SameButIdle d') (settings : Settings) (target : String)
    (updates : List (String × NewValue)) :
    compileUpdate settings d target updates = compileUpdate settings d' target updates := by
  have hupdate : (d.snapshot settings).updateQuery target
      = (d'.snapshot settings).updateQuery target := by
    funext values
    exact (h.sameReading settings).updateQuery_eq target values
  simp only [compileUpdate, compileUpdateQuery, (h.sameReading settings).nodeNames_eq, hupdate]

end Diagram.SameButIdle

/-- **What is left out has no influence.**  Let two diagrams differ only by disabled relationships
and unfinished conditions that are put in or taken out anywhere, and by enabled relationships that
have an end that is no node and are replaced by others of that kind.  Then they are read by the same
text, and every update of them has the same text or the same error.  In particular, to disable a
relationship anywhere is as good as to remove it. -/
theorem idle_parts_have_no_influence (settings : Settings) {d d' : Diagram}
    (h : d.SameButIdle d') :
    compile settings d = compile settings d' ∧
      (∀ target updates,
        compileUpdate settings d target updates = compileUpdate settings d' target updates) ∧
      ∀ before (r : Relationship) after,
        compile settings (d.withRelationships (before ++ r.disabled :: after))
          = compile settings (d.withRelationships (before ++ after)) ∧
        ∀ target updates,
          compileUpdate settings (d.withRelationships (before ++ r.disabled :: after)) target
              updates
            = compileUpdate settings (d.withRelationships (before ++ after)) target updates := by
  refine ⟨h.compile_eq settings, h.compileUpdate_eq settings, fun before r after => ?_⟩
  have hremove := d.sameButIdle_remove before r after
  exact ⟨hremove.compile_eq settings, hremove.compileUpdate_eq settings⟩

/-- Two nodes with some relationships and conditions. -/
def sketch (relationships : List Relationship) (conditions : List Condition) : Diagram where
  nodes := [⟨"1", some "Person", "p"⟩, ⟨"2", none, "c"⟩]
  relationships := relationships
  conditions := conditions
  returnFields := []
  limit := ""
  limitMode := .rows

/-- A condition on the first node of a sketch. -/
def ofAge : Condition :=
  .ofFilter "k" ⟨"1", "age", ">", "5"⟩

/-- A sketch whose second enabled relationship is the only one that takes part. -/
def draft : Diagram :=
  sketch
    [.ofEnds "x" "1" "9" none, .ofEnds "y" "1" "2" none,
      ⟨"z", none, "2", "1", some "p", none, false⟩]
    [ofAge, { ofAge with type := .path }]

/-- The same sketch with other idle parts. -/
def redraft : Diagram :=
  sketch
    [⟨"w", some "KNOWS", "1", "2", some "r2", some .leading, false⟩,
      ⟨"v", some "KNOWS", "9", "2", some "c", some .leading, true⟩, .ofEnds "y" "1" "2" none]
    [{ ofAge with operator := none }, { ofAge with value := some "" }, ofAge]

/-- The idle parts of `draft` and `redraft` have no influence, and neither has the disabled
relationship of `draft`. -/
theorem idle_parts_of_draft :
    draft.SameButIdle redraft ∧ compile .default draft = compile .default redraft ∧
      (∀ updates, compileUpdate .default draft "r1" updates
        = compileUpdate .default redraft "r1" updates) ∧
      compile .default draft
        = compile .default (draft.withRelationships (draft.relationships.take 2)) := by
  have hsame : draft.SameButIdle redraft := by
    refine ⟨rfl, .putIn rfl (.both (.inr ⟨rfl, rfl, ?_, ?_⟩) (.both (.inl rfl) (.takenOut rfl .nil))),
      .putIn ?_ (.putIn ?_ (.both rfl (.takenOut ?_ .nil))), rfl, rfl, rfl⟩
    · exact .inr (by decide)
    · exact .inl (by decide)
    · exact .inr ⟨none, by decide, .inl rfl⟩
    · exact .inr ⟨some "", by decide, .inr rfl⟩
    · exact .inl (by decide)
  obtain ⟨hread, hupdate, hremove⟩ := idle_parts_have_no_influence .default hsame
  have hlast := (hremove (draft.relationships.take 2)
    ⟨"z", none, "2", "1", some "p", none, true⟩ []).1
  rw [List.append_nil] at hlast
  exact ⟨hsame, hread, hupdate "r1", hlast⟩

end GraphQuery
