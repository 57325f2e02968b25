import Mathlib.Data.List.Forall2
import GraphQuery.Proofs.QuoteFree
import GraphQuery.Proofs.Update

/-!
# Proofs — values stay inside their literals

The texts that the filters of a query compare with, and the texts that an update sets, are the
literals of its text (`texts_readQuery`, `texts_updateQuery`).  Two diagrams whose conditions differ
in such texts only have the same query apart from its literals (`map_blank_readQuery`,
`map_blank_updateQuery`).

**No value gets out of its literal** (`values_stay_in_literals`): a scan of a query without stray
quotes ends outside a literal, reads back exactly these texts in order, and leaves outside what does
not depend on them.
-/

namespace GraphQuery

/-! ### The literals of a query -/

/-- The texts that filters compare with, in order. -/
def filterTexts (fs : List PropertyFilter) : List String :=
  (fs.filter (·.isText)).map (·.value)

/-- The text that a value stands as: its own, or for a list or an object the one of its compact
JSON. -/
def Json.Value.quoted? : Json.Value → Option String
  | .string s => some s
  | .array items => some (Json.Value.array items).toText
  | .object members => some (Json.Value.object members).toText
  | .null | .bool _ | .number _ => none

/-- Of the values a text, a list and an object are quoted. -/
theorem Literal.texts_ofValue (v : Json.Value) : (Literal.ofValue v).texts = v.quoted?.toList := by
  cases v with
  | number n => cases n <;> rfl
  | _ => rfl

namespace Snapshot

variable {s : Snapshot}

/-- A clause that matches or hands on compares with nothing. -/
theorem Matches.texts {c : Clause} (h : s.Matches c) : c.texts = [] := by
  cases h <;> rfl

/-- A filter clause has the texts of its filters in order, numbers apart. -/
theorem flatMap_texts_filterClause (s : Snapshot) (fs : List PropertyFilter) :
    (s.filterClause fs).flatMap Clause.texts = filterTexts fs := by
  have htexts : ∀ gs : List PropertyFilter,
      (gs.map s.predicate).flatMap (·.literal.texts) = filterTexts gs := by
    intro gs
    induction gs with
    | nil => rfl
    | cons g gs ih =>
        rw [List.map_cons, List.flatMap_cons, ih, predicate, Predicate.texts_compare]
        cases hg : g.isText <;> simp [filterTexts, hg]
  cases fs with
  | nil => rfl
  | cons f fs => exact (List.flatMap_singleton ..).trans (htexts (f :: fs))

/-- A clause that sets values has those that are quoted, in order. -/
theorem flatMap_texts_assignClause (target : String) (values : List (String × Json.Value)) :
    (assignClause target values).flatMap Clause.texts = values.filterMap (·.2.quoted?) := by
  have htexts : ∀ vs : List (String × Json.Value),
      (vs.map fun v => (v.1, Literal.ofValue v.2)).flatMap (·.2.texts)
        = vs.filterMap (·.2.quoted?) := by
    intro vs
    induction vs with
    | nil => rfl
    | cons v vs ih =>
        rw [List.map_cons, List.flatMap_cons, ih, Literal.texts_ofValue]
        cases hv : v.2.quoted? <;> simp [hv]
  cases values with
  | nil => rfl
  | cons v vs => exact (List.flatMap_singleton ..).trans (htexts (v :: vs))

/-- The filters of a query that reads, in the order of its clauses. -/
def orderedFilters (s : Snapshot) : List PropertyFilter :=
  match s.limitShape with
  | .rows _ => s.diagram.filters
  | .nodes primary _ =>
    s.diagram.filters.filter (·.node = primary.id) ++ s.diagram.filters.filter (·.node ≠ primary.id)

theorem flatMap_texts_matchClauses (hs : s.EndsDrawn) :
    s.matchClauses.flatMap Clause.texts = [] :=
  List.flatMap_eq_nil_iff.mpr fun _ hc => (matches_matchClauses hs hc).texts

theorem filterTexts_append (fs gs : List PropertyFilter) :
    filterTexts (fs ++ gs) = filterTexts fs ++ filterTexts gs := by
  simp [filterTexts]

/-- **The literals of a query** are the texts that its filters compare with. -/
theorem texts_readQuery (hs : s.EndsDrawn) :
    s.readQuery.flatMap Clause.texts = filterTexts s.orderedFilters := by
  rcases limitShape_cases s with hshape | ⟨primary, limit, hshape, -, -⟩
  · rw [readQuery, orderedFilters, hshape]
    have hlimit : (s.limit?.map Clause.limit).toList.flatMap Clause.texts = [] := by
      cases s.limit? <;> rfl
    simp only [rowsQuery, List.flatMap_append]
    rw [flatMap_texts_matchClauses hs, flatMap_texts_filterClause, hlimit]
    simp [Clause.texts]
  · rw [readQuery, orderedFilters, hshape]
    have hexpansion : (s.expansion primary).flatMap Clause.texts = [] :=
      List.flatMap_eq_nil_iff.mpr fun _ hc => (matches_expansion hs hc).texts
    simp only [nodesQuery_eq, List.flatMap_append, List.flatMap_cons, List.cons_append]
    rw [flatMap_texts_filterClause, flatMap_texts_filterClause, hexpansion, filterTexts_append]
    simp [Clause.texts, primaryMatch]

/-- **The literals of an update** are the texts that its filters compare with and then those that
it sets. -/
theorem texts_updateQuery (hs : s.EndsDrawn) (target : String)
    (values : List (String × Json.Value)) :
    (s.updateQuery target values).flatMap Clause.texts
      = filterTexts s.diagram.filters ++ values.filterMap (·.2.quoted?) := by
  simp only [updateQuery, List.flatMap_append]
  rw [flatMap_texts_matchClauses hs, flatMap_texts_filterClause, flatMap_texts_assignClause]
  simp [Clause.texts]

end Snapshot

/-! ### Conditions and values that differ in texts only -/

/-- The same filter, or another text to compare with. -/
def PropertyFilter.SameButText (f g : PropertyFilter) : Prop :=
  f = g ∨ f.isText = true ∧ g.isText = true ∧ g = { f with value := g.value }

/-- Conditions that ask for no filter, or for the same one but for a text. -/
def Condition.SameButText (c c' : Condition) : Prop :=
  Option.Rel PropertyFilter.SameButText c.filter? c'.filter?

/-- The same value, or other contents between the quotes. -/
def Json.Value.SameButText (v w : Json.Value) : Prop :=
  v = w ∨ v.quoted?.isSome = true ∧ w.quoted?.isSome = true

/-- Assignments to the same property, the values the same but for a text. -/
def AssignSameButText (v w : String × Json.Value) : Prop :=
  v.1 = w.1 ∧ v.2.SameButText w.2

/-- The diagram with other conditions. -/
def Diagram.withConditions (d : Diagram) (cs : List Condition) : Diagram :=
  { d with conditions := cs }

theorem map_eq_of_forall₂ {α β γ : Type} {R : α → β → Prop} {f : α → γ} {g : β → γ}
    (hfg : ∀ a b, R a b → f a = g b) {xs : List α} {ys : List β} (h : List.Forall₂ R xs ys) :
    xs.map f = ys.map g := by
  induction h with
  | nil => rfl
  | cons hab _ ih => rw [List.map_cons, List.map_cons, hfg _ _ hab, ih]

theorem PropertyFilter.SameButText.node_eq {f g : PropertyFilter} (h : f.SameButText g) :
    f.node = g.node := by
  rcases h with rfl | ⟨-, -, h⟩
  · rfl
  · rw [h]

/-- Apart from its text the comparison is the same. -/
theorem PropertyFilter.SameButText.blank_compare {f g : PropertyFilter} (h : f.SameButText g)
    (name : String) :
    (Predicate.compare name f.property f.operator f.value).blank
      = (Predicate.compare name g.property g.operator g.value).blank := by
  rcases h with rfl | ⟨hf, hg, h⟩
  · rfl
  · rw [Predicate.compare_of_isText hf, Predicate.compare_of_isText hg, h]
    rfl

/-- Without their texts, values that differ in these only have the same literal. -/
theorem Literal.blank_ofValue {v w : Json.Value} (h : v.SameButText w) :
    (Literal.ofValue v).blank = (Literal.ofValue w).blank := by
  have htext : ∀ {u : Json.Value}, u.quoted?.isSome = true →
      (Literal.ofValue u).blank = .text "" := by
    intro u hu
    cases u with
    | string s => rfl
    | array items => rfl
    | object members => rfl
    | null => cases hu
    | bool b => cases hu
    | number n => cases hu
  rcases h with rfl | ⟨hv, hw⟩
  · rfl
  · rw [htext hv, htext hw]

namespace Snapshot

variable {settings : Settings} {d : Diagram} {cs : List Condition}

/-- Conditions that differ in texts ask for filters that differ in texts, at the same places. -/
theorem forall₂_filters (h : List.Forall₂ Condition.SameButText d.conditions cs) :
    List.Forall₂ PropertyFilter.SameButText d.filters (d.withConditions cs).filters :=
  List.rel_filterMap (fun _ _ hc => hc) h

theorem forall₂_filter_node {fs gs : List PropertyFilter} (p : String → Bool)
    (h : List.Forall₂ PropertyFilter.SameButText fs gs) :
    List.Forall₂ PropertyFilter.SameButText (fs.filter (p ·.node)) (gs.filter (p ·.node)) :=
  List.rel_filter (fun _ _ hfg => iff_of_eq (congrArg (p · = true) hfg.node_eq)) h

/-- A filter clause without its texts does not depend on them. -/
theorem map_blank_filterClause (settings : Settings) (d : Diagram) (cs : List Condition)
    {fs gs : List PropertyFilter} (h : List.Forall₂ PropertyFilter.SameButText fs gs) :
    ((d.snapshot settings).filterClause fs).map Clause.blank
      = (((d.withConditions cs).snapshot settings).filterClause gs).map Clause.blank := by
  have hpredicates : (fs.map (d.snapshot settings).predicate).map Predicate.blank
      = (gs.map ((d.withConditions cs).snapshot settings).predicate).map Predicate.blank := by
    rw [List.map_map, List.map_map]
    refine map_eq_of_forall₂ (fun f g hfg => ?_) h
    have hname : ((d.withConditions cs).snapshot settings).nodeName g.node
        = (d.snapshot settings).nodeName f.node := by
      rw [hfg.node_eq]
      rfl
    show (predicate _ f).blank = (predicate _ g).blank
    rw [predicate, predicate, hname]
    exact hfg.blank_compare _
  cases h with
  | nil => rfl
  | cons hfg hrest => exact congrArg (fun ps => [Clause.filter ps]) hpredicates

/-! ### What conditions do not reach -/

theorem matchClauses_withConditions :
    ((d.withConditions cs).snapshot settings).matchClauses
      = (d.snapshot settings).matchClauses :=
  SameDrawing.matchClauses_eq ⟨rfl, rfl, rfl, rfl⟩

/-- The items that are returned do not depend on texts to compare with. -/
theorem returnedItems_withConditions
    (h : List.Forall₂ Condition.SameButText d.conditions cs) (fallback : String) :
    ((d.withConditions cs).snapshot settings).returnedItems fallback
      = (d.snapshot settings).returnedItems fallback := by
  -- only the nodes of the filters count here, and these are the same
  have hnames : ((d.withConditions cs).filters.filter fun f => d.hasNode f.node).map
        (fun f => (d.snapshot settings).nodeName f.node)
      = (d.filters.filter fun f => d.hasNode f.node).map
        fun f => (d.snapshot settings).nodeName f.node :=
    (map_eq_of_forall₂ (fun f g hfg => by rw [hfg.node_eq])
      (forall₂_filter_node d.hasNode (forall₂_filters h))).symm
  have hreferenced : ((d.withConditions cs).snapshot settings).referencedNames
      = (d.snapshot settings).referencedNames :=
    congrArg (fun xs => distinct ((d.snapshot settings).active.flatMap (fun a =>
      [(d.snapshot settings).nodeName a.relationship.source,
        (d.snapshot settings).nodeName a.relationship.target]) ++ xs)) hnames
  rw [returnedItems, returnedItems, hreferenced]
  rfl

/-- **The query apart from its literals** does not depend on the texts that it compares with. -/
theorem map_blank_readQuery (h : List.Forall₂ Condition.SameButText d.conditions cs) :
    (d.snapshot settings).readQuery.map Clause.blank
      = ((d.withConditions cs).snapshot settings).readQuery.map Clause.blank := by
  have hlimitShape : ((d.withConditions cs).snapshot settings).limitShape
      = (d.snapshot settings).limitShape := rfl
  rw [readQuery, readQuery, hlimitShape]
  cases (d.snapshot settings).limitShape with
  | rows limit =>
      have hfilter := map_blank_filterClause settings d cs (forall₂_filters h)
      simp only [rowsQuery, List.map_append, matchClauses_withConditions,
        returnedItems_withConditions h, Diagram.snapshot_diagram, hfilter]
      rfl
  | nodes primary limit =>
      have hown := map_blank_filterClause settings d cs
        (forall₂_filter_node (fun id => decide (id = primary.id)) (forall₂_filters h))
      have hothers := map_blank_filterClause settings d cs
        (forall₂_filter_node (fun id => decide (id ≠ primary.id)) (forall₂_filters h))
      simp only [nodesQuery_eq, List.map_cons, List.map_append, List.cons_append,
        returnedItems_withConditions h, Diagram.snapshot_diagram, hown, hothers]
      rfl

theorem map_blank_assignClause (target : String) {values values' : List (String × Json.Value)}
    (h : List.Forall₂ AssignSameButText values values') :
    (assignClause target values).map Clause.blank
      = (assignClause target values').map Clause.blank := by
  have hassignments := map_eq_of_forall₂ (f := fun v => (v.1, (Literal.ofValue v.2).blank))
    (g := fun v => (v.1, (Literal.ofValue v.2).blank))
    (fun v w hvw => Prod.ext hvw.1 (Literal.blank_ofValue hvw.2)) h
  cases h with
  | nil => rfl
  | cons hvw hrest =>
      simp only [assignClause, List.map_cons, List.map_nil, Clause.blank, List.map_map]
        at hassignments ⊢
      exact congrArg (fun vs => [Clause.assign target vs]) hassignments

/-- **The update apart from its literals** does not depend on the texts that it compares with and
sets. -/
theorem map_blank_updateQuery (h : List.Forall₂ Condition.SameButText d.conditions cs)
    (target : String) {values values' : List (String × Json.Value)}
    (hvalues : List.Forall₂ AssignSameButText values values') :
    ((d.snapshot settings).updateQuery target values).map Clause.blank
      = (((d.withConditions cs).snapshot settings).updateQuery target values').map
          Clause.blank := by
  simp only [updateQuery, List.map_append, matchClauses_withConditions, Diagram.snapshot_diagram,
    map_blank_filterClause settings d cs (forall₂_filters h), map_blank_assignClause target hvalues]

end Snapshot

/-! ### No value gets out of its literal -/

/-- An update of a node that the query binds has a query, whatever its conditions. -/
theorem compileUpdate_updatesOf {settings : Settings} {d : Diagram} {target : String}
    (htarget : target ∈ (d.snapshot settings).nodeNames) (cs : List Condition)
    (values : List (String × Json.Value)) :
    compileUpdate settings (d.withConditions cs) target (updatesOf values) =
      .ok ((((d.withConditions cs).snapshot settings).updateQuery target values).toText
        settings.layout) := by
  have hquery : compileUpdateQuery settings (d.withConditions cs) target (updatesOf values)
      = .ok (((d.withConditions cs).snapshot settings).updateQuery target values) :=
    compileUpdateQuery_eq_ok.mpr ⟨htarget, values, collectValues_updatesOf values, rfl⟩
  rw [compileUpdate, hquery]
  rfl

/-- **No value gets out of its literal.**  If nothing that a query writes outside of literals holds
a double quote, then a scan of it ends outside a literal and has read the texts that its filters
compare with, in the order of its clauses; and what is outside of literals stays the same when
conditions compare with other texts.  The same holds for every update of a node of the query, whose
texts to compare with are followed by those that it sets. -/
theorem values_stay_in_literals (settings : Settings) (d : Diagram)
    (h : (d.snapshot settings).QuoteFree) :
    (∃ outside,
      Scan.of (compile settings d).toList =
        ⟨outside, filterTexts (d.snapshot settings).orderedFilters, .outside⟩ ∧
      ∀ cs, List.Forall₂ Condition.SameButText d.conditions cs →
        (Scan.of (compile settings (d.withConditions cs)).toList).outside = outside) ∧
    ∀ target ∈ (d.snapshot settings).nodeNames, ∀ values : List (String × Json.Value),
      (∀ v ∈ values, '"' ∉ v.1.toList) →
      ∃ text outside,
        compileUpdate settings d target (updatesOf values) = .ok text ∧
        Scan.of text.toList =
          ⟨outside, filterTexts d.filters ++ values.filterMap (·.2.quoted?), .outside⟩ ∧
        ∀ cs values', List.Forall₂ Condition.SameButText d.conditions cs →
          List.Forall₂ AssignSameButText values values' →
          ∃ text',
            compileUpdate settings (d.withConditions cs) target (updatesOf values') = .ok text' ∧
            (Scan.of text'.toList).outside = outside := by
  have hs : (d.snapshot settings).EndsDrawn := Snapshot.endsDrawn settings d
  refine ⟨⟨Query.write settings.layout ((compileQuery settings d).map Clause.blank), ?_,
    fun cs hcs => ?_⟩, fun target htarget values hvalues => ?_⟩
  · rw [← Snapshot.texts_readQuery hs]
    exact Query.scan_toText h.readQuery
  · exact Query.outside_toText h.readQuery (Snapshot.map_blank_readQuery hcs)
  · have hplain : '"' ∉ target.toList := by
      obtain ⟨n, hn, rfl⟩ := List.mem_map.mp htarget
      exact h.node n hn
    have hfree := h.updateQuery hplain hvalues
    refine ⟨_, Query.write settings.layout
        (((d.snapshot settings).updateQuery target values).map Clause.blank),
      compileUpdate_updatesOf htarget d.conditions values, ?_,
      fun cs values' hcs hvalues' => ⟨_, compileUpdate_updatesOf htarget cs values', ?_⟩⟩
    · have htexts := Snapshot.texts_updateQuery hs target values
      rw [Diagram.snapshot_diagram] at htexts
      rw [← htexts]
      exact Query.scan_toText hfree
    · exact Query.outside_toText hfree (Snapshot.map_blank_updateQuery hcs target hvalues')

/-- A text that tries to close its literal and to go on behind it. -/
def breakout : String :=
  "x\" OR \"1"

/-- A diagram that limits nodes.  It compares the second node with a text `value`, and the first one
with a text that ends in backslashes and with a number. -/
def friendsNamed (value : String) : Diagram where
  nodes := [⟨"1", some "Person", "p"⟩, ⟨"2", none, "c"⟩]
  relationships := [.ofEnds "x" "1" "2" (some "KNOWS")]
  conditions :=
    [.ofFilter "k" ⟨"2", "name", "=", value⟩, .ofFilter "l" ⟨"1", "path", "ENDS WITH", "\\\\"⟩,
      .ofFilter "m" ⟨"1", "age", ">", "5"⟩]
  returnFields := ["0", "c.name"]
  limit := " 3 "
  limitMode := .nodes

/-- Values to set: a text, a number, and a list that is quoted once already. -/
def remarks : List (String × Json.Value) :=
  [("note", .string "\" DELETE c"), ("rank", .number (.integer 1)), ("tags", .array [.string "\""])]

/-- The breakout stays in its literal, and so do the texts that are set. -/
theorem breakout_stays_in_literal :
    ((friendsNamed breakout).snapshot .default).QuoteFree ∧
      "c" ∈ ((friendsNamed breakout).snapshot .default).nodeNames ∧
      (∀ v ∈ remarks, '"' ∉ v.1.toList) ∧
      List.Forall₂ Condition.SameButText (friendsNamed breakout).conditions
        (friendsNamed "Ada").conditions ∧
      (∃ outside,
        Scan.of (compile .default (friendsNamed breakout)).toList =
          ⟨outside, ["\\\\", breakout], .outside⟩ ∧
        (Scan.of (compile .default (friendsNamed "Ada")).toList).outside = outside) ∧
      ∃ text outside,
        compileUpdate .default (friendsNamed breakout) "c" (updatesOf remarks) = .ok text ∧
        Scan.of text.toList =
          ⟨outside, [breakout, "\\\\", "\" DELETE c", "[\"\\\"\"]"], .outside⟩ := by
  have hfree : ((friendsNamed breakout).snapshot .default).QuoteFree :=
    ⟨by decide, by decide, by decide, by decide, by decide, by decide, by decide, by decide,
      by decide⟩
  have htarget : "c" ∈ ((friendsNamed breakout).snapshot .default).nodeNames := by decide
  have hremarks : ∀ v ∈ remarks, '"' ∉ v.1.toList := by decide
  have hconditions : List.Forall₂ Condition.SameButText (friendsNamed breakout).conditions
      (friendsNamed "Ada").conditions :=
    .cons (.some (.inr ⟨by decide, by decide, rfl⟩))
      (.cons (.some (.inl rfl)) (.cons (.some (.inl rfl)) .nil))
  have htexts : filterTexts ((friendsNamed breakout).snapshot .default).orderedFilters =
      ["\\\\", breakout] := by decide +kernel
  have htexts' : filterTexts (friendsNamed breakout).filters ++ remarks.filterMap (·.2.quoted?) =
      [breakout, "\\\\", "\" DELETE c", "[\"\\\"\"]"] := by decide +kernel
  obtain ⟨⟨outside, hscan, hsame⟩, hupdate⟩ :=
    values_stay_in_literals .default (friendsNamed breakout) hfree
  obtain ⟨text, outside', htext, hscan', -⟩ := hupdate "c" htarget remarks hremarks
  rw [htexts] at hscan
  rw [htexts'] at hscan'
  exact ⟨hfree, htarget, hremarks, hconditions, ⟨outside, hscan, hsame _ hconditions⟩, text,
    outside', htext, hscan'⟩

end GraphQuery
