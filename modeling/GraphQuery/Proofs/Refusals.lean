import GraphQuery.Proofs.Session

/-!
# Proofs — refused edits

An edit is refused if what it is about is not there: a node, a relationship or a condition with an
id, a position of a node, an end of a relationship (`Diagram.Allows`).  One proof covers the edits
that answer whether they were carried out (`Session.change_refused`), however each of them finds
out.  Removing by id keeps the things with other ids in any case, and tells by their number whether
there was anything to remove (`Session.apply_removeRelationship`, `Session.apply_removeCondition`).

**An edit is carried out exactly if the diagram allows it, and otherwise changes neither the diagram
nor the source of ids** (`refused_edits_change_nothing`).
-/

namespace GraphQuery

/-- Whether an edit was refused. -/
def Reply.isRefusal : Reply → Bool
  | .added id => id.isNone
  | .changed done => !done
  | .set => false

namespace Diagram

variable (d : Diagram)

/-- What an edit is about is there. -/
def Allows : Edit → Prop
  | .removeNode id => ∃ n ∈ d.nodes, n.id = id
  | .moveNode source target => source < d.nodes.length ∧ target < d.nodes.length
  | .addRelationship source target _ =>
    (∃ n ∈ d.nodes, n.id = source) ∧ ∃ n ∈ d.nodes, n.id = target
  | .removeRelationship id => ∃ r ∈ d.relationships, r.id = id
  | .setEnabled id _ => ∃ r ∈ d.relationships, r.id = id
  | .setMatchType id _ => ∃ r ∈ d.relationships, r.id = id
  | .removeCondition id => ∃ c ∈ d.conditions, c.id = id
  | .addNode .. => True
  | .addCondition _ => True
  | .setReturnFields _ => True
  | .setLimit _ => True
  | .setLimitMode _ => True

/-! ### What each operation looks for -/

theorem isSome_node?_iff {id : String} : (d.node? id).isSome = true ↔ ∃ n ∈ d.nodes, n.id = id := by
  simp [node?]

/-- To be removed, a node has to be there. -/
theorem isSome_removeNode?_iff {id : String} :
    (d.removeNode? id).isSome = true ↔ ∃ n ∈ d.nodes, n.id = id := by
  simp [removeNode?, nodeIndex?]

/-- A move needs two positions of nodes, also where they are the same. -/
theorem isSome_moveNode?_iff {source target : Nat} :
    (d.moveNode? source target).isSome = true ↔
      source < d.nodes.length ∧ target < d.nodes.length := by
  rw [moveNode?]
  split
  · rename_i htarget
    simp [htarget]
  · rename_i htarget
    simp [htarget]

/-- To be drawn, a relationship needs nodes at both its ends. -/
theorem isSome_addRelationship?_iff {r : Relationship} :
    (d.addRelationship? r).isSome = true ↔
      (∃ n ∈ d.nodes, n.id = r.source) ∧ ∃ n ∈ d.nodes, n.id = r.target := by
  rw [← isSome_node?_iff, ← isSome_node?_iff, addRelationship?]
  split
  · rename_i hends
    exact iff_of_true rfl hends
  · rename_i hends
    exact iff_of_false Bool.false_ne_true hends

theorem isSome_changeRelationship?_iff {id : String} {f : Relationship → Relationship} :
    (d.changeRelationship? id f).isSome = true ↔ ∃ r ∈ d.relationships, r.id = id := by
  rw [changeRelationship?, Option.isSome_map, isSome_changeFirst?]
  simp

theorem isSome_removeRelationship?_iff {id : String} :
    (d.removeRelationship? id).isSome = true ↔ ∃ r ∈ d.relationships, r.id = id := by
  simp [removeRelationship?]

theorem isSome_removeCondition?_iff {id : String} :
    (d.removeCondition? id).isSome = true ↔ ∃ c ∈ d.conditions, c.id = id := by
  simp [removeCondition?]

end Diagram

/-! ### Removing by id -/

/-- Where something has the id, there are fewer without it; where nothing has it, all stay. -/
theorem any_or_filter_eq_self {α : Type} (key : α → String) (id : String) (as : List α) :
    (as.any (key · = id) = true ∧ (as.filter (key · ≠ id)).length ≠ as.length) ∨
      (as.any (key · = id) = false ∧ as.filter (key · ≠ id) = as) := by
  cases hany : as.any (key · = id) with
  | false =>
      refine .inr ⟨rfl, List.filter_eq_self.mpr fun a ha => ?_⟩
      simpa using List.any_eq_false.mp hany a ha
  | true =>
      obtain ⟨a, ha, hid⟩ := List.any_eq_true.mp hany
      refine .inl ⟨rfl, fun hlength => ?_⟩
      have hkept := List.length_filter_eq_length_iff.mp hlength a ha
      simp_all

namespace Session

variable (s : Session)

/-- Removing relationships keeps those with other ids, and tells by their number whether there were
any with the id. -/
theorem apply_removeRelationship (id : String) :
    s.apply (.removeRelationship id) =
      (.changed ((s.diagram.relationships.filter (·.id ≠ id)).length
          ≠ s.diagram.relationships.length),
        { s with diagram.relationships := s.diagram.relationships.filter (·.id ≠ id) }) := by
  rw [apply, Diagram.removeRelationship?]
  rcases any_or_filter_eq_self Relationship.id id s.diagram.relationships with
    ⟨hany, hlength⟩ | ⟨hany, hkept⟩
  · rw [if_pos hany, decide_eq_true hlength]
    rfl
  · rw [hany, hkept]
    simp [change]

/-- Removing conditions keeps those with other ids, and tells by their number whether there were any
with the id. -/
theorem apply_removeCondition (id : String) :
    s.apply (.removeCondition id) =
      (.changed ((s.diagram.conditions.filter (·.id ≠ id)).length ≠ s.diagram.conditions.length),
        { s with diagram.conditions := s.diagram.conditions.filter (·.id ≠ id) }) := by
  rw [apply, Diagram.removeCondition?]
  rcases any_or_filter_eq_self Condition.id id s.diagram.conditions with
    ⟨hany, hlength⟩ | ⟨hany, hkept⟩
  · rw [if_pos hany, decide_eq_true hlength]
    rfl
  · rw [hany, hkept]
    simp [change]

/-! ### One edit -/

/-- An edit that answers whether it was carried out leaves all as it is if it was not. -/
theorem change_refused {d? : Option Diagram} (h : (s.change d?).1.isRefusal = true) :
    (s.change d?).2 = s := by
  cases d? with
  | none => rfl
  | some d => cases h

/-- A change is a refusal if it has no outcome. -/
theorem isRefusal_change (d? : Option Diagram) :
    (s.change d?).1.isRefusal = false ↔ d?.isSome = true := by
  cases d? with
  | none => exact iff_of_false nofun nofun
  | some d => exact iff_of_true rfl rfl

/-- A relationship is drawn with the next id, or not at all. -/
theorem apply_addRelationship (source target : String) (type : Option String) :
    ((∃ n ∈ s.diagram.nodes, n.id = source) ∧ (∃ n ∈ s.diagram.nodes, n.id = target) ∧
      (s.apply (.addRelationship source target type)).1
        = .added (some (EntityKind.relationship.id (s.ids.issued + 1)))) ∨
    (¬ ((∃ n ∈ s.diagram.nodes, n.id = source) ∧ ∃ n ∈ s.diagram.nodes, n.id = target) ∧
      s.apply (.addRelationship source target type) = (.added none, s)) := by
  have hends := s.diagram.isSome_addRelationship?_iff
    (r := .ofEnds (s.ids.next .relationship).1 source target type)
  simp only [apply]
  cases hadd : s.diagram.addRelationship?
      (.ofEnds (s.ids.next .relationship).1 source target type) with
  | none =>
      rw [hadd] at hends
      exact .inr ⟨fun h => Bool.false_ne_true (hends.mpr h), rfl⟩
  | some d =>
      rw [hadd] at hends
      obtain ⟨hsource, htarget⟩ := hends.mp rfl
      exact .inl ⟨hsource, htarget, rfl⟩

/-- Nothing is left of an edit that is refused. -/
theorem apply_of_isRefusal {e : Edit} (h : (s.apply e).1.isRefusal = true) :
    (s.apply e).2 = s := by
  cases e with
  | addNode label name => cases h
  | addCondition filter => cases h
  | addRelationship source target type =>
      rcases s.apply_addRelationship source target type with ⟨-, -, hadded⟩ | ⟨-, hrefused⟩
      · rw [hadded] at h
        cases h
      · rw [hrefused]
  | removeNode id => exact s.change_refused h
  | moveNode source target => exact s.change_refused h
  | removeRelationship id => exact s.change_refused h
  | setEnabled id enabled => exact s.change_refused h
  | setMatchType id matchType => exact s.change_refused h
  | removeCondition id => exact s.change_refused h
  | setReturnFields fields => cases h
  | setLimit limit => cases h
  | setLimitMode mode => cases h

/-- **Exactly the edits that the diagram allows** are carried out. -/
theorem isRefusal_apply_iff (e : Edit) :
    (s.apply e).1.isRefusal = false ↔ s.diagram.Allows e := by
  cases e with
  | addNode label name => exact iff_of_true rfl trivial
  | addCondition filter => exact iff_of_true rfl trivial
  | addRelationship source target type =>
      rcases s.apply_addRelationship source target type with
        ⟨hsource, htarget, hadded⟩ | ⟨hends, hrefused⟩
      · rw [hadded]
        exact iff_of_true rfl ⟨hsource, htarget⟩
      · rw [hrefused]
        exact iff_of_false nofun hends
  | removeNode id => exact (s.isRefusal_change _).trans s.diagram.isSome_removeNode?_iff
  | moveNode source target => exact (s.isRefusal_change _).trans s.diagram.isSome_moveNode?_iff
  | removeRelationship id =>
      exact (s.isRefusal_change _).trans s.diagram.isSome_removeRelationship?_iff
  | setEnabled id enabled =>
      exact (s.isRefusal_change _).trans s.diagram.isSome_changeRelationship?_iff
  | setMatchType id matchType =>
      exact (s.isRefusal_change _).trans s.diagram.isSome_changeRelationship?_iff
  | removeCondition id => exact (s.isRefusal_change _).trans s.diagram.isSome_removeCondition?_iff
  | setReturnFields fields => exact iff_of_true rfl trivial
  | setLimit limit => exact iff_of_true rfl trivial
  | setLimitMode mode => exact iff_of_true rfl trivial

end Session

/-- **Refused edits change nothing.**  An edit that is refused leaves the diagram and the source of
ids as they are, and it is refused exactly if what it is about is not there.  Removing relationships
or conditions keeps those with other ids in any case, and answers whether they have become fewer. -/
theorem refused_edits_change_nothing (s : Session) :
    (∀ e, (s.apply e).1.isRefusal = true → (s.apply e).2 = s) ∧
      (∀ e, (s.apply e).1.isRefusal = false ↔ s.diagram.Allows e) ∧
      (∀ id, s.apply (.removeRelationship id) =
        (.changed ((s.diagram.relationships.filter (·.id ≠ id)).length
            ≠ s.diagram.relationships.length),
          { s with diagram.relationships := s.diagram.relationships.filter (·.id ≠ id) })) ∧
      ∀ id, s.apply (.removeCondition id) =
        (.changed ((s.diagram.conditions.filter (·.id ≠ id)).length ≠ s.diagram.conditions.length),
          { s with diagram.conditions := s.diagram.conditions.filter (·.id ≠ id) }) :=
  ⟨fun _ => s.apply_of_isRefusal, s.isRefusal_apply_iff, s.apply_removeRelationship,
    s.apply_removeCondition⟩

end GraphQuery
