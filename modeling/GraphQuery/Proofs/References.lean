import GraphQuery.Proofs.ReturnItems
import GraphQuery.Proofs.Session

/-!
# Proofs — return fields as references

A return field that is a numeral of one machine word refers to the node at that position, and any
other field stands for itself (`ReturnItem.reading`).  As long as every such numeral is the position
of a node, adding a node changes nothing that a field stands for (`reading_append`), a move rewrites
the fields so that nothing changes either (`reading_afterMove`), and a removal drops what stands for
the removed node and rewrites the others (`reading_afterRemoval`).  No edit but that of the fields
themselves makes a numeral that is no position (`Session.carries_apply`).

**So the return fields go on standing for the same nodes and texts over any run of edits, but for
the nodes that the run removes** (`readings_follow_run`).
-/

namespace GraphQuery

/-- The numbers that a machine word holds are those below this one. -/
def wordSize : Nat := Nat.pow 2 64

/-- If the field is a numeral of a word, it is the position of one of `count` nodes. -/
def RefersBelow (count : Nat) (field : String) : Prop :=
  ∀ p, position? field wordSize = some p → p < count

/-- What a field stands for: the node at the position that it is a numeral of, or itself. -/
def ReturnItem.reading (nodes : List Node) (field : String) : ReturnItem :=
  match (position? field wordSize).bind (nodes[·]?) with
  | some n => .node n
  | none => .text field

namespace Diagram

variable (d : Diagram)

/-- What the return fields stand for. -/
def readings : List ReturnItem :=
  d.returnFields.map (ReturnItem.reading d.nodes)

/-- No two nodes share an id, a word holds every position, as it does of any list in memory, and no
return field is the numeral of anything but a position. -/
structure Referring : Prop where
  nodup : (d.nodes.map (·.id)).Nodup
  size : d.nodes.length ≤ wordSize
  inRange : ∀ field ∈ d.returnFields, RefersBelow d.nodes.length field

end Diagram

/-! ### One field -/

namespace ReturnItem

variable {nodes : List Node} {field : String} {p : Nat}

theorem reading_of_position (h : position? field wordSize = some p) {n : Node}
    (hn : nodes[p]? = some n) : reading nodes field = .node n := by
  rw [reading, h, Option.bind_some, hn]

/-- A field that is no numeral of a word stands for itself. -/
theorem reading_of_none (h : position? field wordSize = none) :
    reading nodes field = .text field := by
  rw [reading, h]
  rfl

/-- The numeral of a position refers to the node there. -/
theorem reading_positionField (hsize : nodes.length ≤ wordSize) {n : Node}
    (hn : nodes[p]? = some n) :
    RefersBelow nodes.length (positionField p) ∧ reading nodes (positionField p) = .node n := by
  obtain ⟨hlt, -⟩ := List.getElem?_eq_some_iff.mp hn
  have hp : position? (positionField p) wordSize = some p := position?_positionField (by omega)
  refine ⟨fun q hq => ?_, reading_of_position hp hn⟩
  rw [hp, Option.some.injEq] at hq
  exact hq ▸ hlt

/-- A field that may refer to a node is the numeral of its position, or no numeral of a word. -/
theorem refersBelow_cases (hsize : nodes.length ≤ wordSize) (h : RefersBelow nodes.length field) :
    (∃ p n, position? field wordSize = some p ∧ position? field nodes.length = some p ∧
        nodes[p]? = some n) ∨
      (position? field wordSize = none ∧ position? field nodes.length = none) := by
  cases hp : position? field wordSize with
  | none => exact .inr ⟨rfl, position?_eq_none_of_le hp hsize⟩
  | some p =>
      have hlt : p < nodes.length := h p hp
      exact .inl ⟨p, nodes[p], rfl, position?_of_lt hp hlt, List.getElem?_eq_getElem hlt⟩

theorem refersBelow_of_none {count : Nat} (h : position? field wordSize = none) :
    RefersBelow count field := by
  intro p hp
  rw [h] at hp
  cases hp

/-- The numeral of a position refers to it and to no other one. -/
theorem refersBelow_of_some {count : Nat} (h : position? field wordSize = some p)
    (hlt : p < count) : RefersBelow count field := by
  intro q hq
  rw [h, Option.some.injEq] at hq
  exact hq ▸ hlt

/-- A new node behind the others changes nothing that a field stands for. -/
theorem reading_append (hsize : nodes.length ≤ wordSize) (h : RefersBelow nodes.length field)
    (new : Node) :
    RefersBelow (nodes ++ [new]).length field ∧
      reading (nodes ++ [new]) field = reading nodes field := by
  rcases refersBelow_cases hsize h with ⟨p, n, hp, -, hn⟩ | ⟨hp, -⟩
  · obtain ⟨hlt, -⟩ := List.getElem?_eq_some_iff.mp hn
    have hn' : (nodes ++ [new])[p]? = some n := by rw [List.getElem?_append_left hlt, hn]
    refine ⟨refersBelow_of_some hp (by simp; omega), ?_⟩
    rw [reading_of_position hp hn', reading_of_position hp hn]
  · exact ⟨refersBelow_of_none hp, by rw [reading_of_none hp, reading_of_none hp]⟩

/-- A move changes nothing that a field stands for. -/
theorem reading_afterMove {source target : Nat} {moved : Node} (hsize : nodes.length ≤ wordSize)
    (h : RefersBelow nodes.length field) (hmoved : nodes[source]? = some moved)
    (htarget : target < nodes.length) {nodes' : List Node}
    (hnodes' : nodes' = (nodes.eraseIdx source).insertIdx target moved) :
    RefersBelow nodes'.length (Diagram.fieldAfterMove nodes.length source target field) ∧
      reading nodes' (Diagram.fieldAfterMove nodes.length source target field)
        = reading nodes field := by
  obtain ⟨hsource, -⟩ := List.getElem?_eq_some_iff.mp hmoved
  have hlength : nodes'.length = nodes.length := by
    rw [hnodes', length_insertIdx_eraseIdx hsource htarget]
  rcases refersBelow_cases hsize h with ⟨p, n, hword, hp, hn⟩ | ⟨hword, hp⟩
  · obtain ⟨hlt, -⟩ := List.getElem?_eq_some_iff.mp hn
    have hn' : nodes'[Diagram.positionAfterMove source target p]? = some n := by
      rw [hnodes', getElem?_positionAfterMove hmoved htarget hlt, hn]
    rw [Diagram.fieldAfterMove, hp, reading_of_position hword hn]
    exact reading_positionField (hlength ▸ hsize) hn'
  · rw [Diagram.fieldAfterMove, hp]
    exact ⟨refersBelow_of_none hword, by rw [reading_of_none hword, reading_of_none hword]⟩

/-- A removal drops a field that stands for the removed node, and changes nothing that any other
stands for. -/
theorem reading_afterRemoval {index : Nat} {removed : Node}
    (hnodes : (nodes.map (·.id)).Nodup) (hsize : nodes.length ≤ wordSize)
    (h : RefersBelow nodes.length field) (hremoved : nodes[index]? = some removed) :
    (Diagram.fieldAfterRemoval nodes.length index field = none ∧
        (reading nodes field).isNode removed.id = true) ∨
      ∃ field', Diagram.fieldAfterRemoval nodes.length index field = some field' ∧
        (reading nodes field).isNode removed.id = false ∧
        RefersBelow (nodes.eraseIdx index).length field' ∧
        reading (nodes.eraseIdx index) field' = reading nodes field := by
  obtain ⟨hindex, -⟩ := List.getElem?_eq_some_iff.mp hremoved
  have hlength : (nodes.eraseIdx index).length = nodes.length - 1 :=
    List.length_eraseIdx_of_lt hindex
  rcases refersBelow_cases hsize h with ⟨p, n, hword, hp, hn⟩ | ⟨hword, hp⟩
  · obtain ⟨hlt, -⟩ := List.getElem?_eq_some_iff.mp hn
    rw [Diagram.fieldAfterRemoval, hp, reading_of_position hword hn]
    rcases Nat.lt_trichotomy p index with hlow | rfl | hhigh
    · have hn' : (nodes.eraseIdx index)[p]? = some n := by
        rw [List.getElem?_eraseIdx_of_lt hlow, hn]
      have hid := id_ne_of_getElem? hnodes hn hremoved (Nat.ne_of_lt hlow)
      simp only [if_neg (Nat.ne_of_lt hlow), if_neg (Nat.lt_asymm hlow)]
      exact .inr ⟨field, rfl, decide_eq_false hid, refersBelow_of_some hword (by omega),
        reading_of_position hword hn'⟩
    · obtain rfl : n = removed := Option.some.inj (hn.symm.trans hremoved)
      exact .inl ⟨if_pos rfl, decide_eq_true rfl⟩
    · have hn' : (nodes.eraseIdx index)[p - 1]? = some n := by
        rw [List.getElem?_eraseIdx_of_ge (by omega), Nat.sub_add_cancel (by omega), hn]
      have hid := id_ne_of_getElem? hnodes hn hremoved (Nat.ne_of_gt hhigh)
      simp only [if_neg (Nat.ne_of_gt hhigh), if_pos hhigh]
      exact .inr ⟨_, rfl, decide_eq_false hid, reading_positionField (by omega) hn'⟩
  · rw [fieldAfterRemoval_of_none hp, reading_of_none hword]
    exact .inr ⟨field, rfl, rfl, refersBelow_of_none hword, reading_of_none hword⟩

end ReturnItem

/-! ### One edit of a diagram -/

/-- Where what is dropped and what is kept reads as `p` says, the readings of what is kept are those
that satisfy `p`. -/
theorem map_filterMap_eq_filter_map {α β : Type} {f : α → Option α} {g g' : α → β} {p : β → Bool} :
    ∀ {as : List α},
      (∀ a ∈ as, (f a = none ∧ p (g a) = false) ∨
        ∃ a', f a = some a' ∧ p (g a) = true ∧ g' a' = g a) →
      (as.filterMap f).map g' = (as.map g).filter p
  | [], _ => rfl
  | a :: as, h => by
      have ih := map_filterMap_eq_filter_map fun b hb => h b (List.mem_cons_of_mem a hb)
      rcases h a (List.mem_cons_self ..) with ⟨hnone, hp⟩ | ⟨a', hsome, hp, hg⟩
      · rw [List.filterMap_cons_none hnone, List.map_cons,
          List.filter_cons_of_neg (by simp [hp]), ih]
      · rw [List.filterMap_cons_some hsome, List.map_cons, List.map_cons, hg,
          List.filter_cons_of_pos hp, ih]

/-- What an edit that removes the nodes `gone` makes of the return fields: those that stand for
others stand for what they stood for, and they all still refer to nodes or are texts. -/
structure Diagram.Carries (gone : List String) (d d' : Diagram) : Prop where
  referring : d'.Referring
  readings : d'.readings = d.readings.filter fun item => !gone.any item.isNode

namespace Diagram

variable {d d' : Diagram}

/-- An edit that leaves the nodes and the return fields alone carries them over. -/
theorem Referring.carries_of_eq (h : d.Referring) (hnodes : d'.nodes = d.nodes)
    (hfields : d'.returnFields = d.returnFields) : Carries [] d d' where
  referring := ⟨hnodes ▸ h.nodup, hnodes ▸ h.size, hnodes ▸ hfields ▸ h.inRange⟩
  readings := by simp [Diagram.readings, hnodes, hfields]

/-- No field is the numeral of the position where a new node goes. -/
theorem Referring.carries_addNode (h : d.Referring) {n : Node} (hroom : d.nodes.length < wordSize)
    (hnew : n.id ∉ d.nodes.map (·.id)) : Carries [] d (d.addNode n) := by
  have hfield : ∀ field ∈ d.returnFields, _ := fun field hfield =>
    ReturnItem.reading_append h.size (h.inRange field hfield) n
  refine ⟨⟨?_, ?_, fun field hf => (hfield field hf).1⟩, ?_⟩
  · rw [addNode, List.map_append, List.nodup_append]
    refine ⟨h.nodup, List.nodup_singleton _, fun id hid id' hid' => ?_⟩
    rw [List.mem_singleton.mp hid']
    rintro rfl
    exact hnew hid
  · simpa [addNode] using Nat.succ_le_of_lt hroom
  · simpa [Diagram.readings, addNode] using fun field hf => (hfield field hf).2

/-- What is removed, moved or changed keeps ids apart and makes no nodes. -/
theorem Referring.of_drawsNothing (h : d.Referring) (hdraws : DrawsNothing d d')
    (hinRange : ∀ field ∈ d'.returnFields, RefersBelow d'.nodes.length field) : d'.Referring := by
  obtain ⟨kept, hperm, hkept⟩ := hdraws.ids .node
  refine ⟨hperm.nodup_iff.mp (h.nodup.sublist hkept), ?_, hinRange⟩
  have hle := (hdraws.ids .node).length_le
  simp only [ids, List.length_map] at hle
  exact Nat.le_trans hle h.size

/-- When a node is moved, every numeral goes with its node. -/
theorem Referring.carries_moveNode? (h : d.Referring) {source target : Nat}
    (hmove : d.moveNode? source target = some d') : Carries [] d d' := by
  have hdraws := drawsNothing_moveNode? hmove
  obtain ⟨moved, hmoved, htarget, rfl⟩ := moveNode?_eq_some hmove
  by_cases hsame : source = target
  · rw [if_pos hsame]
    exact h.carries_of_eq rfl rfl
  · rw [if_neg hsame] at hdraws ⊢
    have hfield : ∀ field ∈ d.returnFields, _ := fun field hf =>
      ReturnItem.reading_afterMove h.size (h.inRange field hf) hmoved htarget rfl
    refine ⟨h.of_drawsNothing hdraws ?_, ?_⟩
    · simpa using fun field hf => (hfield field hf).1
    · simpa [Diagram.readings] using fun field hf => (hfield field hf).2

/-- When a node is removed, its fields go with it and the others keep their nodes. -/
theorem Referring.carries_removeNode? (h : d.Referring) {id : String}
    (hremove : d.removeNode? id = some d') : Carries [id] d d' := by
  have hdraws := drawsNothing_removeNode? hremove
  obtain ⟨index, removed, -, hremoved, rfl, rfl⟩ := removeNode?_eq_some hremove
  have hfield : ∀ field ∈ d.returnFields, _ := fun field hf =>
    ReturnItem.reading_afterRemoval h.nodup h.size (h.inRange field hf) hremoved
  refine ⟨h.of_drawsNothing hdraws fun field' hf' => ?_, ?_⟩
  · obtain ⟨field, hf, hafter⟩ := List.mem_filterMap.mp hf'
    rcases hfield field hf with ⟨hnone, -⟩ | ⟨field'', hsome, -, hrefers, -⟩
    · rw [hnone] at hafter
      cases hafter
    · rw [hsome, Option.some.injEq] at hafter
      exact hafter ▸ hrefers
  · refine map_filterMap_eq_filter_map fun field hf => ?_
    simp only [List.any_cons, List.any_nil, Bool.or_false]
    rcases hfield field hf with ⟨hnone, hnode⟩ | ⟨field', hsome, hnode, -, hreading⟩
    · exact .inl ⟨hnone, by rw [hnode]; rfl⟩
    · exact .inr ⟨field', hsome, by rw [hnode]; rfl, hreading⟩

/-- An operation that changes neither the nodes nor the return fields. -/
def KeepsFields (d : Diagram) (d? : Option Diagram) : Prop :=
  ∀ d', d? = some d' → d'.nodes = d.nodes ∧ d'.returnFields = d.returnFields

/-- A new relationship leaves the nodes and the return fields alone. -/
theorem keepsFields_addRelationship? (d : Diagram) (r : Relationship) :
    d.KeepsFields (d.addRelationship? r) := by
  intro d' h
  rw [addRelationship?] at h
  split at h
  · cases h
    exact ⟨rfl, rfl⟩
  · cases h

theorem keepsFields_removeRelationship? (d : Diagram) (id : String) :
    d.KeepsFields (d.removeRelationship? id) := by
  intro d' h
  rw [removeRelationship?] at h
  split at h
  · cases h
    exact ⟨rfl, rfl⟩
  · cases h

theorem keepsFields_changeRelationship? (d : Diagram) (id : String)
    (f : Relationship → Relationship) : d.KeepsFields (d.changeRelationship? id f) := by
  intro d' h
  obtain ⟨rs, -, rfl⟩ := Option.map_eq_some_iff.mp h
  exact ⟨rfl, rfl⟩

theorem keepsFields_removeCondition? (d : Diagram) (id : String) :
    d.KeepsFields (d.removeCondition? id) := by
  intro d' h
  rw [removeCondition?] at h
  split at h
  · cases h
    exact ⟨rfl, rfl⟩
  · cases h

end Diagram

namespace Session

/-! ### One edit of a session -/

/-- An edit that the return fields survive: they are not replaced, and a new node gets an id that no
node has, at a position that a word holds. -/
def Admits (s : Session) : Edit → Prop
  | .addNode _ _ =>
    EntityKind.node.id (s.ids.issued + 1) ∉ s.diagram.ids .node ∧
      s.diagram.nodes.length < wordSize
  | .setReturnFields _ => False
  | _ => True

/-- The id of the node that an edit removes, if it removes one. -/
def removed (s : Session) : Edit → List String
  | .removeNode id => if (s.diagram.removeNode? id).isSome then [id] else []
  | _ => []

/-- A change that is refused carries the fields along by leaving everything as it is. -/
theorem carries_change (s : Session) (h : s.diagram.Referring) {d? : Option Diagram}
    (hd : ∀ d', d? = some d' → s.diagram.Carries [] d') :
    s.diagram.Carries [] (s.change d?).2.diagram := by
  cases d? with
  | none => exact h.carries_of_eq rfl rfl
  | some d' => exact hd d' rfl

theorem carries_change_of_keepsFields (s : Session) (h : s.diagram.Referring)
    {d? : Option Diagram} (hd : s.diagram.KeepsFields d?) :
    s.diagram.Carries [] (s.change d?).2.diagram :=
  s.carries_change h fun d' h' => h.carries_of_eq (hd d' h').1 (hd d' h').2

/-- **An edit drops what stands for the node that it removes, and nothing else.** -/
theorem carries_apply {s : Session} (h : s.diagram.Referring) {e : Edit} (he : s.Admits e) :
    s.diagram.Carries (s.removed e) (s.apply e).2.diagram := by
  cases e with
  | addNode label name => exact h.carries_addNode he.2 he.1
  | removeNode id =>
      rw [removed, apply]
      cases hremove : s.diagram.removeNode? id with
      | none => exact h.carries_of_eq rfl rfl
      | some d => exact h.carries_removeNode? hremove
  | moveNode source target => exact s.carries_change h fun _ => h.carries_moveNode?
  | addRelationship source target type =>
      rw [apply]
      cases hadd : s.diagram.addRelationship?
          (.ofEnds (s.ids.next .relationship).1 source target type) with
      | none => simpa [removed, hadd] using h.carries_of_eq rfl rfl
      | some d =>
          obtain ⟨hnodes, hfields⟩ := s.diagram.keepsFields_addRelationship? _ d hadd
          simpa [removed, hadd] using h.carries_of_eq hnodes hfields
  | removeRelationship id =>
      exact s.carries_change_of_keepsFields h (s.diagram.keepsFields_removeRelationship? id)
  | setEnabled id enabled =>
      exact s.carries_change_of_keepsFields h (s.diagram.keepsFields_changeRelationship? id _)
  | setMatchType id matchType =>
      exact s.carries_change_of_keepsFields h (s.diagram.keepsFields_changeRelationship? id _)
  | addCondition filter => exact h.carries_of_eq rfl rfl
  | removeCondition id =>
      exact s.carries_change_of_keepsFields h (s.diagram.keepsFields_removeCondition? id)
  | setReturnFields fields => exact he.elim
  | setLimit limit => exact h.carries_of_eq rfl rfl
  | setLimitMode mode => exact h.carries_of_eq rfl rfl

/-! ### A run of edits -/

/-- A run of edits that the return fields survive. -/
def AdmitsRun (s : Session) : List Edit → Prop
  | [] => True
  | e :: es => s.Admits e ∧ (s.apply e).2.AdmitsRun es

/-- The ids of the nodes that a run removes, in order. -/
def removedNodes (s : Session) : List Edit → List String
  | [] => []
  | e :: es => s.removed e ++ (s.apply e).2.removedNodes es

/-- **A run of edits** carries the fields along, edit by edit. -/
theorem carries_run {s : Session} (h : s.diagram.Referring) {es : List Edit}
    (hes : s.AdmitsRun es) : s.diagram.Carries (s.removedNodes es) (s.run es).2.diagram := by
  induction es generalizing s with
  | nil => exact h.carries_of_eq rfl rfl
  | cons e es ih =>
      have hstep := carries_apply h hes.1
      have hrest := ih hstep.referring hes.2
      refine ⟨hrest.referring, ?_⟩
      rw [run, hrest.readings, hstep.readings, List.filter_filter, removedNodes]
      simp [List.any_append, Bool.and_comm]

end Session

/-- **Return fields refer to nodes over a whole run.**  Let no two nodes share an id, and let every
return field be a text or the numeral of a position.  After any run of edits that does not replace
the return fields and hands out no id of a node that is there, what they stand for is what they
stood for without the nodes that the run has removed, in the same order; and again every return
field is a text or the numeral of a position. -/
theorem readings_follow_run (s : Session) (h : s.diagram.Referring) (es : List Edit)
    (hes : s.AdmitsRun es) :
    (s.run es).2.diagram.readings
        = s.diagram.readings.filter (fun item => !(s.removedNodes es).any item.isNode) ∧
      (s.run es).2.diagram.Referring :=
  ⟨(Session.carries_run h hes).readings, (Session.carries_run h hes).referring⟩

/-- A drawing whose return fields are positions in several spellings, a text, and a numeral that no
word holds. -/
def spelled : Session where
  diagram :=
    { nodes := [⟨"a", none, "a"⟩, ⟨"b", none, "b"⟩, ⟨"c", none, "c"⟩]
      relationships := []
      conditions := []
      returnFields := ["+2", "x", "001", "0", "18446744073709551616"]
      limit := ""
      limitMode := .rows }
  ids := .new

/-- A node joins in, the first one moves behind the others, a node goes, and another removal is
refused. -/
def reshuffle : List Edit :=
  [.addNode none "n", .moveNode 0 3, .addRelationship "a" "node-1" none, .removeNode "b",
    .removeNode "gone"]

theorem referring_spelled : spelled.diagram.Referring where
  nodup := by decide
  size := by decide
  inRange := by
    have hfields : ∀ field ∈ spelled.diagram.returnFields,
        position? field wordSize = none ∨ position? field wordSize = some 0 ∨
          position? field wordSize = some 1 ∨ position? field wordSize = some 2 := by decide
    intro field hfield p hp
    have hlength : spelled.diagram.nodes.length = 3 := rfl
    rcases hfields field hfield with h | h | h | h <;> rw [h] at hp <;> cases hp <;> omega

/-- Of `spelled` the fields for the removed node are gone, and the numerals of the others are
new. -/
theorem readings_follow_reshuffle :
    spelled.diagram.Referring ∧ spelled.AdmitsRun reshuffle ∧
      spelled.removedNodes reshuffle = ["b"] ∧
      (spelled.run reshuffle).2.diagram.returnFields = ["0", "x", "2", "18446744073709551616"] ∧
      (spelled.run reshuffle).2.diagram.readings =
        [.node ⟨"c", none, "c"⟩, .text "x", .node ⟨"a", none, "a"⟩,
          .text "18446744073709551616"] := by
  have hadmits : spelled.AdmitsRun reshuffle :=
    ⟨⟨by decide, by decide⟩, trivial, trivial, trivial, trivial, trivial⟩
  obtain ⟨hreadings, -⟩ := readings_follow_run spelled referring_spelled reshuffle hadmits
  refine ⟨referring_spelled, hadmits, by decide, by decide, ?_⟩
  rw [hreadings]
  decide

end GraphQuery
