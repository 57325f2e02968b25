import Mathlib.Data.List.Nodup
import GraphQuery.Diagram.Edit
import GraphQuery.Proofs.Positions

/-!
# Proofs — return fields follow their nodes

When a node is removed or moved, the return fields that name positions are rewritten, so that they
go on standing for the same nodes (`read?_afterRemoval`, `read?_afterMove_iff`).  A field is
rewritten only if it names a position as it is written, whereas a query cuts the blanks around it
off first.  `paddedPosition?` is the position that a field names only then; it is left as it is,
and then stands for something else (`read?_afterRemoval_of_padded`).

**What the return fields stand for stays the same under a removal and under a move, exactly if no
such position is affected** (`returnItems_follow_nodes`).  So it does not always stay the same
(`padded_field_astray`).
-/

namespace GraphQuery

/-- Two partial maps that leave out less and less agree on a list where what they keep agrees. -/
theorem filterMap_eq_filterMap_iff {α β : Type} {f g : α → Option β} :
    ∀ {as : List α}, (∀ a ∈ as, (g a).isSome = true → (f a).isSome = true) →
      (as.filterMap f = as.filterMap g ↔ ∀ a ∈ as, f a = g a)
  | [], _ => by simp
  | a :: as, h => by
      have ih := filterMap_eq_filterMap_iff fun b hb => h b (List.mem_cons_of_mem a hb)
      rw [List.forall_mem_cons]
      cases hf : f a with
      | none =>
          have hg : g a = none := by
            cases hg : g a with
            | none => rfl
            | some b => exact absurd (h a (List.mem_cons_self ..) (by rw [hg]; rfl)) (by simp [hf])
          rw [List.filterMap_cons_none hf, List.filterMap_cons_none hg, hg, ih]
          exact (and_iff_right rfl).symm
      | some b =>
          rw [List.filterMap_cons_some hf]
          cases hg : g a with
          | none =>
              -- then the left list is longer
              have hle : as.countP (fun x => (g x).isSome) ≤ as.countP (fun x => (f x).isSome) :=
                List.countP_mono_left fun x hx => h x (List.mem_cons_of_mem a hx)
              rw [List.filterMap_cons_none hg]
              refine ⟨fun heq => ?_, fun heq => by cases heq.1⟩
              have hlength := congrArg List.length heq
              rw [List.length_cons, List.length_filterMap_eq_countP,
                List.length_filterMap_eq_countP] at hlength
              omega
          | some c => rw [List.filterMap_cons_some hg, List.cons.injEq, Option.some.injEq, ih]

/-- The position that a field names only once the blanks around it are cut off. -/
def paddedPosition? (field : String) (count : Nat) : Option Nat :=
  match position? field count with
  | some _ => none
  | none => position? (Text.trim field) count

namespace ReturnItem

/-- What a field stands for among these nodes, unless it is blank. -/
def read? (nodes : List Node) (field : String) : Option ReturnItem :=
  if Text.trim field = "" then none else some (ofField nodes (Text.trim field))

/-- Whether an item is the node with an id. -/
def isNode (id : String) : ReturnItem → Bool
  | .node n => n.id = id
  | .text _ => false

variable {nodes : List Node} {field : String} {position : Nat}

/-- A field that names a position, blanks around it apart, stands for the node there. -/
theorem read?_of_position (h : position? (Text.trim field) nodes.length = some position) :
    read? nodes field = nodes[position]?.map .node := by
  have hne : Text.trim field ≠ "" := ne_empty_of_position? h
  have hlt : position < nodes.length := (position?_eq_some_iff.mp h).2
  rw [read?, if_neg hne, ofField, h, Option.bind_some, List.getElem?_eq_getElem hlt]
  rfl

/-- Any other field stands for itself, among whatever nodes. -/
theorem read?_of_none (h : position? (Text.trim field) nodes.length = none) :
    read? nodes field = if Text.trim field = "" then none else some (.text (Text.trim field)) := by
  rw [read?, ofField, h]
  rfl

theorem read?_positionField (h : position < nodes.length) :
    read? nodes (positionField position) = nodes[position]?.map .node := by
  have hp : position? (positionField position) nodes.length = some position :=
    position?_positionField h
  exact read?_of_position (by rw [trim_eq_of_position? hp, hp])

end ReturnItem

theorem Diagram.returnItems_eq_filterMap (d : Diagram) :
    d.returnItems = d.returnFields.filterMap (ReturnItem.read? d.nodes) := by
  rw [returnItems]
  induction d.returnFields with
  | nil => rfl
  | cons field fields ih =>
      rw [List.map_cons, List.filter_cons, List.filterMap_cons, ReturnItem.read?, ← ih]
      by_cases hblank : Text.trim field = "" <;> simp [hblank]

/-- The three kinds of fields: a position, a position with blanks around it, and a text. -/
theorem position?_cases (field : String) (count : Nat) :
    (∃ p < count, position? field count = some p ∧ position? (Text.trim field) count = some p ∧
        paddedPosition? field count = none) ∨
      (∃ p < count, position? field count = none ∧ position? (Text.trim field) count = some p ∧
        paddedPosition? field count = some p) ∨
      (position? field count = none ∧ position? (Text.trim field) count = none ∧
        paddedPosition? field count = none) := by
  cases hp : position? field count with
  | some p =>
      exact .inl ⟨p, (position?_eq_some_iff.mp hp).2, rfl, by rw [trim_eq_of_position? hp, hp],
        by rw [paddedPosition?, hp]⟩
  | none =>
      rw [paddedPosition?, hp]
      cases ht : position? (Text.trim field) count with
      | some p => exact .inr (.inl ⟨p, (position?_eq_some_iff.mp ht).2, rfl, rfl, rfl⟩)
      | none => exact .inr (.inr ⟨rfl, rfl, rfl⟩)

/-- Nodes at different positions have different ids. -/
theorem id_ne_of_getElem? {nodes : List Node} (hnodes : (nodes.map (·.id)).Nodup) {i j : Nat}
    {m n : Node} (hm : nodes[i]? = some m) (hn : nodes[j]? = some n) (hij : i ≠ j) :
    m.id ≠ n.id := by
  intro hid
  have hi : (nodes.map (·.id))[i]? = some m.id := by rw [List.getElem?_map, hm]; rfl
  have hj : (nodes.map (·.id))[j]? = some m.id := by rw [List.getElem?_map, hn, hid]; rfl
  obtain ⟨hlt, -⟩ := List.getElem?_eq_some_iff.mp hi
  exact hij ((List.getElem?_inj hlt hnodes).mp (hi.trans hj.symm))

/-! ### Removing a node -/

namespace ReturnItem

variable {nodes : List Node} {index position : Nat} {removed : Node} {field : String}

/-- Dropping what stands for the removed node drops what stands for its position. -/
theorem filter_isNode_getElem? (hnodes : (nodes.map (·.id)).Nodup)
    (hremoved : nodes[index]? = some removed) (position : Nat) :
    (nodes[position]?.map node).filter (fun item => !item.isNode removed.id)
      = if position = index then none else nodes[position]?.map node := by
  cases hn : nodes[position]? with
  | none => split <;> rfl
  | some n =>
      rw [Option.map_some, Option.filter_some, isNode]
      by_cases h : position = index
      · obtain rfl : n = removed := Option.some.inj (hn.symm.trans (h ▸ hremoved))
        simp [h]
      · simp [h, id_ne_of_getElem? hnodes hn hremoved h]

theorem filter_isNode_of_none (id : String)
    (h : position? (Text.trim field) nodes.length = none) :
    (read? nodes field).filter (fun item => !item.isNode id) = read? nodes field := by
  rw [read?_of_none h]
  split <;> rfl

/-- A field in front of a removed node stands for the same node. -/
theorem read?_eraseIdx_of_lt (hindex : index < nodes.length)
    (h : position? (Text.trim field) nodes.length = some position) (hlt : position < index) :
    read? (nodes.eraseIdx index) field = nodes[position]?.map node := by
  have hlength : (nodes.eraseIdx index).length = nodes.length - 1 :=
    List.length_eraseIdx_of_lt hindex
  rw [read?_of_position (position?_of_lt h (by omega)), List.getElem?_eraseIdx_of_lt hlt]

/-- A field that names no position does so also after a removal. -/
theorem read?_eraseIdx_of_none (h : position? (Text.trim field) nodes.length = none) :
    read? (nodes.eraseIdx index) field = read? nodes field := by
  have hle : (nodes.eraseIdx index).length ≤ nodes.length := List.length_eraseIdx_le ..
  rw [read?_of_none h, read?_of_none (position?_eq_none_of_le h hle)]

theorem fieldAfterRemoval_of_none {count : Nat} (h : position? field count = none) :
    Diagram.fieldAfterRemoval count index field = some field := by
  rw [Diagram.fieldAfterRemoval, h]

/-- A field that names no affected position stands for the same item after a removal, unless that
item is the node that is removed. -/
theorem read?_afterRemoval (hnodes : (nodes.map (·.id)).Nodup)
    (hremoved : nodes[index]? = some removed)
    (hpadded : ∀ p, paddedPosition? field nodes.length = some p → p < index) :
    (Diagram.fieldAfterRemoval nodes.length index field).bind (read? (nodes.eraseIdx index))
      = (read? nodes field).filter fun item => !item.isNode removed.id := by
  obtain ⟨hindex, -⟩ := List.getElem?_eq_some_iff.mp hremoved
  have hlength : (nodes.eraseIdx index).length = nodes.length - 1 :=
    List.length_eraseIdx_of_lt hindex
  rcases position?_cases field nodes.length with
    ⟨p, hlt, hp, ht, -⟩ | ⟨p, hlt, hp, ht, hpad⟩ | ⟨hp, ht, -⟩
  · rw [Diagram.fieldAfterRemoval, hp, read?_of_position ht, filter_isNode_getElem? hnodes hremoved]
    rcases Nat.lt_trichotomy p index with hlow | rfl | hhigh
    · simp only [if_neg (Nat.ne_of_lt hlow), if_neg (Nat.lt_asymm hlow), Option.bind_some]
      exact read?_eraseIdx_of_lt hindex ht hlow
    · simp only [if_true, Option.bind_none]
    · simp only [if_neg (Nat.ne_of_gt hhigh), if_pos hhigh, Option.bind_some]
      rw [read?_positionField (by omega), List.getElem?_eraseIdx_of_ge (by omega),
        Nat.sub_add_cancel (by omega)]
  · have hlow : p < index := hpadded p hpad
    rw [fieldAfterRemoval_of_none hp, Option.bind_some, read?_of_position ht,
      filter_isNode_getElem? hnodes hremoved, if_neg (Nat.ne_of_lt hlow)]
    exact read?_eraseIdx_of_lt hindex ht hlow
  · rw [fieldAfterRemoval_of_none hp, Option.bind_some, filter_isNode_of_none _ ht]
    exact read?_eraseIdx_of_none ht

/-- A field with blanks around an affected position is left as it is, and stands for something else
than before. -/
theorem read?_afterRemoval_of_padded (hnodes : (nodes.map (·.id)).Nodup)
    (hremoved : nodes[index]? = some removed)
    (hpadded : paddedPosition? field nodes.length = some position) (hge : index ≤ position) :
    ∃ item, (Diagram.fieldAfterRemoval nodes.length index field).bind
        (read? (nodes.eraseIdx index)) = some item ∧
      (read? nodes field).filter (fun item => !item.isNode removed.id) ≠ some item := by
  obtain ⟨hindex, -⟩ := List.getElem?_eq_some_iff.mp hremoved
  have hlength : (nodes.eraseIdx index).length = nodes.length - 1 :=
    List.length_eraseIdx_of_lt hindex
  rcases position?_cases field nodes.length with
    ⟨p, -, -, -, hnone⟩ | ⟨p, hlt, hp, ht, hpad⟩ | ⟨-, -, hnone⟩
  · rw [hnone] at hpadded; cases hpadded
  · obtain rfl : p = position := Option.some.inj (hpad.symm.trans hpadded)
    rw [fieldAfterRemoval_of_none hp, Option.bind_some, read?_of_position ht,
      filter_isNode_getElem? hnodes hremoved]
    by_cases hlast : p < nodes.length - 1
    · -- the node behind has moved up
      have hnext : p + 1 < nodes.length := by omega
      have hn := List.getElem?_eq_getElem hlt
      have hn' := List.getElem?_eq_getElem hnext
      refine ⟨.node nodes[p + 1], ?_, ?_⟩
      · rw [read?_of_position (position?_of_lt ht (by omega)),
          List.getElem?_eraseIdx_of_ge hge, hn']
        rfl
      · intro heq
        rw [hn] at heq
        split at heq
        · cases heq
        · have hid : nodes[p].id = nodes[p + 1].id :=
            congrArg Node.id (ReturnItem.node.inj (Option.some.inj heq))
          exact id_ne_of_getElem? hnodes hn hn' (by omega) hid
    · -- there is no such position any more
      refine ⟨.text (Text.trim field), ?_, ?_⟩
      · rw [read?_of_none (position?_eq_none_of_ge ht (by omega)),
          if_neg (ne_empty_of_position? ht)]
      · rw [List.getElem?_eq_getElem hlt]
        split <;> rintro ⟨⟩
  · rw [hnone] at hpadded; cases hpadded

/-! ### Moving a node -/

variable {nodes' : List Node} {source target : Nat}

theorem positionAfterMove_lt {count : Nat} (hsource : source < count) (htarget : target < count)
    (hposition : position < count) : Diagram.positionAfterMove source target position < count := by
  rw [Diagram.positionAfterMove]
  repeat' split
  all_goals omega

/-- What is taken out and put in elsewhere leaves the number of items as it was. -/
theorem length_insertIdx_eraseIdx {α : Type} {as : List α} (hsource : source < as.length)
    (htarget : target < as.length) (a : α) :
    ((as.eraseIdx source).insertIdx target a).length = as.length := by
  have hlength : (as.eraseIdx source).length = as.length - 1 := List.length_eraseIdx_of_lt hsource
  rw [List.length_insertIdx_of_le_length (by omega)]
  omega

/-- What stood at a position before a move stands at the new one behind it. -/
theorem getElem?_positionAfterMove {α : Type} {as : List α} {a : α} (ha : as[source]? = some a)
    (htarget : target < as.length) (hposition : position < as.length) :
    ((as.eraseIdx source).insertIdx target a)[Diagram.positionAfterMove source target position]?
      = as[position]? := by
  obtain ⟨hsource, -⟩ := List.getElem?_eq_some_iff.mp ha
  have hlength : (as.eraseIdx source).length = as.length - 1 := List.length_eraseIdx_of_lt hsource
  rw [Diagram.positionAfterMove]
  -- the moved item, those that close the gap, those that make room, and the others
  split
  · rename_i heq
    rw [List.getElem?_insertIdx_self, if_pos (by omega), heq, ha]
  · split
    · rw [List.getElem?_insertIdx_of_lt (by omega), List.getElem?_eraseIdx_of_ge (by omega),
        Nat.sub_add_cancel (by omega)]
    · split
      · rw [List.getElem?_insertIdx_of_gt (by omega), List.getElem?_eraseIdx_of_lt (by omega),
          Nat.add_sub_cancel]
      · rcases Nat.lt_or_gt_of_ne (show position ≠ target by omega) with hlow | hhigh
        · rw [List.getElem?_insertIdx_of_lt hlow, List.getElem?_eraseIdx_of_lt (by omega)]
        · rw [List.getElem?_insertIdx_of_gt hhigh, List.getElem?_eraseIdx_of_ge (by omega),
            Nat.sub_add_cancel (by omega)]

theorem positionAfterMove_self (place position : Nat) :
    Diagram.positionAfterMove place place position = position := by
  rw [Diagram.positionAfterMove]
  repeat' split
  all_goals omega

/-- Moving back undoes what a move does to positions. -/
theorem positionAfterMove_positionAfterMove (source target position : Nat) :
    Diagram.positionAfterMove source target (Diagram.positionAfterMove target source position)
      = position := by
  simp only [Diagram.positionAfterMove]
  repeat' split
  all_goals omega

/-- After a move a field stands for the same item as before, unless it is a position with blanks
around it that the move changes. -/
theorem read?_afterMove_iff {n : Node} (hnodes : (nodes.map (·.id)).Nodup)
    (hn : nodes[source]? = some n) (htarget : target < nodes.length) :
    (read? ((nodes.eraseIdx source).insertIdx target n)
        (Diagram.fieldAfterMove nodes.length source target field) = read? nodes field ↔
      ∀ p, paddedPosition? field nodes.length = some p →
        Diagram.positionAfterMove source target p = p) := by
  obtain ⟨hsource, -⟩ := List.getElem?_eq_some_iff.mp hn
  have hlength := length_insertIdx_eraseIdx hsource htarget n
  rw [Diagram.fieldAfterMove]
  rcases position?_cases field nodes.length with
    ⟨p, hlt, hp, ht, hnone⟩ | ⟨p, hlt, hp, ht, hpad⟩ | ⟨hp, ht, hnone⟩
  · refine iff_of_true ?_ fun q hq => by rw [hnone] at hq; cases hq
    have hlt' : Diagram.positionAfterMove source target p < nodes.length :=
      positionAfterMove_lt hsource htarget hlt
    rw [hp, read?_of_position ht, read?_positionField (hlength.symm ▸ hlt'),
      getElem?_positionAfterMove hn htarget hlt]
  · -- the node that is at `p` now was at the position that moving back leads to
    have hback : Diagram.positionAfterMove target source p < nodes.length :=
      positionAfterMove_lt htarget hsource hlt
    have hnow : ((nodes.eraseIdx source).insertIdx target n)[p]?
        = nodes[Diagram.positionAfterMove target source p]? := by
      rw [← getElem?_positionAfterMove hn htarget hback, positionAfterMove_positionAfterMove]
    rw [hp, read?_of_position ht, read?_of_position (hlength.symm ▸ ht), hnow]
    constructor
    · intro heq q hq
      obtain rfl : p = q := Option.some.inj (hpad.symm.trans hq)
      have hfix : Diagram.positionAfterMove target source p = p := by
        by_contra hne
        have hat := List.getElem?_eq_getElem hback
        have hat' := List.getElem?_eq_getElem hlt
        rw [hat, hat'] at heq
        exact id_ne_of_getElem? hnodes hat hat' hne
          (congrArg Node.id (ReturnItem.node.inj (Option.some.inj heq)))
      rw [← hfix, positionAfterMove_positionAfterMove, hfix]
    · intro hall
      rw [← hall p hpad, positionAfterMove_positionAfterMove, hall p hpad]
  · refine iff_of_true ?_ fun q hq => by rw [hnone] at hq; cases hq
    rw [hp, read?_of_none ht, read?_of_none (hlength.symm ▸ ht)]

theorem trim_positionField_ne_empty (position : Nat) : Text.trim (positionField position) ≠ "" := by
  have hp : position? (positionField position) (position + 1) = some position :=
    position?_positionField (Nat.lt_succ_self position)
  rw [trim_eq_of_position? hp]
  exact ne_empty_of_position? hp

/-- A move makes no field blank. -/
theorem isSome_read?_afterMove {count : Nat} (h : (read? nodes field).isSome = true) :
    (read? nodes' (Diagram.fieldAfterMove count source target field)).isSome = true := by
  rw [Diagram.fieldAfterMove]
  split
  · rw [read?, if_neg (trim_positionField_ne_empty _)]
    rfl
  · rw [read?] at h ⊢
    split at h
    · cases h
    · rename_i hne
      rw [if_neg hne]
      rfl

end ReturnItem

/-! ### All return fields -/

namespace Diagram

variable {d d' : Diagram}

theorem returnItems_removeNode? (hd : (d.nodes.map (·.id)).Nodup) {id : String}
    (h : d.removeNode? id = some d') :
    ∃ index, d.nodeIndex? id = some index ∧
      (d'.returnItems = d.returnItems.filter (fun item => !item.isNode id) ↔
        ∀ field ∈ d.returnFields, ∀ p, paddedPosition? field d.nodes.length = some p →
          p < index) := by
  obtain ⟨index, removed, hindex, hremoved, rfl, rfl⟩ := removeNode?_eq_some h
  refine ⟨index, hindex, ?_⟩
  rw [returnItems_eq_filterMap, returnItems_eq_filterMap, List.filterMap_filterMap,
    List.filter_filterMap, filterMap_eq_filterMap_iff]
  · refine forall₂_congr fun field _ =>
      ⟨fun heq p hp => ?_, ReturnItem.read?_afterRemoval hd hremoved⟩
    by_contra hge
    obtain ⟨item, hafter, hbefore⟩ :=
      ReturnItem.read?_afterRemoval_of_padded hd hremoved hp (Nat.not_lt.mp hge)
    exact hbefore (heq.symm.trans hafter)
  · -- what was there before and is not removed is still there, whatever it stands for
    intro field _ hsome
    by_cases hpadded : ∀ p, paddedPosition? field d.nodes.length = some p → p < index
    · rw [ReturnItem.read?_afterRemoval hd hremoved hpadded]
      exact hsome
    · simp only [not_forall] at hpadded
      obtain ⟨p, hp, hge⟩ := hpadded
      obtain ⟨item, hafter, -⟩ :=
        ReturnItem.read?_afterRemoval_of_padded hd hremoved hp (Nat.not_lt.mp hge)
      rw [hafter]
      rfl

theorem returnItems_moveNode? (hd : (d.nodes.map (·.id)).Nodup) {source target : Nat}
    (h : d.moveNode? source target = some d') :
    d'.returnItems = d.returnItems ↔
      ∀ field ∈ d.returnFields, ∀ p, paddedPosition? field d.nodes.length = some p →
        positionAfterMove source target p = p := by
  obtain ⟨n, hn, htarget, rfl⟩ := moveNode?_eq_some h
  by_cases hsame : source = target
  · rw [if_pos hsame, hsame]
    exact iff_of_true rfl fun _ _ p _ => ReturnItem.positionAfterMove_self target p
  · rw [if_neg hsame, returnItems_eq_filterMap, returnItems_eq_filterMap, List.filterMap_map,
      filterMap_eq_filterMap_iff]
    · refine forall₂_congr fun field _ => ?_
      rw [Function.comp_apply]
      exact ReturnItem.read?_afterMove_iff hd hn htarget
    · intro field _ h
      rw [Function.comp_apply]
      exact ReturnItem.isSome_read?_afterMove h

end Diagram

/-- **Return fields follow their nodes.**  In a diagram without repeated node ids, what the return
fields stand for behind a removal is what they stood for before it without the removed node, and a
move changes nothing of it; each exactly if the edit leaves alone every position that has blanks
around it.  A removal leaves those in front of the removed node alone, a move those that stay where
they are. -/
theorem returnItems_follow_nodes (d : Diagram) (hd : (d.nodes.map (·.id)).Nodup) :
    (∀ id d', d.removeNode? id = some d' →
      ∃ index, d.nodeIndex? id = some index ∧
        (d'.returnItems = d.returnItems.filter (fun item => !item.isNode id) ↔
          ∀ field ∈ d.returnFields, ∀ p, paddedPosition? field d.nodes.length = some p →
            p < index)) ∧
    ∀ source target d', d.moveNode? source target = some d' →
      (d'.returnItems = d.returnItems ↔
        ∀ field ∈ d.returnFields, ∀ p, paddedPosition? field d.nodes.length = some p →
          Diagram.positionAfterMove source target p = p) :=
  ⟨fun _ _ => Diagram.returnItems_removeNode? hd,
    fun _ _ _ => Diagram.returnItems_moveNode? hd⟩

/-- Three nodes and the given return fields. -/
def trio (fields : List String) : Diagram where
  nodes := [⟨"1", none, "a"⟩, ⟨"2", none, "b"⟩, ⟨"3", none, "c"⟩]
  relationships := []
  conditions := []
  returnFields := fields
  limit := ""
  limitMode := .rows

/-- The fields of `trio` that need it are rewritten: those with a sign or a leading zero too, but no
text, no number out of range and no position in front. -/
theorem returnItems_of_trio :
    ((trio ["+2", " x ", "7", "01", " 0"]).nodes.map (·.id)).Nodup ∧
      (∃ d', (trio ["+2", " x ", "7", "01", " 0"]).removeNode? "2" = some d' ∧
        d'.returnFields = ["1", " x ", "7", " 0"] ∧
        d'.returnItems = (trio ["+2", " x ", "7", "01", " 0"]).returnItems.filter
          fun item => !item.isNode "2") ∧
      ∃ d', (trio ["+2", " x ", "7", "01", " 0"]).moveNode? 2 1 = some d' ∧
        d'.returnFields = ["1", " x ", "7", "2", " 0"] ∧
        d'.returnItems = (trio ["+2", " x ", "7", "01", " 0"]).returnItems := by
  have hd : ((trio ["+2", " x ", "7", "01", " 0"]).nodes.map (·.id)).Nodup := by decide
  obtain ⟨hremove, hmove⟩ := returnItems_follow_nodes _ hd
  have hpadded : ∀ field ∈ (trio ["+2", " x ", "7", "01", " 0"]).returnFields, ∀ p,
      paddedPosition? field (trio ["+2", " x ", "7", "01", " 0"]).nodes.length = some p →
        p = 0 := by
    have hfields : ∀ field ∈ (trio ["+2", " x ", "7", "01", " 0"]).returnFields,
        paddedPosition? field 3 = none ∨ paddedPosition? field 3 = some 0 := by decide
    intro field hfield p hp
    rcases hfields field hfield with hnone | hzero
    · cases hnone.symm.trans hp
    · exact Option.some.inj (hp.symm.trans hzero)
  obtain ⟨index, hindex, hiff⟩ := hremove "2" _ rfl
  have hone : index = 1 := Option.some.inj (hindex.symm.trans (by decide))
  refine ⟨hd, ⟨_, rfl, by decide, hiff.mpr fun field hfield p hp => ?_⟩, _, rfl, by decide,
    (hmove 2 1 _ rfl).mpr fun field hfield p hp => ?_⟩
  · rw [hpadded field hfield p hp, hone]
    exact Nat.zero_lt_one
  · rw [hpadded field hfield p hp]
    decide

/-- **A position with blanks around it goes astray.**  Such a field of `trio` stands for the second
node.  It is left as it is when the first node is removed or moved behind the second one, and then
stands for another node. -/
theorem padded_field_astray :
    (trio [" 1 "]).returnItems = [.node ⟨"2", none, "b"⟩] ∧
      (∃ d', (trio [" 1 "]).removeNode? "1" = some d' ∧
        d'.returnItems = [.node ⟨"3", none, "c"⟩]) ∧
      ∃ d', (trio [" 1 "]).moveNode? 0 1 = some d' ∧
        d'.returnItems = [.node ⟨"1", none, "a"⟩] := by
  refine ⟨by decide, ⟨_, rfl, ?_⟩, _, rfl, ?_⟩
  · decide
  · decide

end GraphQuery
