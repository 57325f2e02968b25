import Mathlib.Data.List.Nodup
import Mathlib.Data.List.Perm.Basic
import Mathlib.Data.List.Perm.Subperm
import Mathlib.Logic.Function.Basic
import Std.Data.String.ToNat
import GraphQuery.Diagram.Edit

/-!
# Proofs — editing sessions

A session is *consistent* if no two things of one kind share an id, every relationship has nodes at
both its ends, and no id in the diagram is one that is still to be handed out
(`Session.Consistent`).  An edit either draws one thing, with the next id, or draws nothing
(`Session.apply_cases`); it never leaves a relationship without an end.

So every edit keeps a session consistent (`Consistent.apply`), and the ids that a run hands out
carry consecutive numbers (`exists_kinds_of_run`).  A session that starts from nothing is consistent
(`consistent_empty`).

**No id is handed out twice, nor one that the diagram had at the start** (`ids_stay_apart`).
-/

namespace GraphQuery

/-! ### Ids -/

/-- Neither two kinds nor two numbers share an id. -/
theorem EntityKind.id_injective2 : Function.Injective2 EntityKind.id := by
  intro kind kind' m n h
  have hlist : kind.stem.toList ++ '-' :: m.repr.toList
      = kind'.stem.toList ++ '-' :: n.repr.toList := by
    simpa [EntityKind.id] using congrArg String.toList h
  -- no two stems start with the same letter
  have hkind : kind = kind' := by
    cases kind <;> cases kind' <;> simp [stem] at hlist ⊢
  subst hkind
  have hrest := List.append_cancel_left hlist
  exact ⟨rfl, Nat.repr_injective (String.toList_inj.mp (List.cons.inj hrest).2)⟩

namespace Diagram

/-- The ids of all things of a kind, in order. -/
def ids (d : Diagram) : EntityKind → List String
  | .node => d.nodes.map (·.id)
  | .relationship => d.relationships.map (·.id)
  | .condition => d.conditions.map (·.id)

/-- Every relationship has a node at either end. -/
def Linked (d : Diagram) : Prop :=
  ∀ r ∈ d.relationships, r.source ∈ d.ids .node ∧ r.target ∈ d.ids .node

instance (d : Diagram) : Decidable d.Linked :=
  inferInstanceAs (Decidable (∀ r ∈ d.relationships,
    r.source ∈ d.ids .node ∧ r.target ∈ d.ids .node))

/-- One thing is drawn, and no relationship loses an end. -/
structure Draws (kind : EntityKind) (id : String) (d d' : Diagram) : Prop where
  ids : ∀ k, d'.ids k = d.ids k ++ if k = kind then [id] else []
  linked : d.Linked → d'.Linked

/-- Nothing is drawn, and no relationship loses an end. -/
structure DrawsNothing (d d' : Diagram) : Prop where
  ids : ∀ kind, List.Subperm (d'.ids kind) (d.ids kind)
  linked : d.Linked → d'.Linked

variable {d d' : Diagram} {id : String}

/-! ### What is drawn -/

/-- Ends are not lost by removing relationships or by adding nodes. -/
theorem Linked.mono (h : d.Linked) (hrelationships : d'.relationships ⊆ d.relationships)
    (hnodes : d.ids .node ⊆ d'.ids .node) : d'.Linked := by
  intro r hr
  obtain ⟨hsource, htarget⟩ := h r (hrelationships hr)
  exact ⟨hnodes hsource, hnodes htarget⟩

theorem mem_ids_of_isSome_node? (h : (d.node? id).isSome = true) : id ∈ d.ids .node := by
  obtain ⟨n, hn⟩ := Option.isSome_iff_exists.mp h
  have hid : n.id = id := by simpa using List.find?_some hn
  exact hid ▸ List.mem_map_of_mem (List.mem_of_find?_eq_some hn)

theorem draws_addNode (d : Diagram) (n : Node) : Draws .node n.id d (d.addNode n) where
  ids k := by cases k <;> simp [ids, addNode]
  linked h := by
    refine h.mono (List.Subset.refl _) ?_
    simp [ids, addNode]

theorem draws_addRelationship? {r : Relationship} (h : d.addRelationship? r = some d') :
    Draws .relationship r.id d d' := by
  rw [addRelationship?] at h
  split at h
  · rename_i hends
    cases h
    refine ⟨fun k => by cases k <;> simp [ids], fun hlinked q hq => ?_⟩
    rcases List.mem_append.mp hq with hq | hq
    · exact hlinked q hq
    · rw [List.mem_singleton.mp hq]
      exact ⟨mem_ids_of_isSome_node? hends.1, mem_ids_of_isSome_node? hends.2⟩
  · cases h

theorem draws_addCondition (d : Diagram) (c : Condition) :
    Draws .condition c.id d (d.addCondition c) where
  ids k := by cases k <;> simp [ids, addCondition]
  linked h := h.mono (List.Subset.refl _) (List.Subset.refl _)

/-! ### What is removed, moved or changed -/

/-- Nodes may change their order, and other things may go. -/
theorem DrawsNothing.of_perm (hnodes : List.Perm d'.nodes d.nodes)
    (hrelationships : d'.relationships.Sublist d.relationships)
    (hconditions : d'.conditions.Sublist d.conditions) : DrawsNothing d d' where
  ids kind := by
    cases kind with
    | node => exact (hnodes.map _).subperm
    | relationship => exact (hrelationships.map _).subperm
    | condition => exact (hconditions.map _).subperm
  linked h := h.mono hrelationships.subset (hnodes.symm.map _).subset

theorem DrawsNothing.refl (d : Diagram) : DrawsNothing d d :=
  .of_perm (.refl _) (.refl _) (.refl _)

/-- With a node go the relationships that it is an end of. -/
theorem drawsNothing_removeNode? (h : d.removeNode? id = some d') : DrawsNothing d d' := by
  obtain ⟨index, removed, -, hremoved, hid, rfl⟩ := removeNode?_eq_some h
  refine ⟨fun kind => ?_, fun hlinked r hr => ?_⟩
  · cases kind with
    | node => exact ((List.eraseIdx_sublist ..).map _).subperm
    | relationship => exact (List.filter_sublist.map _).subperm
    | condition => exact (List.filter_sublist.map _).subperm
  · -- a node with another id is not the one that is removed
    have hkept : ∀ other, other ∈ d.ids .node → other ≠ id →
        other ∈ (d.nodes.eraseIdx index).map (·.id) := by
      intro other hother hne
      obtain ⟨n, hn, rfl⟩ := List.mem_map.mp hother
      obtain ⟨i, hi⟩ := List.mem_iff_getElem?.mp hn
      refine List.mem_map_of_mem (List.mem_eraseIdx_iff_getElem?.mpr ⟨i, ?_, hi⟩)
      rintro rfl
      obtain rfl : removed = n := Option.some.inj (hremoved.symm.trans hi)
      exact hne hid
    obtain ⟨hr, hends⟩ := List.mem_filter.mp hr
    obtain ⟨hsource, htarget⟩ : r.source ≠ id ∧ r.target ≠ id := by simpa using hends
    exact ⟨hkept _ (hlinked r hr).1 hsource, hkept _ (hlinked r hr).2 htarget⟩

/-- A move keeps every id, if not its place. -/
theorem drawsNothing_moveNode? {source target : Nat} (h : d.moveNode? source target = some d') :
    DrawsNothing d d' := by
  obtain ⟨n, hn, htarget, rfl⟩ := moveNode?_eq_some h
  split
  · exact .refl d
  · obtain ⟨hsource, rfl⟩ := List.getElem?_eq_some_iff.mp hn
    have hlength := List.length_eraseIdx_of_lt hsource
    refine .of_perm ?_ (.refl _) (.refl _)
    exact (List.perm_insertIdx _ _ (by omega)).trans (List.getElem_cons_eraseIdx_perm hsource)

/-- A relationship may go without anything else. -/
theorem drawsNothing_removeRelationship? (h : d.removeRelationship? id = some d') :
    DrawsNothing d d' := by
  rw [removeRelationship?] at h
  split at h
  · cases h
    exact .of_perm (.refl _) List.filter_sublist (.refl _)
  · cases h

theorem drawsNothing_removeCondition? (h : d.removeCondition? id = some d') :
    DrawsNothing d d' := by
  rw [removeCondition?] at h
  split at h
  · cases h
    exact .of_perm (.refl _) (.refl _) List.filter_sublist
  · cases h

/-- Changing one item changes nothing that the change keeps of every item. -/
theorem map_changeFirst? {α β : Type} {p : α → Bool} {f : α → α} {g : α → β}
    (hg : ∀ a, g (f a) = g a) :
    ∀ {as as' : List α}, changeFirst? p f as = some as' → as'.map g = as.map g
  | [], _, h => by cases h
  | a :: as, as', h => by
      rw [changeFirst?] at h
      split at h
      · cases h
        simp [hg]
      · obtain ⟨rest, hrest, rfl⟩ := Option.map_eq_some_iff.mp h
        simp [map_changeFirst? hg hrest]

/-- A change to a relationship that keeps its id and its ends. -/
theorem drawsNothing_changeRelationship? {f : Relationship → Relationship}
    (hid : ∀ r, (f r).id = r.id)
    (hends : ∀ r, ((f r).source, (f r).target) = (r.source, r.target))
    (h : d.changeRelationship? id f = some d') : DrawsNothing d d' := by
  obtain ⟨rs, hrs, rfl⟩ := Option.map_eq_some_iff.mp h
  have hids : rs.map (·.id) = d.relationships.map (·.id) := map_changeFirst? hid hrs
  have hpairs : rs.map (fun r => (r.source, r.target))
      = d.relationships.map (fun r => (r.source, r.target)) := map_changeFirst? hends hrs
  refine ⟨fun kind => ?_, fun hlinked r hr => ?_⟩
  · cases kind with
    | node => exact .refl _
    | relationship => exact (List.Perm.of_eq hids).subperm
    | condition => exact .refl _
  · have hmem : (r.source, r.target) ∈ rs.map fun r => (r.source, r.target) :=
      List.mem_map_of_mem hr
    rw [hpairs] at hmem
    obtain ⟨q, hq, heq⟩ := List.mem_map.mp hmem
    obtain ⟨hsource, htarget⟩ := Prod.mk.inj heq
    rw [← hsource, ← htarget]
    exact hlinked q hq

end Diagram

/-! ### One edit -/

/-- The id that an edit hands out. -/
def Reply.id? : Reply → Option String
  | .added id => id
  | .changed _ => none
  | .set => none

namespace Session

/-- No two things of a kind share an id, every relationship has its ends, and no id is one that is
still to be handed out. -/
structure Consistent (s : Session) : Prop where
  nodup : ∀ kind, (s.diagram.ids kind).Nodup
  linked : s.diagram.Linked
  unissued : ∀ (kind kind' : EntityKind) (number : Nat), s.ids.issued < number →
    kind'.id number ∉ s.diagram.ids kind

/-- Whatever its source of ids, a session that starts from nothing is consistent. -/
theorem consistent_empty (ids : IdSequence) : Consistent ⟨.empty, ids⟩ where
  nodup kind := by cases kind <;> exact List.nodup_nil
  linked _ hr := absurd hr List.not_mem_nil
  unissued kind _ _ _ := by cases kind <;> exact List.not_mem_nil

/-- The edit draws one thing and hands out the next id for it. -/
def DrawsNext (s : Session) (e : Edit) : Prop :=
  ∃ kind : EntityKind, (s.apply e).1 = .added (some (kind.id (s.ids.issued + 1))) ∧
    (s.apply e).2.ids.issued = s.ids.issued + 1 ∧
    s.diagram.Draws kind (kind.id (s.ids.issued + 1)) (s.apply e).2.diagram

/-- The edit draws nothing and hands out no id. -/
def HandsOutNothing (s : Session) (e : Edit) : Prop :=
  (s.apply e).1.id? = none ∧ (s.apply e).2.ids = s.ids ∧
    s.diagram.DrawsNothing (s.apply e).2.diagram

/-- A change that draws nothing hands out no id, carried out or refused. -/
theorem change_spec (s : Session) {d? : Option Diagram}
    (h : ∀ d', d? = some d' → s.diagram.DrawsNothing d') :
    (s.change d?).1.id? = none ∧ (s.change d?).2.ids = s.ids ∧
      s.diagram.DrawsNothing (s.change d?).2.diagram := by
  cases d? with
  | none => exact ⟨rfl, rfl, .refl _⟩
  | some d' => exact ⟨rfl, rfl, h d' rfl⟩

/-- **An edit draws one thing or nothing.** -/
theorem apply_cases (s : Session) (e : Edit) : s.DrawsNext e ∨ s.HandsOutNothing e := by
  cases e with
  | addNode label name =>
      exact .inl ⟨.node, rfl, rfl, s.diagram.draws_addNode ⟨_, label, name⟩⟩
  | addCondition filter =>
      exact .inl ⟨.condition, rfl, rfl, s.diagram.draws_addCondition (.ofFilter _ filter)⟩
  | addRelationship source target type =>
      cases h : s.diagram.addRelationship?
          (.ofEnds (s.ids.next .relationship).1 source target type) with
      | none =>
          refine .inr ?_
          simp only [HandsOutNothing, apply, h]
          exact ⟨rfl, trivial, .refl _⟩
      | some d' =>
          refine .inl ⟨.relationship, ?_⟩
          simp only [apply, h]
          exact ⟨rfl, rfl, Diagram.draws_addRelationship? h⟩
  | removeNode id =>
      exact .inr (s.change_spec fun _ => Diagram.drawsNothing_removeNode?)
  | moveNode source target =>
      exact .inr (s.change_spec fun _ => Diagram.drawsNothing_moveNode?)
  | removeRelationship id =>
      exact .inr (s.change_spec fun _ => Diagram.drawsNothing_removeRelationship?)
  | removeCondition id =>
      exact .inr (s.change_spec fun _ => Diagram.drawsNothing_removeCondition?)
  | setEnabled id enabled =>
      exact .inr (s.change_spec fun _ =>
        Diagram.drawsNothing_changeRelationship? (fun _ => rfl) (fun _ => rfl))
  | setMatchType id matchType =>
      exact .inr (s.change_spec fun _ =>
        Diagram.drawsNothing_changeRelationship? (fun _ => rfl) (fun _ => rfl))
  | setReturnFields fields => exact .inr ⟨rfl, rfl, .of_perm (.refl _) (.refl _) (.refl _)⟩
  | setLimit limit => exact .inr ⟨rfl, rfl, .of_perm (.refl _) (.refl _) (.refl _)⟩
  | setLimitMode mode => exact .inr ⟨rfl, rfl, .of_perm (.refl _) (.refl _) (.refl _)⟩

/-- **An edit keeps a session consistent.** -/
theorem Consistent.apply {s : Session} (h : s.Consistent) (e : Edit) :
    (s.apply e).2.Consistent := by
  rcases s.apply_cases e with ⟨kind, -, hissued, hdraws⟩ | ⟨-, hids, hdraws⟩
  · refine ⟨fun k => ?_, hdraws.linked h.linked, fun k kind' number hlt => ?_⟩
    · have hfresh : kind.id (s.ids.issued + 1) ∉ s.diagram.ids k :=
        h.unissued k kind _ (Nat.lt_succ_self _)
      rw [hdraws.ids]
      split
      · rw [List.nodup_append]
        refine ⟨h.nodup k, List.nodup_singleton _, fun id hid id' hid' => ?_⟩
        rw [List.mem_singleton.mp hid']
        rintro rfl
        exact hfresh hid
      · rw [List.append_nil]
        exact h.nodup k
    · rw [hissued] at hlt
      rw [hdraws.ids, List.mem_append, not_or]
      refine ⟨h.unissued k kind' number (by omega), ?_⟩
      split
      · -- the id that was handed out has a smaller number
        rw [List.mem_singleton]
        intro heq
        have hnumber : number = s.ids.issued + 1 := (EntityKind.id_injective2 heq).2
        omega
      · exact List.not_mem_nil
  · refine ⟨fun k => ?_, hdraws.linked h.linked, fun k kind' number hlt hmem => ?_⟩
    · obtain ⟨kept, hperm, hkept⟩ := hdraws.ids k
      exact hperm.nodup_iff.mp ((h.nodup k).sublist hkept)
    · rw [hids] at hlt
      exact h.unissued k kind' number hlt ((hdraws.ids k).subset hmem)

/-! ### A run of edits -/

/-- Carries out edits one after the other. -/
def run (s : Session) : List Edit → List Reply × Session
  | [] => ([], s)
  | e :: es => ((s.apply e).1 :: ((s.apply e).2.run es).1, ((s.apply e).2.run es).2)

/-- The ids that a run of edits hands out, in order. -/
def handedOut (s : Session) (es : List Edit) : List String :=
  (s.run es).1.filterMap Reply.id?

theorem handedOut_cons (s : Session) (e : Edit) (es : List Edit) :
    s.handedOut (e :: es) = (s.apply e).1.id?.toList ++ (s.apply e).2.handedOut es := by
  rw [handedOut, run, List.filterMap_cons]
  cases (s.apply e).1.id? <;> rfl

/-- **Every run keeps a session consistent.** -/
theorem Consistent.run {s : Session} (h : s.Consistent) (es : List Edit) :
    (s.run es).2.Consistent := by
  induction es generalizing s with
  | nil => exact h
  | cons e es ih => exact ih (h.apply e)

/-- The ids that a run hands out carry the numbers from the next one on, whatever they are for. -/
theorem exists_kinds_of_run (s : Session) (es : List Edit) :
    ∃ kinds : List EntityKind,
      s.handedOut es = (kinds.zipIdx (s.ids.issued + 1)).map (fun p => p.1.id p.2) ∧
      (s.run es).2.ids.issued = s.ids.issued + kinds.length := by
  induction es generalizing s with
  | nil => exact ⟨[], rfl, rfl⟩
  | cons e es ih =>
      -- the rest of the run numbers on from where the first edit has left off
      obtain ⟨kinds, hids, hissued⟩ := ih (s.apply e).2
      rcases s.apply_cases e with ⟨kind, hreply, hnext, -⟩ | ⟨hreply, hsame, -⟩
      · refine ⟨kind :: kinds, ?_, ?_⟩
        · rw [hnext] at hids
          rw [handedOut_cons, hreply, hids, List.zipIdx_cons, List.map_cons]
          rfl
        · rw [run, hissued, hnext, List.length_cons]
          omega
      · rw [hsame] at hids hissued
        refine ⟨kinds, ?_, hissued⟩
        rw [handedOut_cons, hreply, hids]
        rfl

/-- Ids with numbers of their own differ, whatever their kinds. -/
theorem nodup_map_id_zipIdx (kinds : List EntityKind) (first : Nat) :
    ((kinds.zipIdx first).map fun p => p.1.id p.2).Nodup := by
  have hnumbers : ((kinds.zipIdx first).map Prod.snd).Nodup := by
    rw [List.zipIdx_map_snd]
    exact List.nodup_range'
  refine (List.Nodup.of_map _ hnumbers).map_on fun p hp q hq h => ?_
  obtain ⟨hkind, hnumber⟩ := EntityKind.id_injective2 h
  exact Prod.ext hkind hnumber

/-- The ids that a run hands out are not in the diagram that it starts from. -/
theorem Consistent.notMem_of_mem_handedOut {s : Session} (h : s.Consistent) {es : List Edit}
    {id : String} (hid : id ∈ s.handedOut es) (kind : EntityKind) : id ∉ s.diagram.ids kind := by
  obtain ⟨kinds, hids, -⟩ := s.exists_kinds_of_run es
  rw [hids] at hid
  obtain ⟨⟨kind', number⟩, hmem, rfl⟩ := List.mem_map.mp hid
  have hle : s.ids.issued + 1 ≤ number := List.le_snd_of_mem_zipIdx hmem
  exact h.unissued kind kind' number hle

end Session

/-- **Ids stay apart.**  A run of edits, whatever they ask for, takes a consistent session to a
consistent one.  It hands out no id twice, also not when what had the id is gone, and no id that the
diagram had at the start; and the source of ids moves on by the number of ids handed out. -/
theorem ids_stay_apart (s : Session) (h : s.Consistent) (es : List Edit) :
    (s.run es).2.Consistent ∧ (s.handedOut es).Nodup ∧
      (∀ id ∈ s.handedOut es, ∀ kind, id ∉ s.diagram.ids kind) ∧
      (s.run es).2.ids.issued = s.ids.issued + (s.handedOut es).length := by
  obtain ⟨kinds, hids, hissued⟩ := s.exists_kinds_of_run es
  refine ⟨h.run es, ?_, fun _ hid => h.notMem_of_mem_handedOut hid, ?_⟩
  · rw [hids]
    exact Session.nodup_map_id_zipIdx kinds _
  · rw [hissued, hids, List.length_map, List.length_zipIdx]

/-- A drawing with a foreign id, taken up again behind the second id. -/
def takenUp : Session where
  diagram :=
    { nodes := [⟨"a", some "Person", "p"⟩, ⟨"node-1", none, "c"⟩]
      relationships := [.ofEnds "rel-2" "a" "node-1" none]
      conditions := []
      returnFields := []
      limit := ""
      limitMode := .rows }
  ids := .startingAfter 2

/-- A relationship without an end is refused, and costs no id; two relationships go with a node; a
condition is made again. -/
def rework : List Edit :=
  [.addRelationship "a" "gone" none, .addRelationship "node-1" "a" none, .removeNode "a",
    .addNode none "x", .addCondition ⟨"node-4", "age", ">", "5"⟩, .removeCondition "cond-5",
    .addCondition ⟨"node-4", "age", ">", "6"⟩]

/-- The ids at the start are below the count or not of the form that is handed out. -/
theorem consistent_takenUp : takenUp.Consistent where
  nodup kind := by cases kind <;> decide
  linked := by decide
  unissued := by
    intro kind kind' number hlt hmem
    have hlt : 2 < number := hlt
    -- the foreign id starts with another letter, and the numbers of the others are spent
    have hforeign : kind'.id number ≠ "a" := by
      intro heq
      have hlist := congrArg String.toList heq
      cases kind' <;> simp [EntityKind.id, EntityKind.stem] at hlist
    cases kind with
    | node =>
        have hnode : kind'.id number = EntityKind.node.id 1 := by
          rcases List.mem_cons.mp hmem with heq | hmem
          · exact absurd heq hforeign
          · exact List.mem_singleton.mp hmem
        have hnumber : number = 1 := (EntityKind.id_injective2 hnode).2
        omega
    | relationship =>
        have hrelationship : kind'.id number = EntityKind.relationship.id 2 :=
          List.mem_singleton.mp hmem
        have hnumber : number = 2 := (EntityKind.id_injective2 hrelationship).2
        omega
    | condition => exact List.not_mem_nil hmem

/-- A relationship that is refused costs no id, and a condition that is made again gets a new
one. -/
theorem ids_stay_apart_in_rework :
    takenUp.Consistent ∧ takenUp.handedOut rework = ["rel-3", "node-4", "cond-5", "cond-6"] ∧
      (takenUp.handedOut rework).Nodup ∧ (takenUp.run rework).2.Consistent ∧
      (takenUp.run rework).2.diagram.ids .node = ["node-1", "node-4"] ∧
      (takenUp.run rework).2.diagram.ids .relationship = [] ∧
      (takenUp.run rework).2.ids.issued = 2 + 4 := by
  obtain ⟨hconsistent, hnodup, -, hissued⟩ := ids_stay_apart takenUp consistent_takenUp rework
  refine ⟨consistent_takenUp, ?_, hnodup, hconsistent, ?_, ?_, hissued⟩
  · decide
  · decide
  · decide

end GraphQuery
