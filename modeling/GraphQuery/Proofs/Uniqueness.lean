import GraphQuery.Proofs.Binding
import Mathlib.Data.List.Induction
import Mathlib.Data.List.Nodup
import Mathlib.Logic.Function.Iterate
import Std.Data.String.ToNat

/-!
# Proofs — who may share a name

A relationship always gets a name that is not in use (`relationshipName_notMem`): one of the first
`used.length + 1` numbered names is free.  A node gets a name in use only if its own name and all
that follow it within the probes are in use (`iterate_bump_mem_of_probe_mem`).

**Names are shared only by nodes out of probes** (`shared_name_only_out_of_probes`).
-/

namespace GraphQuery

/-! ### Numbered names -/

theorem numberedName_injective : Function.Injective numberedName := by
  intro m n h
  have hlist : ['r'] ++ m.repr.toList = ['r'] ++ n.repr.toList := by
    simpa [numberedName] using congrArg String.toList h
  exact Nat.repr_injective (String.toList_inj.mp (List.append_cancel_left hlist))

/-- There are more numbered names to choose from than names in use. -/
theorem exists_freeName? (used : List String) :
    ∃ name, freeName? used = some name ∧ name ∉ used := by
  cases h : freeName? used with
  | some name =>
      have hfree := List.find?_some h
      exact ⟨name, rfl, by simpa using hfree⟩
  | none =>
      exfalso
      -- all these names are in use, but there are more of them than names in use
      have hused : (List.range' 1 (used.length + 1)).map numberedName ⊆ used := by
        intro name hname
        simpa using List.find?_eq_none.mp h name hname
      have hnodup : ((List.range' 1 (used.length + 1)).map numberedName).Nodup :=
        List.Nodup.map numberedName_injective List.nodup_range'
      have hlen := hnodup.length_le_of_subset hused
      rw [List.length_map, List.length_range'] at hlen
      omega

namespace Names

/-- A relationship gets a name that is not in use. -/
theorem relationshipName_notMem (used : List String) (a : ActiveRelationship) :
    relationshipName used a ∉ used := by
  obtain ⟨name, hname, hfree⟩ := exists_freeName? used
  rw [relationshipName, hname]
  by_cases h : preferredName a ∈ used
  · rw [if_pos h]
    exact hfree
  · rw [if_neg h]
    exact h

end Names

/-! ### Probing -/

/-- If the last name tried is in use, so are all the names that were tried before it. -/
theorem iterate_bump_mem_of_probe_mem {used : List String} :
    ∀ {probes : Nat} {name : String}, probe used probes name ∈ used →
      ∀ k ≤ probes, bump^[k] name ∈ used
  | 0, name, h, k, hk => by
      rw [Nat.le_zero.mp hk]
      exact h
  | probes + 1, name, h, k, hk => by
      rw [probe] at h
      split at h
      · rename_i hname
        cases k with
        | zero => exact hname.1
        | succ k =>
            rw [Function.iterate_succ_apply]
            exact iterate_bump_mem_of_probe_mem h k (Nat.le_of_succ_le_succ hk)
      · rename_i hname
        -- the probing stops at a name in use only if nothing but itself follows
        have hfix : bump name = name := by
          by_contra hne
          exact hname ⟨h, hne⟩
        rw [Function.iterate_fixed hfix]
        exact h

/-! ### Sharing -/

/-- Texts are pairwise distinct if each differs from those before it. -/
theorem nodup_map_of_notMem_before {α β : Type} {f : α → β} :
    ∀ {l : List α}, (∀ before x after, l = before ++ x :: after → f x ∉ before.map f) →
      (l.map f).Nodup := by
  intro l
  -- from the end, because `before` has to be the whole list but its last element
  induction l using List.reverseRecOn with
  | nil => exact fun _ => List.nodup_nil
  | append_singleton l x ih =>
      intro h
      rw [List.map_append, List.nodup_append]
      refine ⟨ih fun before y after hl => ?_, List.nodup_singleton _, ?_⟩
      · exact h before y (after ++ [x]) (by rw [hl, List.append_assoc, List.cons_append])
      · rintro y hy z hz rfl
        rw [List.map_singleton, List.mem_singleton] at hz
        exact h l x [] rfl (hz ▸ hy)

namespace Names

/-- The name of an entity that was bound with a name in use has run out of probes. -/
theorem out_of_probes_of_shared {probes : Nat} {before after : List Entity} {e x : Entity}
    (hkeys : ((before ++ x :: after).map Entity.key).Nodup) (he : e ∈ before)
    (hshare : ((before ++ x :: after).foldl (bind probes) Names.none).of? e
      = ((before ++ x :: after).foldl (bind probes) Names.none).of? x) :
    ∃ n, x = .node n ∧
      ∀ k ≤ probes, bump^[k] n.name ∈ (before.foldl (bind probes) Names.none).used := by
  obtain ⟨name, hused, hname⟩ := mem_used_of_mem hkeys he
  rw [hname, of?_foldl_of_split hkeys] at hshare
  obtain rfl := Option.some.inj hshare
  cases x with
  | node n => exact ⟨n, rfl, iterate_bump_mem_of_probe_mem hused⟩
  | relationship a => exact absurd hused (relationshipName_notMem _ a)

/-- **Names are shared only by nodes out of probes.**  The table binds the entities of `order` one
by one, which are the nodes and the active relationships, each once.  An entity that has the name
of one bound before it is a node, and when it was bound its own name and the `probes` names that
follow were all in use.  So no relationship has the name of anything bound before it, and all names
are distinct if every node still found a free name within its probes. -/
theorem shared_name_only_out_of_probes (nodes : List Node) (active : List ActiveRelationship)
    (probes : Nat) (hnodes : (nodes.map (·.id)).Nodup)
    (hactive : (active.map (·.relationship.id)).Nodup) :
    resolve nodes active probes = (order nodes active).foldl (bind probes) Names.none ∧
    (order nodes active).Nodup ∧
    (∀ n, .node n ∈ order nodes active ↔ n ∈ nodes) ∧
    (∀ a, .relationship a ∈ order nodes active ↔ a ∈ active) ∧
    (∀ e ∈ order nodes active, ((resolve nodes active probes).of? e).isSome) ∧
    (∀ before e x after, order nodes active = before ++ x :: after → e ∈ before →
      (resolve nodes active probes).of? e = (resolve nodes active probes).of? x →
      ∃ n, x = .node n ∧
        ∀ k ≤ probes, bump^[k] n.name ∈ (before.foldl (bind probes) Names.none).used) ∧
    (∀ before e a after, order nodes active = before ++ .relationship a :: after → e ∈ before →
      (resolve nodes active probes).of? e ≠ (resolve nodes active probes).of? (.relationship a)) ∧
    ((∀ before n after, order nodes active = before ++ .node n :: after →
        ∃ k ≤ probes, bump^[k] n.name ∉ (before.foldl (bind probes) Names.none).used) →
      ((order nodes active).map (resolve nodes active probes).of?).Nodup) := by
  have hkeys : ((order nodes active).map Entity.key).Nodup := nodup_keys_order hactive
  have hshare : ∀ before e x after, order nodes active = before ++ x :: after → e ∈ before →
      (resolve nodes active probes).of? e = (resolve nodes active probes).of? x →
      ∃ n, x = .node n ∧
        ∀ k ≤ probes, bump^[k] n.name ∈ (before.foldl (bind probes) Names.none).used := by
    intro before e x after horder he h
    rw [resolve_eq_foldl, horder] at h
    exact out_of_probes_of_shared (horder ▸ hkeys) he h
  refine ⟨resolve_eq_foldl nodes active probes, List.Nodup.of_map _ hkeys,
    fun n => ⟨mem_of_node_mem_order, fun hn => ?_⟩, fun a => relationship_mem_order,
    fun e he => ?_, hshare, fun before e a after horder he h => ?_, fun hfree => ?_⟩
  · obtain ⟨m, hid, hm⟩ : ∃ m : Node, m.id = n.id ∧ .node m ∈ order nodes active :=
      exists_node_mem_order hn
    have hmn : m = n := List.inj_on_of_nodup_map hnodes (mem_of_node_mem_order hm) hn hid
    exact hmn ▸ hm
  · rw [resolve_eq_foldl]
    exact isSome_of?_foldl_of_mem hkeys he
  · obtain ⟨n, hn, -⟩ := hshare before e _ after horder he h
    cases hn
  · refine nodup_map_of_notMem_before fun before x after horder hx => ?_
    obtain ⟨e, he, hex⟩ := List.mem_map.mp hx
    obtain ⟨n, rfl, hused⟩ := hshare before e x after horder he hex
    obtain ⟨k, hk, hbump⟩ := hfree before n after horder
    exact hbump (hused k hk)

/-- Three nodes that ask for one name. -/
def rivals : List Node :=
  [⟨"1", Option.none, "a"⟩, ⟨"2", Option.none, "a"⟩, ⟨"3", Option.none, "a"⟩]

/-- A relationship between the first two of `rivals`. -/
def rivalry : ActiveRelationship :=
  ⟨0, .ofEnds "x" "1" "2" Option.none⟩

/-- With one probe the third of `rivals` gets the name of the second. -/
theorem shared_name_of_rivals :
    (rivals.map (·.id)).Nodup ∧ ([rivalry].map (·.relationship.id)).Nodup ∧
      (resolve rivals [rivalry] 1).node? "2" = some "b" ∧
      (resolve rivals [rivalry] 1).node? "3" = some "b" ∧
      ∀ k ≤ 1, bump^[k] "a" ∈ ["r1", "b", "a"] := by
  have hnodes : (rivals.map (·.id)).Nodup := by decide
  have hactive : ([rivalry].map (·.relationship.id)).Nodup := by decide
  have hall := shared_name_only_out_of_probes rivals [rivalry] 1 hnodes hactive
  obtain ⟨n, hn, hused⟩ := hall.2.2.2.2.2.1
    [.node ⟨"1", Option.none, "a"⟩, .node ⟨"2", Option.none, "a"⟩, .relationship rivalry]
    (.node ⟨"2", Option.none, "a"⟩) (.node ⟨"3", Option.none, "a"⟩) []
    (by decide) (by decide) (by decide)
  cases hn
  exact ⟨hnodes, hactive, by decide, by decide, hused⟩

end Names

end GraphQuery
