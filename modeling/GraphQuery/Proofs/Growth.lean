import GraphQuery.Proofs.Requests
import GraphQuery.Proofs.Session

/-!
# Proofs — the names of a query that grows

A name that has been settled stays what it is whatever is bound later, unless another relationship
with the same id comes (`of?_foldl_of_settled`).  A node at the end of the nodes is bound last
(`resolve_concat`), and relationships at the end of the active ones are bound behind all others and
their ends (`resolve_append`), though before the nodes that no relationship touches.

**Growing at the end renames nothing that is connected** (`growth_renames_nothing_connected`), neither
in the table of names nor in an editing session.
-/

namespace GraphQuery

namespace Names

/-- These entities have names, and the second table has the same ones for them. -/
def Kept (names names' : Names) (es : List Entity) : Prop :=
  ∀ e ∈ es, ∃ name, names.of? e = some name ∧ names'.of? e = some name

/-- The nodes that are an end of an active relationship. -/
def connected (nodes : List Node) (active : List ActiveRelationship) : List Node :=
  nodes.filter fun n =>
    active.any fun a => a.relationship.source = n.id || a.relationship.target = n.id

variable {nodes : List Node} {active new : List ActiveRelationship} {probes : Nat} {names : Names}
  {e : Entity} {name : String}

/-! ### Settled names -/

theorem of?_bind_of_settled (h : names.of? e = some name) {f : Entity}
    (hf : ∀ b, f = .relationship b → f.key ≠ e.key) : (names.bind probes f).of? e = some name := by
  by_cases hkey : f.key = e.key
  · cases f with
    | node m =>
        -- the node has a name already
        have hm : names.node? m.id = some name := (of?_congr hkey names).symm.trans h
        rw [bind, bindNode_of_named hm, h]
    | relationship b => exact absurd hkey (hf b rfl)
  · rw [of?_bind_of_ne (Ne.symm hkey), h]

/-- **A settled name stays**, unless a relationship with the same id is bound. -/
theorem of?_foldl_of_settled :
    ∀ {es : List Entity} {names : Names}, names.of? e = some name →
      (∀ b, .relationship b ∈ es → (Entity.relationship b).key ≠ e.key) →
      (es.foldl (bind probes) names).of? e = some name
  | [], _, h, _ => h
  | f :: es, names, h, hes => by
      rw [List.foldl_cons]
      refine of?_foldl_of_settled (of?_bind_of_settled h fun b hb => ?_) fun b hb =>
        hes b (List.mem_cons_of_mem _ hb)
      rw [hb]
      exact hes b (hb ▸ List.mem_cons_self ..)

/-! ### A node at the end -/

theorem lastNode?_concat_of_ne {n : Node} {id : String} (h : n.id ≠ id) :
    lastNode? (nodes ++ [n]) id = lastNode? nodes id := by
  simp [lastNode?, h]

/-- A node that is no end of an active relationship is bound last. -/
theorem resolve_concat {n : Node}
    (h : ∀ a ∈ active, a.relationship.source ≠ n.id ∧ a.relationship.target ≠ n.id) :
    resolve (nodes ++ [n]) active probes = (resolve nodes active probes).bind probes (.node n) := by
  have hvisits : active.flatMap (visitsOf (nodes ++ [n])) = active.flatMap (visitsOf nodes) := by
    refine List.flatMap_congr fun a ha => ?_
    obtain ⟨hsource, htarget⟩ := h a ha
    rw [visitsOf, lastNode?_concat_of_ne hsource.symm, lastNode?_concat_of_ne htarget.symm]
    rfl
  rw [resolve, ← foldl_flatMap_visitsOf, hvisits, foldl_flatMap_visitsOf, List.foldl_append]
  rfl

/-- A new node leaves all names as they are. -/
theorem kept_concat {n : Node} (hnew : n.id ∉ nodes.map (·.id))
    (hends : ∀ a ∈ active, a.relationship.source ≠ n.id ∧ a.relationship.target ≠ n.id) :
    Kept (resolve nodes active probes) (resolve (nodes ++ [n]) active probes)
      (entities nodes active) := by
  intro e he
  obtain ⟨name, hname⟩ := Option.isSome_iff_exists.mp (isSome_of?_resolve he probes)
  refine ⟨name, hname, ?_⟩
  rw [resolve_concat hends, of?_bind_of_ne, hname]
  rcases List.mem_append.mp he with he | he
  · obtain ⟨m, hm, rfl⟩ := List.mem_map.mp he
    intro hkey
    exact hnew (Sum.inl.inj hkey ▸ List.mem_map_of_mem hm)
  · obtain ⟨a, -, rfl⟩ := List.mem_map.mp he
    exact Sum.inr_ne_inl

/-! ### Relationships at the end -/

/-- Relationships at the end are bound behind the other ones and their ends. -/
theorem resolve_append (nodes : List Node) (active new : List ActiveRelationship) (probes : Nat) :
    resolve nodes (active ++ new) probes
      = (new.flatMap (visitsOf nodes) ++ nodes.map Entity.node).foldl (bind probes)
          ((active.flatMap (visitsOf nodes)).foldl (bind probes) Names.none) := by
  rw [resolve, List.foldl_append, ← foldl_flatMap_visitsOf, ← foldl_flatMap_visitsOf,
    List.foldl_append, List.foldl_map]
  rfl

theorem relationship_mem_flatMap_visitsOf {b : ActiveRelationship} :
    .relationship b ∈ new.flatMap (visitsOf nodes) ++ nodes.map Entity.node ↔ b ∈ new := by
  simp [visitsOf]

/-- Behind the active relationships and their ends all that is connected has a name. -/
theorem isSome_of?_connected (he : e ∈ entities (connected nodes active) active) (probes : Nat) :
    (((active.flatMap (visitsOf nodes)).foldl (bind probes) Names.none).of? e).isSome = true := by
  refine isSome_of?_foldl (.inl ?_)
  rcases List.mem_append.mp he with he | he
  · obtain ⟨n, hn, rfl⟩ := List.mem_map.mp he
    obtain ⟨hn, hany⟩ := List.mem_filter.mp hn
    obtain ⟨a, ha, hend⟩ := List.any_eq_true.mp hany
    obtain ⟨m, hm⟩ := exists_lastNode?_eq hn
    refine ⟨.node m, List.mem_flatMap.mpr ⟨a, ha, ?_⟩, congrArg Sum.inl (mem_of_lastNode? hm).2⟩
    rcases Bool.or_eq_true_iff.mp hend with hend | hend
    · simp [visitsOf, of_decide_eq_true hend, hm]
    · simp [visitsOf, of_decide_eq_true hend, hm]
  · obtain ⟨a, ha, rfl⟩ := List.mem_map.mp he
    exact ⟨.relationship a, List.mem_flatMap.mpr ⟨a, ha, by simp [visitsOf]⟩, rfl⟩

/-- New relationships leave the names of all that is connected as they are. -/
theorem kept_append (hnew : ∀ b ∈ new, b.relationship.id ∉ active.map (·.relationship.id)) :
    Kept (resolve nodes active probes) (resolve nodes (active ++ new) probes)
      (entities (connected nodes active) active) := by
  intro e he
  obtain ⟨name, hname⟩ := Option.isSome_iff_exists.mp (isSome_of?_connected he probes)
  have hkeys : ∀ b ∈ new, (Entity.relationship b).key ≠ e.key := by
    intro b hb hkey
    rcases List.mem_append.mp he with he | he
    · obtain ⟨n, -, rfl⟩ := List.mem_map.mp he
      cases hkey
    · obtain ⟨a, ha, rfl⟩ := List.mem_map.mp he
      exact hnew b hb (Sum.inr.inj hkey ▸ List.mem_map_of_mem ha)
  refine ⟨name, ?_, ?_⟩
  · have hbefore := resolve_append nodes active [] probes
    rw [List.append_nil] at hbefore
    rw [hbefore]
    refine of?_foldl_of_settled hname fun b hb => ?_
    exact absurd (relationship_mem_flatMap_visitsOf.mp hb) List.not_mem_nil
  · rw [resolve_append]
    exact of?_foldl_of_settled hname fun b hb => hkeys b (relationship_mem_flatMap_visitsOf.mp hb)

end Names

/-! ### Editing -/

namespace Diagram

variable {d d' : Diagram}

/-- A new node changes nothing about relationships that do not mention it. -/
theorem activeRelationships_addNode {n : Node}
    (h : ∀ r ∈ d.relationships, r.source ≠ n.id ∧ r.target ≠ n.id) :
    (d.addNode n).activeRelationships = d.activeRelationships := by
  have hnode : ∀ {id}, id ≠ n.id → (d.addNode n).hasNode id = d.hasNode id := by
    intro id hid
    simp [hasNode, addNode, hid.symm]
  refine List.filter_congr fun a ha => ?_
  obtain ⟨⟨r, i⟩, hr, rfl⟩ := List.mem_map.mp ha
  obtain ⟨hsource, htarget⟩ := h r (List.mem_filter.mp (List.fst_mem_of_mem_zipIdx hr)).1
  rw [hnode hsource, hnode htarget]

/-- A new relationship stands behind the active ones, if it is active at all. -/
theorem activeRelationships_addRelationship? {r : Relationship}
    (h : d.addRelationship? r = some d') :
    d'.nodes = d.nodes ∧ ∃ new : List ActiveRelationship,
      d'.activeRelationships = d.activeRelationships ++ new ∧ ∀ b ∈ new, b.relationship = r := by
  rw [addRelationship?] at h
  split at h
  · cases h
    refine ⟨rfl, ?new, ?append, ?added⟩
    case append =>
      rw [activeRelationships, List.filter_append, List.zipIdx_append, List.map_append,
        List.filter_append]
      rfl
    case added =>
      intro b hb
      obtain ⟨⟨r', i⟩, hr', rfl⟩ := List.mem_map.mp (List.mem_filter.mp hb).1
      exact List.mem_singleton.mp (List.mem_filter.mp (List.fst_mem_of_mem_zipIdx hr')).1
  · cases h

end Diagram

/-- What is kept in the table of names is kept in the query. -/
theorem Names.Kept.nameOf_eq {s t : Snapshot} {es : List Entity} (h : Kept s.names t.names es)
    {e : Entity} (he : e ∈ es) : t.nameOf e = s.nameOf e := by
  obtain ⟨name, hs, ht⟩ := h e he
  rw [Snapshot.nameOf_eq_of_of? hs, Snapshot.nameOf_eq_of_of? ht]

namespace Session

/-- No node has the id that the next node gets, and no relationship mentions it. -/
def NextNodeNew (s : Session) : Prop :=
  (s.ids.next .node).1 ∉ s.diagram.ids .node ∧ ∀ r ∈ s.diagram.relationships,
    r.source ≠ (s.ids.next .node).1 ∧ r.target ≠ (s.ids.next .node).1

/-- No active relationship has the id that the next relationship gets. -/
def NextRelationshipNew (s : Session) : Prop :=
  (s.ids.next .relationship).1 ∉ s.diagram.activeRelationships.map (·.relationship.id)

variable {s : Session}

/-- In a consistent session the next ids are new. -/
theorem Consistent.nextNew (h : s.Consistent) : s.NextNodeNew ∧ s.NextRelationshipNew := by
  have hnode : (s.ids.next .node).1 ∉ s.diagram.ids .node :=
    h.unissued .node .node _ (Nat.lt_succ_self _)
  have hrelationship : (s.ids.next .relationship).1 ∉ s.diagram.ids .relationship :=
    h.unissued .relationship .relationship _ (Nat.lt_succ_self _)
  refine ⟨⟨hnode, fun r hr => ⟨?_, ?_⟩⟩, fun hmem => hrelationship ?_⟩
  · exact ne_of_mem_of_not_mem (h.linked r hr).1 hnode
  · exact ne_of_mem_of_not_mem (h.linked r hr).2 hnode
  · obtain ⟨a, ha, hid⟩ := List.mem_map.mp hmem
    exact hid ▸ List.mem_map_of_mem (Diagram.relationship_mem_of_mem_active ha)

/-- Drawing a node renames nothing. -/
theorem NextNodeNew.nameOf_eq (h : s.NextNodeNew) (settings : Settings) {label : Option String}
    {name : String} {e : Entity}
    (he : e ∈ Names.entities s.diagram.nodes s.diagram.activeRelationships) :
    ((s.apply (.addNode label name)).2.diagram.snapshot settings).nameOf e
      = (s.diagram.snapshot settings).nameOf e := by
  obtain ⟨hnew, hends⟩ := h
  have hactive : (s.diagram.addNode ⟨(s.ids.next .node).1, label, name⟩).activeRelationships
      = s.diagram.activeRelationships := Diagram.activeRelationships_addNode hends
  refine Names.Kept.nameOf_eq ?_ he
  show Names.Kept _ (Names.resolve _
    (s.diagram.addNode ⟨(s.ids.next .node).1, label, name⟩).activeRelationships _) _
  rw [hactive]
  exact Names.kept_concat hnew fun a ha =>
    hends _ (Diagram.relationship_mem_of_mem_active ha)

/-- Drawing a relationship renames nothing that is connected. -/
theorem NextRelationshipNew.nameOf_eq (h : s.NextRelationshipNew) (settings : Settings)
    {source target : String} {type : Option String} {e : Entity}
    (he : e ∈ Names.entities (Names.connected s.diagram.nodes s.diagram.activeRelationships)
      s.diagram.activeRelationships) :
    ((s.apply (.addRelationship source target type)).2.diagram.snapshot settings).nameOf e
      = (s.diagram.snapshot settings).nameOf e := by
  cases hadd : s.diagram.addRelationship?
      (.ofEnds (s.ids.next .relationship).1 source target type) with
  | none => simp only [apply, hadd]
  | some d' =>
      obtain ⟨hnodes, new, hactive, hadded⟩ := Diagram.activeRelationships_addRelationship? hadd
      have hnew : ∀ b ∈ new, b.relationship.id ∉
          s.diagram.activeRelationships.map (·.relationship.id) := by
        intro b hb
        rw [hadded b hb]
        exact h
      simp only [apply, hadd]
      refine Names.Kept.nameOf_eq ?_ he
      show Names.Kept _ (Names.resolve d'.nodes d'.activeRelationships settings.maxProbes) _
      rw [hnodes, hactive]
      exact Names.kept_append hnew

end Session

/-- **Growing at the end renames nothing that is connected.**

* A node with a new id that is no end of an active relationship, put behind the other nodes, leaves
  the names of all nodes and active relationships as they are.
* An active relationship with a new id, put behind the other active ones, leaves the names of these
  and of all nodes that are an end of one of them as they are.
* So in an editing session a query keeps all its names when a node is drawn whose id is new and which
  no relationship mentions, and it keeps those of the active relationships and of their ends when a
  relationship is drawn whose id is new, or is refused.  The ids of a consistent session are new. -/
theorem growth_renames_nothing_connected :
    (∀ (nodes : List Node) (active : List ActiveRelationship) (probes : Nat) (n : Node),
      n.id ∉ nodes.map (·.id) →
      (∀ a ∈ active, a.relationship.source ≠ n.id ∧ a.relationship.target ≠ n.id) →
      Names.Kept (Names.resolve nodes active probes) (Names.resolve (nodes ++ [n]) active probes)
        (Names.entities nodes active)) ∧
    (∀ (nodes : List Node) (active : List ActiveRelationship) (probes : Nat)
      (b : ActiveRelationship), b.relationship.id ∉ active.map (·.relationship.id) →
      Names.Kept (Names.resolve nodes active probes) (Names.resolve nodes (active ++ [b]) probes)
        (Names.entities (Names.connected nodes active) active)) ∧
    ∀ (settings : Settings) (s : Session),
      (s.NextNodeNew → ∀ label name,
        ∀ e ∈ Names.entities s.diagram.nodes s.diagram.activeRelationships,
          ((s.apply (.addNode label name)).2.diagram.snapshot settings).nameOf e
            = (s.diagram.snapshot settings).nameOf e) ∧
      (s.NextRelationshipNew → ∀ source target type,
        ∀ e ∈ Names.entities (Names.connected s.diagram.nodes s.diagram.activeRelationships)
            s.diagram.activeRelationships,
          ((s.apply (.addRelationship source target type)).2.diagram.snapshot settings).nameOf e
            = (s.diagram.snapshot settings).nameOf e) ∧
      (s.Consistent → s.NextNodeNew ∧ s.NextRelationshipNew) := by
  refine ⟨fun nodes active probes n hnew hends => Names.kept_concat hnew hends,
    fun nodes active probes b hnew => Names.kept_append fun b' hb' => ?_, fun settings s =>
    ⟨fun h label name e he => h.nameOf_eq settings he,
      fun h source target type e he => h.nameOf_eq settings he, Session.Consistent.nextNew⟩⟩
  rw [List.mem_singleton.mp hb']
  exact hnew

/-- Four nodes that ask for two names, and a relationship between the first and the last. -/
def seedling : Session where
  diagram :=
    { Diagram.empty with
      nodes := [⟨"1", some "Person", "a"⟩, ⟨"2", none, "b"⟩, ⟨"3", none, "b"⟩, ⟨"4", none, "a"⟩]
      relationships := [.ofEnds "x" "1" "4" none] }
  ids := .new

/-- The ends of the relationship of `seedling` keep their names when another one or a node that asks
for the name of one of them is drawn. -/
theorem names_of_seedling :
    seedling.NextNodeNew ∧ seedling.NextRelationshipNew ∧
      (seedling.diagram.snapshot .default).nodeNames = ["a", "c", "d", "b"] ∧
      ((seedling.apply (.addNode none "a")).2.diagram.snapshot .default).nodeName "4" = "b" ∧
      ((seedling.apply (.addRelationship "3" "1" none)).2.diagram.snapshot .default).nodeName "4"
        = "b" := by
  have hnode : seedling.NextNodeNew := ⟨by decide, by decide⟩
  have hrelationship : seedling.NextRelationshipNew := by
    rw [Session.NextRelationshipNew]
    decide
  obtain ⟨-, -, hsession⟩ := growth_renames_nothing_connected
  obtain ⟨haddNode, haddRelationship, -⟩ := hsession .default seedling
  have hlast : (seedling.diagram.snapshot .default).nodeName "4" = "b" := by decide
  refine ⟨hnode, hrelationship, by decide, ?_, ?_⟩
  · exact (haddNode hnode none "a" (.node ⟨"4", none, "a"⟩) (by decide)).trans hlast
  · exact (haddRelationship hrelationship "3" "1" none (.node ⟨"4", none, "a"⟩)
      (by decide)).trans hlast

/-- The nodes that nothing touched are not as lucky: the new relationship comes before them. -/
example : ((seedling.apply (.addRelationship "3" "1" none)).2.diagram.snapshot .default).nodeNames
    = ["a", "d", "c", "b"] := by decide

end GraphQuery
