import GraphQuery.Compile.Names

/-!
# Proofs — the order in which names are settled

`Names.order` lists the nodes and the relationships in the order in which `Names.resolve` settles
their names: for each active relationship its ends and then the relationship, and behind them the
nodes.  A node stands where its id comes first and nowhere else.

* `resolve_eq_foldl`: the table is the one that binds the entities of `order` one by one.
* `of?_foldl_of_split`: where no two entities share an id, the name of an entity is the one that
  it got when it was bound, and nothing that was bound later has changed it.
* `mem_used_of_mem`: a name that an entity of a run has is in use behind that run.
* `isSome_node?_resolve`, `isSome_relationship?_resolve`: every node and every active relationship
  has a name, also where some share an id.
-/

namespace GraphQuery

/-- What a name is settled for. -/
inductive Entity where
  /-- A node. -/
  | node (n : Node)
  /-- An active relationship. -/
  | relationship (a : ActiveRelationship)
deriving DecidableEq, Repr

/-- The id of an entity, the ids of nodes apart from those of relationships. -/
def Entity.key : Entity → String ⊕ String
  | .node n => .inl n.id
  | .relationship a => .inr a.relationship.id

/-- A node that is found is one of the nodes, and has the id. -/
theorem mem_of_lastNode? {nodes : List Node} {id : String} {n : Node}
    (h : lastNode? nodes id = some n) : n ∈ nodes ∧ n.id = id :=
  ⟨List.mem_reverse.mp (List.mem_of_find?_eq_some h), by simpa using List.find?_some h⟩

theorem exists_lastNode?_eq {nodes : List Node} {n : Node} (h : n ∈ nodes) :
    ∃ m, lastNode? nodes n.id = some m :=
  Option.isSome_iff_exists.mp
    (List.find?_isSome.mpr ⟨n, List.mem_reverse.mpr h, decide_eq_true rfl⟩)

namespace Names

/-- The name of an entity. -/
def of? (names : Names) : Entity → Option String
  | .node n => names.node? n.id
  | .relationship a => names.relationship? a.relationship.id

/-- Settles the name of an entity. -/
def bind (probes : Nat) (names : Names) : Entity → Names
  | .node n => names.bindNode probes n
  | .relationship a => names.bindRelationship a

/-- The name that an entity gets where these names are in use. -/
def nextName (probes : Nat) (used : List String) : Entity → String
  | .node n => probe used probes n.name
  | .relationship a => relationshipName used a

/-- The ends of a relationship that are nodes, and the relationship. -/
def visitsOf (nodes : List Node) (a : ActiveRelationship) : List Entity :=
  (lastNode? nodes a.relationship.source).toList.map .node
    ++ (lastNode? nodes a.relationship.target).toList.map .node ++ [.relationship a]

/-- What `resolve` visits, a node as often as it comes up. -/
def visits (nodes : List Node) (active : List ActiveRelationship) : List Entity :=
  active.flatMap (visitsOf nodes) ++ nodes.map .node

/-- The entities of a list without the nodes whose id is in `seen` or came before. -/
def firsts (seen : List String) : List Entity → List Entity
  | [] => []
  | .node n :: es => if n.id ∈ seen then firsts seen es else .node n :: firsts (n.id :: seen) es
  | .relationship a :: es => .relationship a :: firsts seen es

/-- The nodes and relationships in the order in which their names are settled. -/
def order (nodes : List Node) (active : List ActiveRelationship) : List Entity :=
  firsts [] (visits nodes active)

/-! ### One binding -/

theorem node?_cons (names : Names) (id name id' : String) (used : List String) :
    node? { names with nodes := (id, name) :: names.nodes, used := used } id'
      = if id = id' then some name else names.node? id' := by
  by_cases h : id = id' <;> simp [node?, h]

theorem relationship?_cons (names : Names) (id name id' : String) (used : List String) :
    relationship? { names with
        relationships := (id, name) :: names.relationships, used := used } id'
      = if id = id' then some name else names.relationship? id' := by
  by_cases h : id = id' <;> simp [relationship?, h]

/-- A node that has a name keeps it. -/
theorem bindNode_of_named {probes : Nat} {names : Names} {n : Node} {name : String}
    (h : names.node? n.id = some name) : names.bindNode probes n = names := by
  rw [bindNode, h]

/-- A node whose id has no name gets the first one that is free, as far as the probes go. -/
theorem bindNode_of_unnamed {probes : Nat} {names : Names} {n : Node}
    (h : names.node? n.id = Option.none) :
    names.bindNode probes n = { names with
      nodes := (n.id, probe names.used probes n.name) :: names.nodes
      used := probe names.used probes n.name :: names.used } := by
  rw [bindNode, h]

/-- An entity without a name gets the next one, which is in use from then on. -/
theorem of?_bind_self {probes : Nat} {names : Names} {e : Entity}
    (h : names.of? e = Option.none) :
    (names.bind probes e).of? e = some (nextName probes names.used e) := by
  cases e with
  | node n =>
      simp only [bind, of?, nextName] at h ⊢
      rw [bindNode_of_unnamed h, node?_cons, if_pos rfl]
  | relationship a =>
      simp only [bind, of?, nextName, bindRelationship]
      rw [relationship?_cons, if_pos rfl]

/-- Whatever is settled uses up its name. -/
theorem used_bind {probes : Nat} {names : Names} {e : Entity} (h : names.of? e = Option.none) :
    (names.bind probes e).used = nextName probes names.used e :: names.used := by
  cases e with
  | node n =>
      simp only [bind, of?, nextName] at h ⊢
      rw [bindNode_of_unnamed h]
  | relationship a => rfl

/-- A binding changes the name of no other entity. -/
theorem of?_bind_of_ne {probes : Nat} {names : Names} {e f : Entity} (h : e.key ≠ f.key) :
    (names.bind probes f).of? e = names.of? e := by
  cases f with
  | node m =>
      cases hm : names.node? m.id with
      | some name => rw [bind, bindNode_of_named hm]
      | none =>
          rw [bind, bindNode_of_unnamed hm]
          cases e with
          | node n =>
              have hne : m.id ≠ n.id := fun he => h (congrArg Sum.inl he.symm)
              simp only [of?, node?_cons, if_neg hne]
          | relationship a => rfl
  | relationship b =>
      cases e with
      | node n => rfl
      | relationship a =>
          have hne : b.relationship.id ≠ a.relationship.id :=
            fun he => h (congrArg Sum.inr he.symm)
          simp only [bind, bindRelationship, of?, relationship?_cons, if_neg hne]

/-- Names in use stay in use. -/
theorem used_subset_bind (probes : Nat) (names : Names) (e : Entity) :
    names.used ⊆ (names.bind probes e).used := by
  cases e with
  | node n =>
      cases h : names.node? n.id with
      | some name => rw [bind, bindNode_of_named h]; exact List.Subset.refl _
      | none => rw [bind, bindNode_of_unnamed h]; exact List.subset_cons_self _ _
  | relationship a => exact List.subset_cons_self _ _

/-! ### Runs of bindings -/

/-- Settling what has another key changes nothing. -/
theorem of?_foldl_of_forall_ne {probes : Nat} {e : Entity} :
    ∀ {es : List Entity} {names : Names}, (∀ f ∈ es, e.key ≠ f.key) →
      (es.foldl (bind probes) names).of? e = names.of? e
  | [], _, _ => rfl
  | f :: es, names, h => by
      rw [List.foldl_cons, of?_foldl_of_forall_ne fun g hg => h g (List.mem_cons_of_mem _ hg)]
      exact of?_bind_of_ne (h f (List.mem_cons_self ..))

theorem used_subset_foldl (probes : Nat) :
    ∀ (es : List Entity) (names : Names), names.used ⊆ (es.foldl (bind probes) names).used
  | [], _ => List.Subset.refl _
  | e :: es, names =>
      List.Subset.trans (used_subset_bind probes names e) (used_subset_foldl probes es _)

/-- Before an entity is bound it has no name. -/
theorem of?_foldl_of_nodup {probes : Nat} {before after : List Entity} {e : Entity}
    (h : ((before ++ e :: after).map Entity.key).Nodup) :
    (before.foldl (bind probes) Names.none).of? e = Option.none := by
  rw [of?_foldl_of_forall_ne]
  · cases e <;> rfl
  · intro f hf he
    rw [List.map_append, List.map_cons, List.nodup_append] at h
    exact h.2.2 f.key (List.mem_map_of_mem hf) e.key (List.mem_cons_self ..) he.symm

/-- The name of an entity is the one that it got when it was bound. -/
theorem of?_foldl_of_split {probes : Nat} {before after : List Entity} {e : Entity}
    (h : ((before ++ e :: after).map Entity.key).Nodup) :
    ((before ++ e :: after).foldl (bind probes) Names.none).of? e
      = some (nextName probes (before.foldl (bind probes) Names.none).used e) := by
  rw [List.foldl_append, List.foldl_cons, of?_foldl_of_forall_ne,
    of?_bind_self (of?_foldl_of_nodup h)]
  intro f hf he
  rw [List.map_append, List.map_cons, List.nodup_append] at h
  exact (List.nodup_cons.mp h.2.1).1 (he ▸ List.mem_map_of_mem hf)

/-- What is bound has a name, and that name is in use from then on. -/
theorem mem_used_of_mem {probes : Nat} {before after : List Entity} {e : Entity}
    (h : ((before ++ after).map Entity.key).Nodup) (he : e ∈ before) :
    ∃ name ∈ (before.foldl (bind probes) Names.none).used,
      ((before ++ after).foldl (bind probes) Names.none).of? e = some name := by
  obtain ⟨b₁, b₂, rfl⟩ := List.append_of_mem he
  rw [List.append_assoc, List.cons_append] at h ⊢
  refine ⟨_, ?_, of?_foldl_of_split h⟩
  rw [List.foldl_append, List.foldl_cons]
  refine used_subset_foldl probes b₂ _ ?_
  rw [used_bind (of?_foldl_of_nodup h)]
  exact List.mem_cons_self ..

/-- Whatever is settled has a name in the end. -/
theorem isSome_of?_foldl_of_mem {probes : Nat} {es : List Entity} {e : Entity}
    (h : (es.map Entity.key).Nodup) (he : e ∈ es) :
    ((es.foldl (bind probes) Names.none).of? e).isSome := by
  obtain ⟨before, after, rfl⟩ := List.append_of_mem he
  rw [of?_foldl_of_split h]
  rfl

/-! ### The order of the whole table -/

/-- Visits of a node that has a name leave no trace. -/
theorem foldl_firsts (probes : Nat) :
    ∀ (es : List Entity) (seen : List String) (names : Names),
      -- what has been seen is what has a name, so a visit left out would have changed nothing
      (∀ id, id ∈ seen ↔ (names.node? id).isSome) →
      (firsts seen es).foldl (bind probes) names = es.foldl (bind probes) names
  | [], _, _, _ => rfl
  | .node n :: es, seen, names, h => by
      cases hn : names.node? n.id with
      | some name =>
          have hs : n.id ∈ seen := (h n.id).mpr (by rw [hn]; rfl)
          rw [firsts, if_pos hs, List.foldl_cons, bind, bindNode_of_named hn]
          exact foldl_firsts probes es seen names h
      | none =>
          have hs : n.id ∉ seen := fun hs => by simpa [hn] using (h n.id).mp hs
          rw [firsts, if_neg hs, List.foldl_cons, List.foldl_cons]
          refine foldl_firsts probes es _ _ fun id => ?_
          rw [bind, bindNode_of_unnamed hn, node?_cons]
          by_cases hid : n.id = id
          · simp [hid]
          · rw [if_neg hid, ← h id, List.mem_cons]
            exact or_iff_right (Ne.symm hid)
  | .relationship a :: es, seen, names, h => by
      rw [firsts, List.foldl_cons, List.foldl_cons]
      exact foldl_firsts probes es seen _ h

/-- Settling a relationship is settling its two ends and then itself. -/
theorem foldl_visitsOf (nodes : List Node) (probes : Nat) (names : Names)
    (a : ActiveRelationship) :
    (visitsOf nodes a).foldl (bind probes) names = bindActive nodes probes names a := by
  cases hs : lastNode? nodes a.relationship.source <;>
    cases ht : lastNode? nodes a.relationship.target <;>
      simp [visitsOf, bindActive, bindEnd, bind, hs, ht]

theorem foldl_flatMap_visitsOf (nodes : List Node) (probes : Nat) :
    ∀ (active : List ActiveRelationship) (names : Names),
      (active.flatMap (visitsOf nodes)).foldl (bind probes) names
        = active.foldl (bindActive nodes probes) names
  | [], _ => rfl
  | a :: active, names => by
      rw [List.flatMap_cons, List.foldl_append, foldl_visitsOf, List.foldl_cons]
      exact foldl_flatMap_visitsOf nodes probes active _

/-- **The table binds the entities of `order` one by one.** -/
theorem resolve_eq_foldl (nodes : List Node) (active : List ActiveRelationship) (probes : Nat) :
    resolve nodes active probes = (order nodes active).foldl (bind probes) Names.none := by
  rw [order, foldl_firsts probes _ [] Names.none (fun id => by simp [node?, Names.none]), visits,
    List.foldl_append, foldl_flatMap_visitsOf, List.foldl_map]
  rfl

/-! ### What stands in the order -/

theorem mem_of_mem_firsts {e : Entity} :
    ∀ {es : List Entity} {seen : List String}, e ∈ firsts seen es → e ∈ es
  | .node n :: es, seen, h => by
      rw [firsts] at h
      split at h
      · exact List.mem_cons_of_mem _ (mem_of_mem_firsts h)
      · rcases List.mem_cons.mp h with rfl | h
        · exact List.mem_cons_self ..
        · exact List.mem_cons_of_mem _ (mem_of_mem_firsts h)
  | .relationship a :: es, seen, h => by
      rcases List.mem_cons.mp h with rfl | h
      · exact List.mem_cons_self ..
      · exact List.mem_cons_of_mem _ (mem_of_mem_firsts h)

/-- No relationship is left out: only nodes come twice. -/
theorem relationship_mem_firsts {a : ActiveRelationship} :
    ∀ {es : List Entity} {seen : List String},
      .relationship a ∈ es → .relationship a ∈ firsts seen es
  | .node n :: es, seen, h => by
      have h' : Entity.relationship a ∈ es := by simpa using h
      rw [firsts]
      split
      · exact relationship_mem_firsts h'
      · exact List.mem_cons_of_mem _ (relationship_mem_firsts h')
  | .relationship b :: es, seen, h => by
      rcases List.mem_cons.mp h with h | h
      · exact h ▸ List.mem_cons_self ..
      · exact List.mem_cons_of_mem _ (relationship_mem_firsts h)

/-- An id that is not seen yet stands where a node with it comes first. -/
theorem exists_node_firsts {n : Node} :
    ∀ {es : List Entity} {seen : List String}, .node n ∈ es → n.id ∉ seen →
      ∃ m : Node, m.id = n.id ∧ .node m ∈ firsts seen es
  | .node m :: es, seen, h, hs => by
      by_cases hm : m.id = n.id
      · exact ⟨m, hm, by rw [firsts, if_neg (hm ▸ hs)]; exact List.mem_cons_self ..⟩
      have h' : Entity.node n ∈ es := by
        rcases List.mem_cons.mp h with h | h
        · cases h; exact absurd rfl hm
        · exact h
      rw [firsts]
      split
      · exact exists_node_firsts h' hs
      · have hs' : n.id ∉ m.id :: seen := by simp [hs, Ne.symm hm]
        obtain ⟨k, hk, hmem⟩ := exists_node_firsts h' hs'
        exact ⟨k, hk, List.mem_cons_of_mem _ hmem⟩
  | .relationship a :: es, seen, h, hs => by
      have h' : Entity.node n ∈ es := by simpa using h
      obtain ⟨k, hk, hmem⟩ := exists_node_firsts h' hs
      exact ⟨k, hk, List.mem_cons_of_mem _ hmem⟩

/-- A node that has been visited before is left out. -/
theorem id_notMem_of_mem_firsts {n : Node} :
    ∀ {es : List Entity} {seen : List String}, .node n ∈ firsts seen es → n.id ∉ seen
  | .node m :: es, seen, h => by
      rw [firsts] at h
      split at h
      · exact id_notMem_of_mem_firsts h
      · rename_i hm
        rcases List.mem_cons.mp h with h | h
        · cases h; exact hm
        · exact fun hs => id_notMem_of_mem_firsts h (List.mem_cons_of_mem _ hs)
  | .relationship a :: es, seen, h => by
      have h' : Entity.node n ∈ firsts seen es := by simpa [firsts] using h
      exact id_notMem_of_mem_firsts h'

/-- The ids of the relationships among entities. -/
def relationshipIds (es : List Entity) : List String :=
  es.filterMap fun
    | .node _ => Option.none
    | .relationship a => some a.relationship.id

theorem nodup_keys_firsts :
    ∀ {es : List Entity} {seen : List String}, (relationshipIds es).Nodup →
      ((firsts seen es).map Entity.key).Nodup
  | [], _, _ => List.nodup_nil
  | .node n :: es, seen, h => by
      have h' : (relationshipIds es).Nodup := h
      rw [firsts]
      split
      · exact nodup_keys_firsts h'
      · rw [List.map_cons, List.nodup_cons]
        refine ⟨fun hk => ?_, nodup_keys_firsts h'⟩
        obtain ⟨e, he, hek⟩ := List.mem_map.mp hk
        cases e with
        | node m =>
            have hid : m.id = n.id := Sum.inl.inj hek
            exact id_notMem_of_mem_firsts he (hid ▸ List.mem_cons_self ..)
        | relationship a => cases hek
  | .relationship a :: es, seen, h => by
      have h' : (a.relationship.id :: relationshipIds es).Nodup := h
      rw [firsts, List.map_cons, List.nodup_cons]
      refine ⟨fun hk => ?_, nodup_keys_firsts (List.nodup_cons.mp h').2⟩
      obtain ⟨e, he, hek⟩ := List.mem_map.mp hk
      cases e with
      | node m => cases hek
      | relationship b =>
          have hid : b.relationship.id = a.relationship.id := Sum.inr.inj hek
          refine (List.nodup_cons.mp h').1 (List.mem_filterMap.mpr ⟨_, mem_of_mem_firsts he, ?_⟩)
          exact congrArg some hid

theorem relationshipIds_visits (nodes : List Node) (active : List ActiveRelationship) :
    relationshipIds (visits nodes active) = active.map (·.relationship.id) := by
  have hnodes : ∀ ns : List Node, relationshipIds (ns.map .node) = [] := by
    intro ns; induction ns with
    | nil => rfl
    | cons n ns ih => exact ih
  have hvisits : ∀ a, relationshipIds (visitsOf nodes a) = [a.relationship.id] := by
    intro a
    simp only [visitsOf, relationshipIds, List.filterMap_append] at hnodes ⊢
    rw [hnodes, hnodes]
    rfl
  rw [visits, relationshipIds, List.filterMap_append, ← relationshipIds, ← relationshipIds, hnodes,
    List.append_nil]
  induction active with
  | nil => rfl
  | cons a active ih =>
      rw [List.flatMap_cons, relationshipIds, List.filterMap_append, ← relationshipIds,
        ← relationshipIds, hvisits, ih]
      rfl

/-- No two entities of the order share an id. -/
theorem nodup_keys_order {nodes : List Node} {active : List ActiveRelationship}
    (h : (active.map (·.relationship.id)).Nodup) : ((order nodes active).map Entity.key).Nodup :=
  nodup_keys_firsts (relationshipIds_visits nodes active ▸ h)

theorem relationship_mem_order {nodes : List Node} {active : List ActiveRelationship}
    {a : ActiveRelationship} : .relationship a ∈ order nodes active ↔ a ∈ active := by
  constructor
  · intro h
    simpa [visits, visitsOf] using mem_of_mem_firsts h
  · intro h
    exact relationship_mem_firsts (by simp [visits, visitsOf, h])

theorem mem_of_node_mem_order {nodes : List Node} {active : List ActiveRelationship} {n : Node}
    (h : .node n ∈ order nodes active) : n ∈ nodes := by
  have hv := mem_of_mem_firsts h
  simp only [visits, visitsOf, List.mem_append, List.mem_flatMap, List.mem_map, Option.mem_toList,
    List.mem_singleton, reduceCtorEq, or_false, Entity.node.injEq, exists_eq_right] at hv
  rcases hv with ⟨a, -, hn | hn⟩ | hn
  · exact (mem_of_lastNode? hn).1
  · exact (mem_of_lastNode? hn).1
  · exact hn

/-- Every id of a node stands in the order. -/
theorem exists_node_mem_order {nodes : List Node} {active : List ActiveRelationship} {n : Node}
    (h : n ∈ nodes) : ∃ m : Node, m.id = n.id ∧ .node m ∈ order nodes active :=
  exists_node_firsts (by simp [visits, h]) (List.not_mem_nil)

/-! ### Everything has a name -/

/-- A name is kept by the id of what it is for. -/
theorem of?_congr {e f : Entity} (h : f.key = e.key) (names : Names) :
    names.of? e = names.of? f := by
  cases e <;> cases f <;> simp_all [Entity.key, of?]

/-- Behind a binding an entity has the name that it had before, or the next one if the binding was
of its id. -/
theorem of?_bind_cases (probes : Nat) (names : Names) (e f : Entity) :
    (names.bind probes f).of? e = names.of? e ∧ (f.key = e.key → (names.of? e).isSome) ∨
      f.key = e.key ∧ (names.bind probes f).of? e = some (nextName probes names.used f) := by
  by_cases hkey : f.key = e.key
  · rw [of?_congr hkey, of?_congr hkey]
    cases hf : names.of? f with
    | none => exact .inr ⟨hkey, of?_bind_self hf⟩
    | some name =>
        cases f with
        | node n => exact .inl ⟨by rw [bind, bindNode_of_named hf, hf], fun _ => rfl⟩
        | relationship a =>
            -- of relationships that share an id the last one settles its name
            refine .inr ⟨hkey, ?_⟩
            rw [bind, bindRelationship, of?, relationship?_cons, if_pos rfl]
            rfl
  · exact .inl ⟨of?_bind_of_ne (Ne.symm hkey), fun h => absurd h hkey⟩

theorem isSome_of?_foldl {probes : Nat} {e : Entity} :
    ∀ {es : List Entity} {names : Names},
      (∃ f ∈ es, f.key = e.key) ∨ (names.of? e).isSome = true →
        ((es.foldl (bind probes) names).of? e).isSome = true
  | [], _, h => h.resolve_left nofun
  | f :: es, names, h => by
      rw [List.foldl_cons]
      refine isSome_of?_foldl ?_
      rcases of?_bind_cases probes names e f with ⟨hsame, hnamed⟩ | ⟨-, hnext⟩
      · rw [hsame]
        rcases h with ⟨g, hg, hkey⟩ | h
        · rcases List.mem_cons.mp hg with rfl | hg
          · exact .inr (hnamed hkey)
          · exact .inl ⟨g, hg, hkey⟩
        · exact .inr h
      · rw [hnext]
        exact .inr rfl

/-- A name that comes up in a run is the next one of an entity of the run, where some names are in
use that are still in use behind the run. -/
theorem exists_nextName_of_foldl {probes : Nat} {e : Entity} {name : String} :
    ∀ {es : List Entity} {names : Names}, (es.foldl (bind probes) names).of? e = some name →
      names.of? e = some name ∨ ∃ f ∈ es, f.key = e.key ∧
        ∃ used ⊆ (es.foldl (bind probes) names).used, name = nextName probes used f
  | [], _, h => .inl h
  | f :: es, names, h => by
      rw [List.foldl_cons] at h ⊢
      have hused : names.used ⊆ (es.foldl (bind probes) (names.bind probes f)).used :=
        List.Subset.trans (used_subset_bind probes names f) (used_subset_foldl probes es _)
      rcases exists_nextName_of_foldl h with hbind | ⟨g, hg, hkey, hnext⟩
      · rcases of?_bind_cases probes names e f with ⟨hsame, -⟩ | ⟨hkey, hnext⟩
        · exact .inl (hsame.symm.trans hbind)
        · exact .inr ⟨f, List.mem_cons_self .., hkey, names.used, hused,
            Option.some.inj (hbind.symm.trans hnext)⟩
      · exact .inr ⟨g, List.mem_cons_of_mem _ hg, hkey, hnext⟩

section Resolved

variable {nodes : List Node} {active : List ActiveRelationship}

/-- Every node has a name. -/
theorem isSome_node?_resolve {n : Node} (h : n ∈ nodes) (active : List ActiveRelationship)
    (probes : Nat) : ((resolve nodes active probes).node? n.id).isSome = true := by
  obtain ⟨m, hid, hm⟩ : ∃ m : Node, m.id = n.id ∧ .node m ∈ order nodes active :=
    exists_node_mem_order h
  rw [resolve_eq_foldl]
  exact isSome_of?_foldl (e := .node n) (.inl ⟨_, hm, congrArg Sum.inl hid⟩)

/-- Every relationship that takes part has a name. -/
theorem isSome_relationship?_resolve {a : ActiveRelationship} (h : a ∈ active) (nodes : List Node)
    (probes : Nat) :
    ((resolve nodes active probes).relationship? a.relationship.id).isSome = true := by
  rw [resolve_eq_foldl]
  exact isSome_of?_foldl (e := .relationship a) (.inl ⟨_, relationship_mem_order.mpr h, rfl⟩)

/-- The name of a node is the one that a node with its id got where some names were in use. -/
theorem exists_probe_of_node?_resolve {probes : Nat} {id name : String}
    (h : (resolve nodes active probes).node? id = some name) :
    ∃ m ∈ nodes, m.id = id ∧
      ∃ used ⊆ (resolve nodes active probes).used, name = probe used probes m.name := by
  rw [resolve_eq_foldl] at h ⊢
  rcases exists_nextName_of_foldl (e := .node ⟨id, Option.none, ""⟩) h with
    hnone | ⟨f, hf, hkey, used, hused, hname⟩
  · cases hnone
  · cases f with
    | node m => exact ⟨m, mem_of_node_mem_order hf, Sum.inl.inj hkey, used, hused, hname⟩
    | relationship a => cases hkey

/-- The name of a relationship is the one that an active relationship got where some names were in
use. -/
theorem exists_relationshipName_of_relationship?_resolve {probes : Nat} {id name : String}
    (h : (resolve nodes active probes).relationship? id = some name) :
    ∃ a ∈ active, ∃ used, name = relationshipName used a := by
  rw [resolve_eq_foldl] at h
  rcases exists_nextName_of_foldl (e := .relationship ⟨0, .ofEnds id "" "" Option.none⟩) h with
    hnone | ⟨f, hf, hkey, used, -, hname⟩
  · cases hnone
  · cases f with
    | node m => cases hkey
    | relationship a => exact ⟨a, relationship_mem_order.mp hf, used, hname⟩

end Resolved

end Names

end GraphQuery
