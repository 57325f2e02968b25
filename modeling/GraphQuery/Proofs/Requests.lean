import GraphQuery.Proofs.Identifiers
import GraphQuery.Proofs.Uniqueness

/-!
# Proofs — the names that are asked for

A node asks for its own name, and a relationship for its own one or the numbered one of its place
(`Entity.requested`).

**Requests that do not clash are granted** (`requests_kept_without_clash`): whatever is in use before
an entity is bound has been asked for by another one (`used_foldl_of_nodup`), so that it finds its own
request free, and not even a single probe is needed.

**With probes enough no two names are the same** (`names_distinct_within_budget`): a node can choose
among its own name and the names that follow it within the probes, and if the characters do not run
out all of these differ (`iterate_bump_injOn`).  Fewer names are in use than there are entities, so
one of them is free (`exists_iterate_bump_notMem`).
-/

namespace GraphQuery

/-- The name that an entity asks for. -/
def Entity.requested : Entity → String
  | .node n => n.name
  | .relationship a => preferredName a

namespace Names

/-- The nodes and the active relationships. -/
def entities (nodes : List Node) (active : List ActiveRelationship) : List Entity :=
  nodes.map .node ++ active.map .relationship

section Order

variable {nodes : List Node} {active : List ActiveRelationship}

theorem mem_entities_iff_mem_order (hnodes : (nodes.map (·.id)).Nodup) {e : Entity} :
    e ∈ order nodes active ↔ e ∈ entities nodes active := by
  cases e with
  | relationship a => simp [entities, relationship_mem_order]
  | node n =>
      have hmem : Entity.node n ∈ order nodes active ↔ n ∈ nodes := by
        refine ⟨mem_of_node_mem_order, fun hn => ?_⟩
        obtain ⟨m, hid, hm⟩ : ∃ m : Node, m.id = n.id ∧ .node m ∈ order nodes active :=
          exists_node_mem_order hn
        obtain rfl := List.inj_on_of_nodup_map hnodes (mem_of_node_mem_order hm) hn hid
        exact hm
      simp [entities, hmem]

/-- With different ids every entity is bound once. -/
theorem perm_order (hnodes : (nodes.map (·.id)).Nodup)
    (hactive : (active.map (·.relationship.id)).Nodup) :
    List.Perm (order nodes active) (entities nodes active) := by
  have hentities : (entities nodes active).Nodup := by
    refine List.nodup_append.mpr ⟨(hnodes.of_map _).map fun _ _ h => Entity.node.inj h,
      (hactive.of_map _).map fun _ _ h => Entity.relationship.inj h, ?_⟩
    rintro e he f hf rfl
    obtain ⟨n, -, rfl⟩ := List.mem_map.mp he
    obtain ⟨a, -, ha⟩ := List.mem_map.mp hf
    cases ha
  exact (List.perm_ext_iff_of_nodup ((nodup_keys_order hactive).of_map _) hentities).mpr
    fun _ => mem_entities_iff_mem_order hnodes

/-- Everything has a name. -/
theorem isSome_of?_resolve {e : Entity} (he : e ∈ entities nodes active) (probes : Nat) :
    ((resolve nodes active probes).of? e).isSome = true := by
  rcases List.mem_append.mp he with he | he
  · obtain ⟨n, hn, rfl⟩ := List.mem_map.mp he
    exact isSome_node?_resolve hn active probes
  · obtain ⟨a, ha, rfl⟩ := List.mem_map.mp he
    exact isSome_relationship?_resolve ha nodes probes

end Order

/-! ### Requests that do not clash -/

theorem probe_of_notMem {used : List String} {name : String} (h : name ∉ used) (probes : Nat) :
    probe used probes name = name := by
  cases probes with
  | zero => rfl
  | succ probes => rw [probe, if_neg fun hname => h hname.1]

/-- A request that is free is granted. -/
theorem nextName_of_notMem {used : List String} {e : Entity} (h : e.requested ∉ used)
    (probes : Nat) : nextName probes used e = e.requested := by
  cases e with
  | node n => exact probe_of_notMem h probes
  | relationship a => exact if_neg h

/-- **Only requests are in use** behind entities that ask for different names. -/
theorem used_foldl_of_nodup (probes : Nat) {es : List Entity} (hkeys : (es.map Entity.key).Nodup)
    (hrequested : (es.map Entity.requested).Nodup) :
    (es.foldl (bind probes) Names.none).used = (es.map Entity.requested).reverse := by
  -- from the end, because an entity is bound where those before it have been
  induction es using List.reverseRecOn with
  | nil => rfl
  | append_singleton es e ih =>
      have hunbound : (es.foldl (bind probes) Names.none).of? e = Option.none :=
        of?_foldl_of_nodup hkeys
      rw [List.map_append, List.nodup_append] at hkeys hrequested
      have hused := ih hkeys.1 hrequested.1
      have hfree : e.requested ∉ (es.foldl (bind probes) Names.none).used := by
        rw [hused, List.mem_reverse]
        intro hmem
        exact hrequested.2.2 _ hmem _ (List.mem_singleton_self _) rfl
      rw [List.foldl_append, List.foldl_cons, List.foldl_nil, used_bind hunbound,
        nextName_of_notMem hfree, hused, List.map_append, List.reverse_append]
      rfl

/-- An entity of a run of different requests gets what it asks for. -/
theorem of?_foldl_of_requested {probes : Nat} {es : List Entity} {e : Entity}
    (hkeys : (es.map Entity.key).Nodup) (hrequested : (es.map Entity.requested).Nodup)
    (he : e ∈ es) : (es.foldl (bind probes) Names.none).of? e = some e.requested := by
  obtain ⟨before, after, rfl⟩ := List.append_of_mem he
  rw [of?_foldl_of_split hkeys]
  rw [List.map_append, List.nodup_append] at hkeys hrequested
  refine congrArg some (nextName_of_notMem ?_ probes)
  rw [used_foldl_of_nodup probes hkeys.1 hrequested.1, List.mem_reverse]
  intro hmem
  exact hrequested.2.2 _ hmem _ (List.mem_cons_self ..) rfl

/-- **Requests that do not clash are granted.**  Let the ids of the nodes and the ids of the
relationships differ, and let no two of them ask for the same name, a node for its own one and a
relationship for its own one if that is not empty and otherwise for the numbered one of its place.
Then everything gets the name that it asks for, however few probes are allowed. -/
theorem requests_kept_without_clash (nodes : List Node) (active : List ActiveRelationship)
    (probes : Nat) (hnodes : (nodes.map (·.id)).Nodup)
    (hactive : (active.map (·.relationship.id)).Nodup)
    (hrequested : (nodes.map (·.name) ++ active.map preferredName).Nodup) :
    (∀ n ∈ nodes, (resolve nodes active probes).node? n.id = some n.name) ∧
      ∀ a ∈ active, (resolve nodes active probes).relationship? a.relationship.id
        = some (preferredName a) := by
  have hperm := perm_order hnodes hactive
  have horder : ((order nodes active).map Entity.requested).Nodup := by
    refine (hperm.map _).nodup_iff.mpr ?_
    rw [entities, List.map_append, List.map_map, List.map_map]
    exact hrequested
  have hgranted : ∀ e ∈ entities nodes active,
      (resolve nodes active probes).of? e = some e.requested := by
    intro e he
    rw [resolve_eq_foldl]
    exact of?_foldl_of_requested (nodup_keys_order hactive) horder (hperm.mem_iff.mpr he)
  exact ⟨fun n hn => hgranted (.node n) (List.mem_append_left _ (List.mem_map_of_mem hn)),
    fun a ha => hgranted (.relationship a) (List.mem_append_right _ (List.mem_map_of_mem ha))⟩

/-- Three nodes, two of them with names that look like numbered ones and one with none. -/
def lookalikes : List Node :=
  [⟨"1", Option.none, "r3"⟩, ⟨"2", Option.none, ""⟩, ⟨"3", Option.none, "r2"⟩]

/-- Two relationships between the first two of `lookalikes`.  The first one leaves its name to its
place. -/
def likewise : List ActiveRelationship :=
  [⟨3, ⟨"x", Option.none, "1", "2", some "", Option.none, true⟩⟩,
    ⟨4, ⟨"y", Option.none, "2", "1", some "r1", Option.none, true⟩⟩]

/-- All of them get the names that they ask for without a single probe. -/
theorem requests_kept_of_lookalikes :
    (lookalikes.map (·.id)).Nodup ∧ (likewise.map (·.relationship.id)).Nodup ∧
      (lookalikes.map (·.name) ++ likewise.map preferredName).Nodup ∧
      (resolve lookalikes likewise 0).node? "3" = some "r2" ∧
      (resolve lookalikes likewise 0).relationship? "x" = some "r4" := by
  have hnodes : (lookalikes.map (·.id)).Nodup := by decide
  have hactive : (likewise.map (·.relationship.id)).Nodup := by decide
  have hrequested : (lookalikes.map (·.name) ++ likewise.map preferredName).Nodup := by decide
  obtain ⟨hkept, hkept'⟩ :=
    requests_kept_without_clash lookalikes likewise 0 hnodes hactive hrequested
  exact ⟨hnodes, hactive, hrequested, hkept ⟨"3", Option.none, "r2"⟩ (by decide),
    hkept' ⟨3, ⟨"x", Option.none, "1", "2", some "", Option.none, true⟩⟩ (by decide)⟩

/-! ### Probes enough -/

/-- There are characters for that many probes behind the first one of a name. -/
def Roomy (probes : Nat) (name : String) : Prop :=
  ∃ c ∈ name.toList.head?, ∀ k ≤ probes, (c.toNat + k).isValidChar

instance (probes : Nat) (name : String) : Decidable (Roomy probes name) :=
  decidable_of_iff (name.toList.head?.any fun c =>
    (List.range (probes + 1)).all fun k => (c.toNat + k).isValidChar) <| by
      simp only [Roomy, Option.any_eq_true, List.all_eq_true, List.mem_range, Nat.lt_succ_iff,
        decide_eq_true_eq, Option.mem_def]

/-- As long as the characters do not run out all names that are tried differ. -/
theorem iterate_bump_injOn {probes : Nat} {name : String} (hroom : Roomy probes name) {j k : Nat}
    (hj : j ≤ probes) (hk : k ≤ probes) (h : bump^[j] name = bump^[k] name) : j = k := by
  obtain ⟨c, hc, hvalid⟩ := hroom
  obtain ⟨cs, hcs⟩ := List.head?_eq_some_iff.mp hc
  obtain rfl : name = String.ofList (c :: cs) := by rw [← hcs, String.ofList_toList]
  rw [bump_iterate_of_isValidChar cs fun i hi => hvalid i (Nat.le_trans hi hj),
    bump_iterate_of_isValidChar cs fun i hi => hvalid i (Nat.le_trans hi hk)] at h
  have hchar := congrArg Char.toNat (List.cons.inj (String.ofList_injective h)).1
  rw [toNat_ofNat_of_isValidChar (hvalid j hj), toNat_ofNat_of_isValidChar (hvalid k hk)] at hchar
  exact Nat.add_left_cancel hchar

/-- There are more names to try than names in use. -/
theorem exists_iterate_bump_notMem {used : List String} {probes : Nat} {name : String}
    (hroom : Roomy probes name) (hused : used.length ≤ probes) :
    ∃ k ≤ probes, bump^[k] name ∉ used := by
  by_contra hall
  push Not at hall
  have hnodup : ((List.range (probes + 1)).map fun k => bump^[k] name).Nodup :=
    List.nodup_range.map_on fun j hj k hk h => iterate_bump_injOn hroom
      (Nat.lt_succ_iff.mp (List.mem_range.mp hj)) (Nat.lt_succ_iff.mp (List.mem_range.mp hk)) h
  have hsubset : ((List.range (probes + 1)).map fun k => bump^[k] name) ⊆ used := by
    intro x hx
    obtain ⟨k, hk, rfl⟩ := List.mem_map.mp hx
    exact hall k (Nat.lt_succ_iff.mp (List.mem_range.mp hk))
  have hlength := hnodup.length_le_of_subset hsubset
  rw [List.length_map, List.length_range] at hlength
  omega

/-- A binding takes one name into use at most. -/
theorem length_used_bind_le (probes : Nat) (names : Names) (e : Entity) :
    (names.bind probes e).used.length ≤ names.used.length + 1 := by
  cases e with
  | relationship a => exact Nat.le_refl _
  | node n =>
      cases h : names.node? n.id with
      | some name => rw [bind, bindNode_of_named h]; exact Nat.le_succ _
      | none => rw [bind, bindNode_of_unnamed h]; exact Nat.le_refl _

theorem length_used_foldl_le (probes : Nat) :
    ∀ (es : List Entity) (names : Names),
      (es.foldl (bind probes) names).used.length ≤ names.used.length + es.length
  | [], _ => Nat.le_refl _
  | e :: es, names => by
      have hbind := length_used_bind_le probes names e
      have hfoldl := length_used_foldl_le probes es (names.bind probes e)
      rw [List.foldl_cons, List.length_cons]
      omega

/-- **All names differ** if there are probes for all entities but one. -/
theorem nodup_names_of_roomy {nodes : List Node} {active : List ActiveRelationship} {probes : Nat}
    (hnodes : (nodes.map (·.id)).Nodup) (hactive : (active.map (·.relationship.id)).Nodup)
    (hlength : nodes.length + active.length ≤ probes + 1)
    (hroom : ∀ n ∈ nodes, Roomy probes n.name) :
    ((entities nodes active).map (resolve nodes active probes).of?).Nodup := by
  have hperm := perm_order hnodes hactive
  refine (hperm.map _).nodup_iff.mp (nodup_map_of_notMem_before fun before x after horder hx => ?_)
  -- `x` is a node that has found nothing free, although fewer names than probes are in use
  obtain ⟨e, he, hex⟩ := List.mem_map.mp hx
  rw [resolve_eq_foldl, horder] at hex
  obtain ⟨n, rfl, htaken⟩ := out_of_probes_of_shared (horder ▸ nodup_keys_order hactive) he hex
  have hused : (before.foldl (bind probes) Names.none).used.length ≤ probes := by
    have hbefore := length_used_foldl_le probes before Names.none
    have hnone : Names.none.used.length = 0 := rfl
    have hall := hperm.length_eq
    rw [horder] at hall
    simp only [entities, List.length_append, List.length_cons, List.length_map] at hall
    omega
  have hn : Entity.node n ∈ order nodes active := by
    rw [horder]
    exact List.mem_append_right _ (List.mem_cons_self ..)
  obtain ⟨k, hk, hfree⟩ :=
    exists_iterate_bump_notMem (hroom n (mem_of_node_mem_order hn)) hused
  exact hfree (htaken k hk)

end Names

/-- The name that a query uses for an entity. -/
def Snapshot.nameOf (s : Snapshot) : Entity → String
  | .node n => s.nodeName n.id
  | .relationship a => s.relationshipName a.relationship

theorem Snapshot.nameOf_eq_of_of? {s : Snapshot} {e : Entity} {name : String}
    (h : s.names.of? e = some name) : s.nameOf e = name := by
  cases e with
  | node n =>
      have hn : s.names.node? n.id = some name := h
      rw [nameOf, nodeName, hn]
      rfl
  | relationship a =>
      have ha : s.names.relationship? a.relationship.id = some name := h
      rw [nameOf, relationshipName, ha]
      rfl

/-- A query uses the names that were settled. -/
theorem Snapshot.of?_eq_some_nameOf {settings : Settings} {d : Diagram} {e : Entity}
    (he : e ∈ Names.entities d.nodes d.activeRelationships) :
    (d.snapshot settings).names.of? e = some ((d.snapshot settings).nameOf e) := by
  have hsome : ((d.snapshot settings).names.of? e).isSome = true :=
    Names.isSome_of?_resolve he settings.maxProbes
  obtain ⟨name, hname⟩ := Option.isSome_iff_exists.mp hsome
  rw [nameOf_eq_of_of? hname, hname]

namespace Names

/-- **With probes enough no two names are the same.**  Let the ids of the nodes and the ids of the
active relationships differ, let there be as many nodes and relationships as probes or one more at
the most, and let no node ask for an empty name or for one whose first character comes within so many
characters of one that does not exist.  Then everything has a name, and all names differ, whatever
names are asked for.

The settings that nobody has changed allow for 27 nodes and relationships, so that no query of that
size uses a variable for two things. -/
theorem names_distinct_within_budget :
    (∀ (nodes : List Node) (active : List ActiveRelationship) (probes : Nat),
      (nodes.map (·.id)).Nodup → (active.map (·.relationship.id)).Nodup →
      nodes.length + active.length ≤ probes + 1 → (∀ n ∈ nodes, Roomy probes n.name) →
      ((entities nodes active).map (resolve nodes active probes).of?).Nodup ∧
        ∀ e ∈ entities nodes active, ((resolve nodes active probes).of? e).isSome = true) ∧
    ∀ d : Diagram, (d.nodes.map (·.id)).Nodup →
      (d.activeRelationships.map (·.relationship.id)).Nodup →
      d.nodes.length + d.activeRelationships.length ≤ 27 → (∀ n ∈ d.nodes, Roomy 26 n.name) →
      ((d.snapshot .default).nodeNames ++ d.activeRelationships.map fun a =>
        (d.snapshot .default).relationshipName a.relationship).Nodup := by
  refine ⟨fun nodes active probes hnodes hactive hlength hroom =>
    ⟨nodup_names_of_roomy hnodes hactive hlength hroom, fun e he => isSome_of?_resolve he probes⟩,
    fun d hnodes hactive hlength hroom => ?_⟩
  · have hnames : ((entities d.nodes d.activeRelationships).map
        (d.snapshot .default).names.of?).Nodup :=
      nodup_names_of_roomy hnodes hactive hlength hroom
    have hsettled : (entities d.nodes d.activeRelationships).map (d.snapshot .default).names.of?
        = ((entities d.nodes d.activeRelationships).map (d.snapshot .default).nameOf).map some := by
      rw [List.map_map]
      exact List.map_congr_left fun e he => Snapshot.of?_eq_some_nameOf he
    rw [hsettled] at hnames
    have hdiffer := hnames.of_map some
    rwa [entities, List.map_append, List.map_map, List.map_map] at hdiffer

/-- Three nodes that ask for one name, and a relationship with a name on their way. -/
def crowd : Diagram where
  nodes := [⟨"1", Option.none, "a"⟩, ⟨"2", Option.none, "a"⟩, ⟨"3", Option.none, "a"⟩]
  relationships := [⟨"x", Option.none, "1", "2", some "c", Option.none, true⟩]
  conditions := []
  returnFields := []
  limit := ""
  limitMode := .rows

/-- The third node of `crowd` needs the last of three probes. -/
theorem names_distinct_in_crowd :
    (crowd.nodes.map (·.id)).Nodup ∧
      (crowd.activeRelationships.map (·.relationship.id)).Nodup ∧
      crowd.nodes.length + crowd.activeRelationships.length = 3 + 1 ∧
      (∀ n ∈ crowd.nodes, Roomy 26 n.name) ∧
      ((entities crowd.nodes crowd.activeRelationships).map
        (resolve crowd.nodes crowd.activeRelationships 3).of?).Nodup ∧
      (resolve crowd.nodes crowd.activeRelationships 3).node? "3" = some (bump^[3] "a") ∧
      ((crowd.snapshot .default).nodeNames ++ crowd.activeRelationships.map fun a =>
        (crowd.snapshot .default).relationshipName a.relationship).Nodup := by
  have hnodes : (crowd.nodes.map (·.id)).Nodup := by decide
  have hactive : (crowd.activeRelationships.map (·.relationship.id)).Nodup := by decide
  have hroom : ∀ n ∈ crowd.nodes, Roomy 26 n.name := by decide
  have hroom' : ∀ n ∈ crowd.nodes, Roomy 3 n.name := by decide
  obtain ⟨hresolve, hdefault⟩ := names_distinct_within_budget
  exact ⟨hnodes, hactive, by decide, hroom,
    (hresolve crowd.nodes crowd.activeRelationships 3 hnodes hactive (by decide) hroom').1,
    by decide, hdefault crowd hnodes hactive (by decide) hroom⟩

/-- With one probe less its third node has the name of the relationship. -/
example : ¬ ((entities crowd.nodes crowd.activeRelationships).map
    (resolve crowd.nodes crowd.activeRelationships 2).of?).Nodup := by decide

end Names

end GraphQuery
