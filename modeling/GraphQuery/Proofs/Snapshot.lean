import GraphQuery.Compile.Update
import GraphQuery.Proofs.Binding

/-!
# Proofs — what takes part in a query

Membership in the parts of a snapshot: both ends of an active relationship are nodes, so that it
binds names of the diagram (`Snapshot.HasName`), and an id without a node has the fallback name.
-/

namespace GraphQuery

@[simp]
theorem Diagram.snapshot_diagram (d : Diagram) (settings : Settings) :
    (d.snapshot settings).diagram = d := rfl

theorem Diagram.hasNode_iff {d : Diagram} {id : String} :
    d.hasNode id = true ↔ ∃ n ∈ d.nodes, n.id = id := by
  simp [Diagram.hasNode]

/-- Both ends of an active relationship are nodes. -/
theorem Diagram.hasNode_of_mem_active {d : Diagram} {a : ActiveRelationship}
    (h : a ∈ d.activeRelationships) :
    d.hasNode a.relationship.source = true ∧ d.hasNode a.relationship.target = true := by
  have hends := (List.mem_filter.mp h).2
  rwa [Bool.and_eq_true] at hends

/-- An active relationship is a relationship of the diagram. -/
theorem Diagram.relationship_mem_of_mem_active {d : Diagram} {a : ActiveRelationship}
    (h : a ∈ d.activeRelationships) : a.relationship ∈ d.relationships := by
  obtain ⟨⟨r, i⟩, hr, rfl⟩ := List.mem_map.mp (List.mem_filter.mp h).1
  exact (List.mem_filter.mp (List.fst_mem_of_mem_zipIdx hr)).1

/-- A node that is returned by its position is one of the nodes. -/
theorem Diagram.mem_nodes_of_mem_returnItems {d : Diagram} {n : Node}
    (h : .node n ∈ d.returnItems) : n ∈ d.nodes := by
  obtain ⟨field, -, hfield⟩ := List.mem_map.mp h
  rw [ReturnItem.ofField] at hfield
  split at hfield
  · rename_i m hm
    obtain ⟨i, -, hi⟩ := Option.bind_eq_some_iff.mp hm
    cases hfield
    exact List.mem_of_getElem? hi
  · cases hfield

/-- A text that is returned is one of the fields, trimmed. -/
theorem Diagram.exists_field_of_mem_returnItems {d : Diagram} {text : String}
    (h : .text text ∈ d.returnItems) : ∃ field ∈ d.returnFields, text = Text.trim field := by
  obtain ⟨field, hfield, htext⟩ := List.mem_map.mp h
  rw [ReturnItem.ofField] at htext
  split at htext
  · cases htext
  · cases htext
    obtain ⟨raw, hraw, rfl⟩ := List.mem_map.mp (List.mem_filter.mp hfield).1
    exact ⟨raw, hraw, rfl⟩

namespace Snapshot

theorem mem_joining {s : Snapshot} {m : MatchType} {r : Relationship} :
    r ∈ s.joining m ↔ ∃ a ∈ s.active, a.matchType = m ∧ a.relationship = r := by
  simp [joining, and_assoc]

/-- A node is matched by the leading and chained relationships that it is an end of. -/
theorem isMatched_iff {s : Snapshot} {id : String} :
    s.isMatched id = true ↔
      ∃ r ∈ s.joining .leading ++ s.joining .chained, r.source = id ∨ r.target = id := by
  simp [isMatched, or_and_right, exists_or]

theorem mem_looseNodes {s : Snapshot} {n : Node} :
    n ∈ s.looseNodes ↔ n ∈ s.diagram.nodes ∧ s.isMatched n.id = false := by
  simp [looseNodes]

/-- The names that the pattern of a relationship binds. -/
def namesOf (s : Snapshot) (r : Relationship) : List String :=
  [s.nodeName r.source, s.relationshipName r, s.nodeName r.target]

/-- The name of a node or of an active relationship. -/
def HasName (s : Snapshot) (x : String) : Prop :=
  (∃ n ∈ s.diagram.nodes, x = s.nodeName n.id) ∨
    ∃ a ∈ s.active, x = s.relationshipName a.relationship

/-- The ends of an active relationship are nodes of the diagram. -/
def EndsDrawn (s : Snapshot) : Prop :=
  ∀ a ∈ s.active, s.diagram.hasNode a.relationship.source = true ∧
    s.diagram.hasNode a.relationship.target = true

theorem endsDrawn (settings : Settings) (d : Diagram) : (d.snapshot settings).EndsDrawn :=
  fun _ ha => Diagram.hasNode_of_mem_active ha

theorem hasName_nodeName {s : Snapshot} {id : String} (h : s.diagram.hasNode id = true) :
    s.HasName (s.nodeName id) := by
  obtain ⟨n, hn, rfl⟩ := Diagram.hasNode_iff.mp h
  exact .inl ⟨n, hn, rfl⟩

/-- An active relationship binds names of the diagram. -/
theorem hasName_of_mem_namesOf {s : Snapshot} (hs : s.EndsDrawn) {a : ActiveRelationship}
    (ha : a ∈ s.active) {x : String} (hx : x ∈ s.namesOf a.relationship) : s.HasName x := by
  obtain ⟨hsource, htarget⟩ := hs a ha
  simp only [namesOf, List.mem_cons, List.not_mem_nil, or_false] at hx
  rcases hx with rfl | rfl | rfl
  · exact hasName_nodeName hsource
  · exact .inr ⟨a, ha, rfl⟩
  · exact hasName_nodeName htarget

/-- What the first match binds is handed on. -/
theorem mem_leadingNames {s : Snapshot} {x : String} :
    x ∈ s.leadingNames ↔
      x ∈ (s.joining .leading).flatMap s.namesOf ++ s.looseNodes.map fun n => s.nodeName n.id := by
  rw [leadingNames, mem_distinct]
  rfl

/-- An id without a node has the fallback name. -/
theorem nodeName_of_not_hasNode {settings : Settings} {d : Diagram} {id : String}
    (h : d.hasNode id = false) : (d.snapshot settings).nodeName id = settings.fallback := by
  have hnone : (d.snapshot settings).names.of? (.node ⟨id, none, ""⟩) = none := by
    show (Names.resolve d.nodes d.activeRelationships settings.maxProbes).of? _ = none
    rw [Names.resolve_eq_foldl, Names.of?_foldl_of_forall_ne]
    · rfl
    · intro f hf hkey
      cases f with
      | node m =>
          have hid : id = m.id := Sum.inl.inj hkey
          have hm : d.hasNode id = true :=
            Diagram.hasNode_iff.mpr ⟨m, Names.mem_of_node_mem_order hf, hid.symm⟩
          rw [h] at hm
          cases hm
      | relationship a => cases hkey
  exact congrArg (·.getD settings.fallback) hnone

/-- The name of a node is the one that was settled for it. -/
theorem node?_eq_some_nodeName {settings : Settings} {d : Diagram} {n : Node} (h : n ∈ d.nodes) :
    (d.snapshot settings).names.node? n.id = some ((d.snapshot settings).nodeName n.id) := by
  have hsome := Names.isSome_node?_resolve h d.activeRelationships settings.maxProbes
  obtain ⟨name, hname⟩ := Option.isSome_iff_exists.mp hsome
  have hname : (d.snapshot settings).names.node? n.id = some name := hname
  rw [nodeName, hname]
  rfl

/-- A name that relationships and filters refer to is the name of a node. -/
theorem exists_hasNode_of_mem_referencedNames {settings : Settings} {d : Diagram} {x : String}
    (h : x ∈ (d.snapshot settings).referencedNames) :
    ∃ id, d.hasNode id = true ∧ x = (d.snapshot settings).nodeName id := by
  rw [referencedNames, mem_distinct, List.mem_append] at h
  rcases h with h | h
  · obtain ⟨a, ha, hx⟩ := List.mem_flatMap.mp h
    obtain ⟨hsource, htarget⟩ := Diagram.hasNode_of_mem_active ha
    simp only [List.mem_cons, List.not_mem_nil, or_false] at hx
    rcases hx with rfl | rfl
    · exact ⟨_, hsource, rfl⟩
    · exact ⟨_, htarget, rfl⟩
  · obtain ⟨f, hf, rfl⟩ := List.mem_map.mp h
    exact ⟨f.node, (List.mem_filter.mp hf).2, rfl⟩

/-- A name that is looked up is the one of a node, or else the fallback name. -/
theorem nodeName_cases (settings : Settings) (d : Diagram) (id : String) :
    (∃ n ∈ d.nodes, n.id = id) ∨ (d.snapshot settings).nodeName id = settings.fallback := by
  cases hid : d.hasNode id with
  | false => exact .inr (nodeName_of_not_hasNode hid)
  | true => exact .inl (Diagram.hasNode_iff.mp hid)

/-- What is returned is a name that is looked up, a text of the diagram, or what to fall back on. -/
theorem mem_returnedItems_cases {settings : Settings} {d : Diagram} {fallback x : String}
    (h : x ∈ (d.snapshot settings).returnedItems fallback) :
    (∃ id, x = (d.snapshot settings).nodeName id) ∨ .text x ∈ d.returnItems ∨ x = fallback := by
  rw [returnedItems] at h
  split at h
  · rw [explicitItems, mem_distinct] at h
    obtain ⟨item, hitem, rfl⟩ := List.mem_map.mp h
    cases item with
    | node n => exact .inl ⟨n.id, rfl⟩
    | text text => exact .inr (.inl hitem)
  · split at h
    · obtain ⟨id, -, hx⟩ := exists_hasNode_of_mem_referencedNames h
      exact .inl ⟨id, hx⟩
    · exact .inr (.inr (List.mem_singleton.mp h))

/-- Something is always returned. -/
theorem returnedItems_ne_nil (s : Snapshot) (fallback : String) :
    s.returnedItems fallback ≠ [] := by
  rw [returnedItems]
  split
  · assumption
  · split
    · assumption
    · exact List.cons_ne_nil fallback []

end Snapshot

/-- An update has a query if its target is the name of a node and all its values can be written. -/
theorem compileUpdateQuery_eq_ok {settings : Settings} {d : Diagram} {target : String}
    {updates : List (String × NewValue)} {q : Query} :
    compileUpdateQuery settings d target updates = .ok q ↔
      target ∈ (d.snapshot settings).nodeNames ∧ ∃ values, collectValues updates = .ok values ∧
        q = (d.snapshot settings).updateQuery target values := by
  by_cases htarget : target ∈ (d.snapshot settings).nodeNames
  · cases hvalues : collectValues updates with
    | error e => simp [compileUpdateQuery, htarget, hvalues, Except.map]
    | ok values => simp [compileUpdateQuery, htarget, hvalues, Except.map, eq_comm]
  · simp [compileUpdateQuery, htarget]

end GraphQuery
