import Mathlib.Data.List.Basic
import GraphQuery.Proofs.Clauses

/-!
# Proofs — renaming ids

A `Renaming` gives nodes and relationships other ids, without giving two of them the same one, and
leaves an empty id of a node empty.  Conditions may get any ids.  It is carried through every stage
of a query: the names that are settled (`resolve_rename`), the diagram made ready
(`snapshot_rename`), and each clause (`readQuery_rename`, `updateQuery_rename`), whose patterns then
stand for the renamed nodes and relationships.  An id without a node is looked up like any other, and
no relationship is written by its id, because every active one has a name.

Patterns are written without ids, so **ids never reach the text** (`ids_never_reach_text`).
-/

namespace GraphQuery

/-- Other ids for the nodes, the relationships and the conditions of a diagram. -/
structure Renaming where
  /-- The new id of a node. -/
  node : String → String
  /-- The new id of a relationship. -/
  relationship : String → String
  /-- The new id of the condition at a place. -/
  condition : Nat → String
  node_injective : Function.Injective node
  node_eq_empty : ∀ id, node id = "" ↔ id = ""
  relationship_injective : Function.Injective relationship

variable {ρ : Renaming}

/-! ### Renamed things -/

/-- The node with its new id. -/
def Node.rename (n : Node) (ρ : Renaming) : Node :=
  { n with id := ρ.node n.id }

/-- The relationship with its new id and the new ids of its ends. -/
def Relationship.rename (r : Relationship) (ρ : Renaming) : Relationship :=
  { r with
    id := ρ.relationship r.id
    source := ρ.node r.source
    target := ρ.node r.target }

/-- The condition at a place with its new id and the new id of its node. -/
def Condition.rename (c : Condition) (ρ : Renaming) (place : Nat) : Condition :=
  { c with id := ρ.condition place, node := c.node.map ρ.node }

/-- The filter with the new id of its node. -/
def PropertyFilter.rename (f : PropertyFilter) (ρ : Renaming) : PropertyFilter :=
  { f with node := ρ.node f.node }

/-- The diagram with new ids. -/
def Diagram.rename (d : Diagram) (ρ : Renaming) : Diagram :=
  { d with
    nodes := d.nodes.map (·.rename ρ)
    relationships := d.relationships.map (·.rename ρ)
    conditions := d.conditions.mapIdx fun place c => c.rename ρ place }

/-- The active relationship with its new ids. -/
def ActiveRelationship.rename (a : ActiveRelationship) (ρ : Renaming) : ActiveRelationship :=
  { a with relationship := a.relationship.rename ρ }

/-- The names by the new ids. -/
def Names.rename (names : Names) (ρ : Renaming) : Names :=
  ⟨names.nodes.map fun p => (ρ.node p.1, p.2),
    names.relationships.map fun p => (ρ.relationship p.1, p.2), names.used⟩

/-- The ready diagram with new ids. -/
def Snapshot.rename (s : Snapshot) (ρ : Renaming) : Snapshot :=
  ⟨s.diagram.rename ρ, s.settings, s.active.map (·.rename ρ), s.names.rename ρ⟩

/-- What a limit counts, with the renamed node. -/
def LimitShape.rename (ρ : Renaming) : LimitShape → LimitShape
  | .rows limit => .rows limit
  | .nodes primary limit => .nodes (primary.rename ρ) limit

/-- The pattern for the renamed node. -/
def NodePattern.rename (p : NodePattern) (ρ : Renaming) : NodePattern :=
  { p with node := p.node.map ρ.node }

/-- The pattern for the renamed relationship. -/
def RelationshipPattern.rename (p : RelationshipPattern) (ρ : Renaming) : RelationshipPattern :=
  ⟨p.relationship.rename ρ, p.name, p.source.rename ρ, p.target.rename ρ⟩

/-- The pattern for the renamed node or relationship. -/
def Pattern.rename (ρ : Renaming) : Pattern → Pattern
  | .node p => .node (p.rename ρ)
  | .relationship p => .relationship (p.rename ρ)

/-- The clause with its patterns renamed. -/
def Clause.rename (ρ : Renaming) : Clause → Clause
  | .mandatoryMatch patterns => .mandatoryMatch (patterns.map (Pattern.rename ρ))
  | .optionalMatch patterns => .optionalMatch (patterns.map (Pattern.rename ρ))
  | c => c

/-- The query with its patterns renamed. -/
def Query.rename (q : Query) (ρ : Renaming) : Query :=
  q.map (Clause.rename ρ)

/-! ### Ids -/

/-- Looking up a new id among renamed items finds the item with the old one. -/
theorem find?_map_id {α : Type} {key : α → String} {f : String → String}
    (hf : Function.Injective f) {g : α → α} (hg : ∀ a, key (g a) = f (key a)) (as : List α)
    (id : String) :
    (as.map g).find? (fun a => decide (key a = f id))
      = (as.find? fun a => decide (key a = id)).map g := by
  rw [List.find?_map]
  simp only [Function.comp_def, hg, hf.eq_iff]

/-- The last node with a new id is the renamed last node with the old one. -/
theorem lastNode?_rename (ρ : Renaming) (nodes : List Node) (id : String) :
    lastNode? (nodes.map (·.rename ρ)) (ρ.node id) = (lastNode? nodes id).map (·.rename ρ) := by
  have hid : ∀ n : Node, (n.rename ρ).id = ρ.node n.id := fun _ => rfl
  rw [lastNode?, ← List.map_reverse]
  exact find?_map_id ρ.node_injective hid nodes.reverse id

/-! ### Names -/

namespace Names

/-- A name is found by the new id of its node. -/
theorem node?_rename (names : Names) (ρ : Renaming) (id : String) :
    (names.rename ρ).node? (ρ.node id) = names.node? id := by
  have hid : ∀ p : String × String, (ρ.node p.1, p.2).1 = ρ.node p.1 := fun _ => rfl
  rw [node?, rename, find?_map_id ρ.node_injective hid, Option.map_map]
  rfl

theorem relationship?_rename (names : Names) (ρ : Renaming) (id : String) :
    (names.rename ρ).relationship? (ρ.relationship id) = names.relationship? id := by
  have hid : ∀ p : String × String, (ρ.relationship p.1, p.2).1 = ρ.relationship p.1 :=
    fun _ => rfl
  rw [relationship?, rename, find?_map_id ρ.relationship_injective hid, Option.map_map]
  rfl

/-- A new id has a name exactly if the old one has, so the same nodes are settled. -/
theorem bindNode_rename (probes : Nat) (names : Names) (n : Node) :
    (names.rename ρ).bindNode probes (n.rename ρ) = (names.bindNode probes n).rename ρ := by
  rw [bindNode, bindNode, Node.rename, node?_rename]
  cases names.node? n.id <;> rfl

/-- An end without a node is passed over by its new id too. -/
theorem bindEnd_rename (nodes : List Node) (probes : Nat) (names : Names) (id : String) :
    (names.rename ρ).bindEnd (nodes.map (·.rename ρ)) probes (ρ.node id)
      = (names.bindEnd nodes probes id).rename ρ := by
  rw [bindEnd, bindEnd, lastNode?_rename]
  cases lastNode? nodes id with
  | none => rfl
  | some n => exact bindNode_rename probes names n

theorem bindActive_rename (nodes : List Node) (probes : Nat) (names : Names)
    (a : ActiveRelationship) :
    bindActive (nodes.map (·.rename ρ)) probes (names.rename ρ) (a.rename ρ)
      = (bindActive nodes probes names a).rename ρ := by
  simp only [bindActive, ActiveRelationship.rename, Relationship.rename, bindEnd_rename]
  rfl

/-- **Names are settled** without regard to what the ids are. -/
theorem resolve_rename (nodes : List Node) (active : List ActiveRelationship) (probes : Nat) :
    resolve (nodes.map (·.rename ρ)) (active.map (·.rename ρ)) probes
      = (resolve nodes active probes).rename ρ := by
  have hactive : (active.map (·.rename ρ)).foldl (bindActive (nodes.map (·.rename ρ)) probes)
        (Names.none.rename ρ)
      = (active.foldl (bindActive nodes probes) Names.none).rename ρ := by
    rw [List.foldl_map]
    exact List.foldl_hom (rename · ρ) fun names a => bindActive_rename nodes probes names a
  show (nodes.map _).foldl _ ((active.map _).foldl _ (Names.none.rename ρ)) = _
  rw [hactive, List.foldl_map]
  exact List.foldl_hom (rename · ρ) fun names n => bindNode_rename probes names n

end Names

/-! ### Diagrams -/

namespace Diagram

/-- New ids are ids of nodes exactly if the old ones are. -/
theorem hasNode_rename (d : Diagram) (id : String) :
    (d.rename ρ).hasNode (ρ.node id) = d.hasNode id := by
  rw [hasNode, rename, List.any_map]
  simp only [Function.comp_def, Node.rename, ρ.node_injective.eq_iff]
  rfl

/-- Relationships keep their places. -/
theorem places_rename (rs : List Relationship) :
    ((rs.map (·.rename ρ)).zipIdx.map fun (r, i) => (⟨i, r⟩ : ActiveRelationship))
      = (rs.zipIdx.map fun (r, i) => (⟨i, r⟩ : ActiveRelationship)).map (·.rename ρ) := by
  rw [List.zipIdx_map, List.map_map, List.map_map]
  rfl

/-- The same relationships take part, renamed. -/
theorem activeRelationships_rename (d : Diagram) :
    (d.rename ρ).activeRelationships = d.activeRelationships.map (·.rename ρ) := by
  have henabled : (d.rename ρ).relationships.filter (·.enabled)
      = (d.relationships.filter (·.enabled)).map (·.rename ρ) := List.filter_map
  have hends : ∀ a : ActiveRelationship,
      ((d.rename ρ).hasNode (a.rename ρ).relationship.source
          && (d.rename ρ).hasNode (a.rename ρ).relationship.target)
        = (d.hasNode a.relationship.source && d.hasNode a.relationship.target) := fun a =>
    congrArg₂ and (hasNode_rename d _) (hasNode_rename d _)
  rw [activeRelationships, henabled, places_rename, List.filter_map, activeRelationships]
  simp only [Function.comp_def, hends]

/-- A condition asks for the renamed filter: a node that is left out stays left out. -/
theorem filter?_rename (c : Condition) (place : Nat) :
    (c.rename ρ place).filter? = c.filter?.map (·.rename ρ) := by
  have hnode : Condition.filled? (c.node.map ρ.node) = (Condition.filled? c.node).map ρ.node := by
    rw [Condition.filled?, Condition.filled?, Option.filter_map]
    simp only [Function.comp_def, ne_eq, ρ.node_eq_empty]
  obtain ⟨id, type, node, property, operator, value⟩ := c
  cases type with
  | property =>
    simp only [Condition.rename, Condition.filter?, hnode]
    cases Condition.filled? node <;> cases Condition.filled? property <;>
      cases Condition.filled? operator <;> cases Condition.filled? value <;> rfl
  | node => rfl
  | relationship => rfl
  | path => rfl

/-- The same filters are asked for, whatever ids the conditions have. -/
theorem filters_rename (d : Diagram) : (d.rename ρ).filters = d.filters.map (·.rename ρ) := by
  have hplaces : d.filters = (d.conditions.zipIdx.map Prod.fst).filterMap Condition.filter? := by
    rw [List.zipIdx_map_fst, filters]
  show (d.conditions.mapIdx fun place c => c.rename ρ place).filterMap Condition.filter? = _
  rw [hplaces, List.mapIdx_eq_zipIdx_map, List.filterMap_map, List.filterMap_map,
    List.map_filterMap]
  simp only [Function.comp_def, filter?_rename]

/-- **The ready diagram is renamed**, and the settings are what they were. -/
theorem snapshot_rename (d : Diagram) (settings : Settings) :
    (d.rename ρ).snapshot settings = (d.snapshot settings).rename ρ := by
  rw [snapshot, activeRelationships_rename]
  exact congrArg _ (Names.resolve_rename ..)

end Diagram

/-! ### Clauses -/

namespace Snapshot

variable {s : Snapshot}

/-- Whether the relationship has a name. -/
def Named (s : Snapshot) (r : Relationship) : Prop :=
  (s.names.relationship? r.id).isSome

/-- Every relationship that joins the query has a name. -/
def AllNamed (s : Snapshot) : Prop :=
  ∀ m, ∀ r ∈ s.joining m, s.Named r

/-- The names of all relationships that take part have been settled. -/
theorem allNamed (settings : Settings) (d : Diagram) : (d.snapshot settings).AllNamed := by
  intro m r hr
  obtain ⟨a, ha, -, rfl⟩ := mem_joining.mp hr
  exact Names.isSome_relationship?_resolve ha d.nodes settings.maxProbes

@[simp]
theorem rename_diagram (s : Snapshot) (ρ : Renaming) :
    (s.rename ρ).diagram = s.diagram.rename ρ := rfl

theorem filters_rename (s : Snapshot) :
    (s.rename ρ).diagram.filters = s.diagram.filters.map (·.rename ρ) :=
  Diagram.filters_rename s.diagram

theorem node?_rename (s : Snapshot) (id : String) :
    (s.rename ρ).node? (ρ.node id) = (s.node? id).map (·.rename ρ) :=
  lastNode?_rename ρ s.diagram.nodes id

/-- A node keeps its name, and an id without a node keeps the fallback name. -/
@[simp]
theorem nodeName_rename (s : Snapshot) (id : String) :
    (s.rename ρ).nodeName (ρ.node id) = s.nodeName id :=
  congrArg (·.getD s.settings.fallback) (Names.node?_rename s.names ρ id)

/-- A name is found before the id of the relationship would be written. -/
theorem relationshipName_rename {r : Relationship} (h : s.Named r) :
    (s.rename ρ).relationshipName (r.rename ρ) = s.relationshipName r := by
  obtain ⟨name, hname⟩ := Option.isSome_iff_exists.mp h
  have hrenamed := Names.relationship?_rename s.names ρ r.id
  rw [hname] at hrenamed
  show ((s.names.rename ρ).relationship? (ρ.relationship r.id)).getD _ = _
  rw [hrenamed, relationshipName, hname]
  rfl

/-- Relationships join the query in the same way. -/
theorem joining_rename (s : Snapshot) (m : MatchType) :
    (s.rename ρ).joining m = (s.joining m).map (·.rename ρ) := by
  show ((s.active.map (·.rename ρ)).filter _).map _ = _
  rw [List.filter_map, joining, List.map_map, List.map_map]
  rfl

/-- Two ends are the same node after the renaming exactly if they were before. -/
theorem isMatched_rename (s : Snapshot) (id : String) :
    (s.rename ρ).isMatched (ρ.node id) = s.isMatched id := by
  rw [isMatched, joining_rename, joining_rename, ← List.map_append, List.any_map, isMatched]
  simp only [Function.comp_def, Relationship.rename, ρ.node_injective.eq_iff]

theorem looseNodes_rename (s : Snapshot) :
    (s.rename ρ).looseNodes = s.looseNodes.map (·.rename ρ) := by
  have hloose : ∀ n : Node, (!(s.rename ρ).isMatched (n.rename ρ).id) = !s.isMatched n.id :=
    fun n => congrArg not (isMatched_rename s n.id)
  show (s.diagram.nodes.map (·.rename ρ)).filter _ = _
  rw [List.filter_map, looseNodes]
  simp only [Function.comp_def, hloose]

/-- A node pattern keeps its name and its label. -/
theorem nodePattern_rename (s : Snapshot) (showLabel : Bool) (id : String) :
    (s.rename ρ).nodePattern showLabel (ρ.node id) = (s.nodePattern showLabel id).rename ρ := by
  simp only [nodePattern, NodePattern.rename, nodeName_rename, node?_rename, Option.bind_map]
  rfl

/-- A relationship pattern keeps its name, because it is no id. -/
theorem relationshipPattern_rename {r : Relationship} (h : s.Named r)
    (showSource showTarget : Bool) :
    (s.rename ρ).relationshipPattern (r.rename ρ) showSource showTarget
      = (s.relationshipPattern r showSource showTarget).rename ρ := by
  rw [relationshipPattern, relationshipName_rename h]
  exact congrArg₂ _ (nodePattern_rename s showSource r.source)
    (nodePattern_rename s showTarget r.target)

/-- The nodes written so far are the renamed ones, so that labels are shown in the same places. -/
theorem patternsAfter_rename (seen : List String) {rs : List Relationship}
    (h : ∀ r ∈ rs, s.Named r) :
    (s.rename ρ).patternsAfter (seen.map ρ.node) (rs.map (·.rename ρ))
      = ((s.patternsAfter seen rs).1.map (·.rename ρ),
        (s.patternsAfter seen rs).2.map ρ.node) := by
  induction rs generalizing seen with
  | nil => rfl
  | cons r rs ih =>
    obtain ⟨hr, hrs⟩ := List.forall_mem_cons.mp h
    -- a label is shown where the node has not been written, and renaming is injective
    have hsource : (r.rename ρ).source ∈ seen.map ρ.node ↔ r.source ∈ seen :=
      List.mem_map_of_injective ρ.node_injective
    have htarget : (r.rename ρ).target ∈ (r.rename ρ).source :: seen.map ρ.node
        ↔ r.target ∈ r.source :: seen :=
      List.mem_map_of_injective (l := r.source :: seen) ρ.node_injective
    have hrest : (s.rename ρ).patternsAfter
        ((r.rename ρ).target :: (r.rename ρ).source :: seen.map ρ.node) (rs.map (·.rename ρ)) = _ :=
      ih (r.target :: r.source :: seen) hrs
    simp only [List.map_cons, patternsAfter, hsource, htarget, relationshipPattern_rename hr, hrest]

/-- Nodes on their own show their labels in the same places, too. -/
theorem nodesAfter_rename (s : Snapshot) (seen : List String) (ns : List Node) :
    (s.rename ρ).nodesAfter (seen.map ρ.node) (ns.map (·.rename ρ))
      = ((s.nodesAfter seen ns).1.map (·.rename ρ), (s.nodesAfter seen ns).2.map ρ.node) := by
  induction ns generalizing seen with
  | nil => rfl
  | cons n ns ih =>
    have hseen : (n.rename ρ).id ∈ seen.map ρ.node ↔ n.id ∈ seen :=
      List.mem_map_of_injective ρ.node_injective
    have hpattern (showLabel : Bool) : (s.rename ρ).nodePattern showLabel (n.rename ρ).id = _ :=
      nodePattern_rename s showLabel n.id
    have hrest : (s.rename ρ).nodesAfter ((n.rename ρ).id :: seen.map ρ.node)
        (ns.map (·.rename ρ)) = _ :=
      ih (n.id :: seen)
    simp only [List.map_cons, nodesAfter, hseen, hpattern, hrest]

theorem matchClause_rename (ps : List Pattern) :
    matchClause (ps.map (Pattern.rename ρ)) = (matchClause ps).map (Clause.rename ρ) := by
  cases ps <;> rfl

theorem optionalClauses_rename (names : List String) (ps : List RelationshipPattern) :
    optionalClauses names (ps.map (·.rename ρ))
      = (optionalClauses names ps).map (Clause.rename ρ) := by
  cases ps with
  | nil => rfl
  | cons p ps =>
    cases names <;> simp [optionalClauses, handOffClause, Clause.rename, Pattern.rename]

theorem standaloneMatch_rename (s : Snapshot) :
    (s.rename ρ).standaloneMatch = s.standaloneMatch.rename ρ := by
  have hnodes : (s.rename ρ).diagram.nodes = s.diagram.nodes.map (·.rename ρ) := rfl
  rw [standaloneMatch, hnodes, standaloneMatch]
  cases s.diagram.nodes with
  | nil => rfl
  | cons n ns =>
    have hpatterns := nodesAfter_rename (ρ := ρ) s [] (n :: ns)
    simp only [List.map_cons, List.map_nil] at hpatterns
    simp only [List.map_cons, hpatterns, Clause.rename, List.map_map]
    rfl

/-- What the first match hands on are names, so they stay the same. -/
theorem leadingNames_rename (h : ∀ r ∈ s.joining .leading, s.Named r) :
    (s.rename ρ).leadingNames = s.leadingNames := by
  rw [leadingNames, leadingNames, joining_rename, looseNodes_rename, List.flatMap_map, List.map_map]
  refine congrArg distinct (congrArg₂ _ ?_ ?_)
  · refine List.flatMap_congr fun r hr => ?_
    rw [relationshipName_rename (h r hr)]
    exact congrArg₂ (fun x y => [x, s.relationshipName r, y]) (nodeName_rename ..)
      (nodeName_rename ..)
  · exact List.map_congr_left fun n _ => nodeName_rename s n.id

/-- What has been written by one clause is renamed for the next one. -/
theorem connectedMatch_rename (h : s.AllNamed) :
    (s.rename ρ).connectedMatch = s.connectedMatch.map (Clause.rename ρ) := by
  have hleading : (s.rename ρ).patternsAfter [] _ = _ := patternsAfter_rename [] (h .leading)
  rw [connectedMatch, connectedMatch]
  simp only [joining_rename, hleading, looseNodes_rename, nodesAfter_rename,
    patternsAfter_rename _ (h .optional), patternsAfter_rename _ (h .chained),
    leadingNames_rename (h .leading), optionalClauses_rename, List.map_append, List.map_map,
    ← matchClause_rename]
  rfl

/-- **The match clauses are renamed**, pattern by pattern. -/
theorem matchClauses_rename (h : s.AllNamed) :
    (s.rename ρ).matchClauses = s.matchClauses.map (Clause.rename ρ) := by
  have hactive : (s.rename ρ).active.isEmpty = s.active.isEmpty := List.isEmpty_map
  rw [matchClauses, matchClauses, hactive, standaloneMatch_rename, connectedMatch_rename h]
  split <;> rfl

/-- A predicate is about the name of its node, so it stays the same. -/
theorem predicate_rename (s : Snapshot) (f : PropertyFilter) :
    (s.rename ρ).predicate (f.rename ρ) = s.predicate f :=
  congrArg (Predicate.compare · f.property f.operator f.value) (nodeName_rename s f.node)

theorem filterClause_rename (s : Snapshot) (fs : List PropertyFilter) :
    (s.rename ρ).filterClause (fs.map (·.rename ρ))
      = (s.filterClause fs).map (Clause.rename ρ) := by
  cases fs with
  | nil => rfl
  | cons f fs =>
    simp only [List.map_cons, filterClause, predicate_rename, List.map_map, Function.comp_def]
    rfl

/-- A field that names a position returns the name of the node there, and any other one itself. -/
theorem explicitItems_rename (s : Snapshot) :
    (s.rename ρ).explicitItems = s.explicitItems := by
  have hitem (field : String) :
      (s.rename ρ).itemText (ReturnItem.ofField (s.diagram.nodes.map (·.rename ρ)) field)
        = s.itemText (ReturnItem.ofField s.diagram.nodes field) := by
    rw [ReturnItem.ofField, ReturnItem.ofField, List.length_map]
    cases position? field s.diagram.nodes.length with
    | none => rfl
    | some i =>
      rw [Option.bind_some, Option.bind_some, List.getElem?_map]
      cases s.diagram.nodes[i]? with
      | none => rfl
      | some n => exact nodeName_rename s n.id
  rw [explicitItems, explicitItems, Diagram.returnItems, Diagram.returnItems, List.map_map,
    List.map_map]
  exact congrArg distinct (List.map_congr_left fun field _ => hitem field)

/-- The names of the ends and of the known nodes of filters are the same. -/
theorem referencedNames_rename (s : Snapshot) :
    (s.rename ρ).referencedNames = s.referencedNames := by
  have hknown : ((s.rename ρ).diagram.filters.filter fun f => (s.rename ρ).diagram.hasNode f.node)
      = (s.diagram.filters.filter fun f => s.diagram.hasNode f.node).map (·.rename ρ) := by
    rw [filters_rename, List.filter_map]
    simp only [Function.comp_def, PropertyFilter.rename, rename_diagram, Diagram.hasNode_rename]
  have hactive : (s.rename ρ).active = s.active.map (·.rename ρ) := rfl
  rw [referencedNames, referencedNames, hknown, hactive, List.flatMap_map, List.map_map]
  refine congrArg distinct (congrArg₂ _ ?_ ?_)
  · refine List.flatMap_congr fun a _ => ?_
    exact congrArg₂ (fun x y => [x, y]) (nodeName_rename ..) (nodeName_rename ..)
  · exact List.map_congr_left fun f _ => nodeName_rename s f.node

/-- **What is returned** stays the same. -/
theorem returnedItems_rename (s : Snapshot) (fallback : String) :
    (s.rename ρ).returnedItems fallback = s.returnedItems fallback := by
  rw [returnedItems, explicitItems_rename, referencedNames_rename, returnedItems]

/-! ### Queries -/

/-- A limit on nodes counts the renamed primary node. -/
theorem primary?_rename (s : Snapshot) :
    (s.rename ρ).primary? = s.primary?.map (·.rename ρ) := by
  have hfirst : (s.rename ρ).diagram.nodes.head? = s.diagram.nodes.head?.map (·.rename ρ) :=
    List.head?_map
  have hsource (r : Relationship) : (s.rename ρ).node? (r.rename ρ).source = _ :=
    node?_rename s r.source
  rw [primary?, primary?, joining_rename, List.head?_map, hfirst, Option.map_or, Option.bind_map]
  simp only [Function.comp_def, hsource, Option.map_bind]

theorem limitShape_rename (s : Snapshot) :
    (s.rename ρ).limitShape = s.limitShape.rename ρ := by
  have hmode : (s.rename ρ).diagram.limitMode = s.diagram.limitMode := rfl
  have hlimit : (s.rename ρ).limit? = s.limit? := rfl
  have hactive : (s.rename ρ).active.isEmpty = s.active.isEmpty := List.isEmpty_map
  rw [limitShape, limitShape, hmode, hlimit, hactive, primary?_rename]
  cases s.diagram.limitMode with
  | rows => rfl
  | nodes =>
    cases s.limit? with
    | none => rfl
    | some limit =>
      cases s.active.isEmpty with
      | true => rfl
      | false => cases s.primary? <;> rfl

/-- In a query that limits rows, only match clauses hold ids. -/
theorem rowsQuery_rename (h : s.AllNamed) (limit : Option String) :
    (s.rename ρ).rowsQuery limit = (s.rowsQuery limit).rename ρ := by
  rw [rowsQuery, matchClauses_rename h, filters_rename, filterClause_rename, returnedItems_rename,
    rowsQuery]
  cases limit <;> simp [Query.rename, Clause.rename] <;> rfl

/-- A label is left out for the primary node, which is still the only one with its id. -/
theorem patternExcept_rename {r : Relationship} (h : s.Named r) (id : String) :
    (s.rename ρ).patternExcept (ρ.node id) (r.rename ρ) = (s.patternExcept id r).rename ρ := by
  rw [patternExcept, relationshipPattern_rename h, patternExcept]
  simp only [Relationship.rename, ne_eq, ρ.node_injective.eq_iff]
  rfl

/-- Behind the hand-off every relationship keeps the clause that it is in. -/
theorem expansion_rename (h : s.AllNamed) (primary : Node) :
    (s.rename ρ).expansion (primary.rename ρ) = (s.expansion primary).map (Clause.rename ρ) := by
  have hpattern (m : MatchType) : ∀ r ∈ s.joining m,
      (s.rename ρ).patternExcept (primary.rename ρ).id (r.rename ρ) = _ :=
    fun r hr => patternExcept_rename (h m r hr) primary.id
  have hleading : ((s.joining .leading).map (·.rename ρ)).map
        ((s.rename ρ).patternExcept (primary.rename ρ).id)
      = ((s.joining .leading).map (s.patternExcept primary.id)).map (Pattern.rename ρ) := by
    rw [List.map_map, List.map_map]
    exact List.map_congr_left (hpattern .leading)
  have hsingle (clause : List Pattern → Clause) (m : MatchType)
      (hclause : ∀ ps, (clause ps).rename ρ = clause (ps.map (Pattern.rename ρ))) :
      (s.joining m).map (fun r => clause
        [(s.rename ρ).patternExcept (primary.rename ρ).id (r.rename ρ)])
      = ((s.joining m).map fun r => clause [s.patternExcept primary.id r]).map
          (Clause.rename ρ) := by
    rw [List.map_map]
    refine List.map_congr_left fun r hr => ?_
    rw [hpattern m r hr]
    exact (hclause [s.patternExcept primary.id r]).symm
  rw [expansion, expansion, joining_rename, joining_rename, joining_rename, hleading,
    matchClause_rename, List.map_map, List.map_map, List.map_append, List.map_append,
    ← hsingle .mandatoryMatch .chained fun _ => rfl, ← hsingle .optionalMatch .optional fun _ => rfl]
  rfl

theorem nodesQuery_rename (h : s.AllNamed) (primary : Node) (limit : String) :
    (s.rename ρ).nodesQuery (primary.rename ρ) limit = (s.nodesQuery primary limit).rename ρ := by
  have hname : (s.rename ρ).nodeName (primary.rename ρ).id = s.nodeName primary.id :=
    nodeName_rename s primary.id
  have hprimary : (s.rename ρ).primaryMatch (primary.rename ρ)
      = (s.primaryMatch primary).rename ρ := by
    rw [primaryMatch, hname]
    rfl
  -- the filters are told apart by their nodes, which the renaming keeps apart
  have hown (f : PropertyFilter) :
      (f.rename ρ).node = (primary.rename ρ).id ↔ f.node = primary.id :=
    ρ.node_injective.eq_iff
  rw [nodesQuery_eq, nodesQuery_eq, filters_rename, List.filter_map, List.filter_map, hprimary,
    expansion_rename h, hname, returnedItems_rename]
  simp only [Function.comp_def, ne_eq, hown, filterClause_rename, Query.rename, List.map_cons,
    List.map_append, List.map_nil, Clause.rename]

/-- **A query is renamed** in both shapes of the limit. -/
theorem readQuery_rename (h : s.AllNamed) :
    (s.rename ρ).readQuery = s.readQuery.rename ρ := by
  rw [readQuery, limitShape_rename, readQuery]
  cases s.limitShape with
  | rows limit => exact rowsQuery_rename h limit
  | nodes primary limit => exact nodesQuery_rename h primary limit

/-- **An update is renamed**; its target is a name and its values hold no ids. -/
theorem updateQuery_rename (h : s.AllNamed) (target : String)
    (values : List (String × Json.Value)) :
    (s.rename ρ).updateQuery target values = (s.updateQuery target values).rename ρ := by
  rw [updateQuery, matchClauses_rename h, filters_rename, filterClause_rename, updateQuery]
  cases values <;> simp [Query.rename, assignClause, Clause.rename]

theorem nodeNames_rename (s : Snapshot) : (s.rename ρ).nodeNames = s.nodeNames := by
  show (s.diagram.nodes.map (·.rename ρ)).map _ = _
  rw [List.map_map]
  exact List.map_congr_left fun n _ => nodeName_rename s n.id

end Snapshot

/-! ### Texts -/

/-- A pattern is written with its names, labels and type, and without ids. -/
theorem Pattern.write_rename (p : Pattern) : (p.rename ρ).write = p.write := by
  cases p <;> rfl

/-- Clauses hold ids in their patterns only. -/
theorem Clause.write_rename (c : Clause) : (c.rename ρ).write = c.write := by
  have hpatterns (ps : List Pattern) :
      (ps.map (Pattern.rename ρ)).map Pattern.write = ps.map Pattern.write := by
    rw [List.map_map]
    exact List.map_congr_left fun p _ => Pattern.write_rename p
  cases c with
  | mandatoryMatch ps =>
    exact congrArg ("MATCH ".toList ++ comma.intercalate ·) (hpatterns ps)
  | optionalMatch ps =>
    exact congrArg ("OPTIONAL MATCH ".toList ++ comma.intercalate ·) (hpatterns ps)
  | _ => exact congrArg Clause.write rfl

theorem Query.toText_rename (layout : Layout) (q : Query) :
    (q.rename ρ).toText layout = q.toText layout := by
  have hwrite : (q.rename ρ).map Clause.write = q.map Clause.write := by
    rw [Query.rename, List.map_map]
    exact List.map_congr_left fun c _ => Clause.write_rename c
  rw [Query.toText, Query.write, hwrite, Query.toText, Query.write]

/-- The query of a diagram with other ids is the renamed query. -/
theorem compileQuery_rename (settings : Settings) (d : Diagram) :
    compileQuery settings (d.rename ρ) = (compileQuery settings d).rename ρ := by
  rw [compileQuery, Diagram.snapshot_rename, compileQuery]
  exact Snapshot.readQuery_rename (Snapshot.allNamed settings d)

/-- An update of a diagram with other ids has the renamed query or the same error. -/
theorem compileUpdateQuery_rename (settings : Settings) (d : Diagram) (target : String)
    (updates : List (String × NewValue)) :
    compileUpdateQuery settings (d.rename ρ) target updates
      = (compileUpdateQuery settings d target updates).map (·.rename ρ) := by
  have hquery (values : List (String × Json.Value)) :
      ((d.snapshot settings).rename ρ).updateQuery target values = _ :=
    Snapshot.updateQuery_rename (Snapshot.allNamed settings d) target values
  rw [compileUpdateQuery, compileUpdateQuery, Diagram.snapshot_rename, Snapshot.nodeNames_rename]
  split
  · cases collectValues updates with
    | error e => rfl
    | ok values => exact congrArg Except.ok (hquery values)
  · rfl

/-- **Ids never reach the text**: a diagram with other ids is read by the same text, and its nodes
are updated by the same texts or refused with the same errors. -/
theorem ids_never_reach_text (settings : Settings) (d : Diagram) (ρ : Renaming) :
    compile settings (d.rename ρ) = compile settings d ∧
      ∀ target updates, compileUpdate settings (d.rename ρ) target updates
        = compileUpdate settings d target updates := by
  refine ⟨?_, fun target updates => ?_⟩
  · rw [compile, compileQuery_rename, Query.toText_rename, compile]
  · rw [compileUpdate, compileUpdateQuery_rename, compileUpdate]
    cases compileUpdateQuery settings d target updates with
    | error e => rfl
    | ok q => exact congrArg Except.ok (Query.toText_rename settings.layout q)

/-- A mark before every id that is not empty, and the places as the ids of conditions. -/
def Renaming.marked : Renaming where
  node id := if id = "" then "" else "n" ++ id
  relationship id := "r" ++ id
  condition := Nat.repr
  node_injective id id' h := by
    dsimp only at h
    split at h <;> split at h <;> simp_all
  node_eq_empty id := by split <;> simp_all
  relationship_injective id id' h := by simpa using h

/-- Two nodes and two relationships that share their ids, a node without an id, and a relationship
and conditions to no node. -/
def tangle : Diagram where
  nodes := [⟨"1", some "Person", "p"⟩, ⟨"1", none, "q"⟩, ⟨"", some "City", "p"⟩]
  relationships :=
    [⟨"x", some "KNOWS", "1", "", none, none, true⟩, ⟨"x", none, "", "1", none, none, true⟩,
      ⟨"y", none, "1", "9", some "to", none, true⟩]
  conditions :=
    [.ofFilter "k" ⟨"1", "name", "=", "Ada"⟩, .ofFilter "k" ⟨"", "name", "=", "Oslo"⟩,
      .ofFilter "l" ⟨"9", "age", ">", "5"⟩]
  returnFields := []
  limit := "3"
  limitMode := .nodes

/-- The marks change every id of `tangle` but the empty one, and not its text. -/
theorem text_of_marked_tangle :
    (tangle.rename .marked).nodes.map (·.id) = ["n1", "n1", ""] ∧
      (tangle.rename .marked).conditions.map (·.node) = [some "n1", some "", some "n9"] ∧
      compile .default (tangle.rename .marked) = compile .default tangle :=
  ⟨by decide, by decide, (ids_never_reach_text .default tangle .marked).1⟩

end GraphQuery
