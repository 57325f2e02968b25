import GraphQuery.Proofs.Characters

/-!
# Proofs — queries without stray quotes

`Snapshot.QuoteFree` says that no name, label, type, property, operator, return field or limit that
a query may write holds a double quote; it says nothing of the values that conditions compare with.
A double quote is not part of the syntax either.  So nothing but the literals of a query holds one
(`Clause.QuoteFree`), in each shape of the limit and in an update.
-/

namespace GraphQuery

/-- Nothing that a query writes outside of its literals holds a double quote. -/
structure Snapshot.QuoteFree (s : Snapshot) : Prop where
  node : ∀ n ∈ s.diagram.nodes, '"' ∉ (s.nodeName n.id).toList
  relationship : ∀ a ∈ s.active, '"' ∉ (s.relationshipName a.relationship).toList
  fallback : '"' ∉ s.settings.fallback.toList
  label : ∀ n ∈ s.diagram.nodes, ∀ label ∈ n.label, '"' ∉ label.toList
  type : ∀ a ∈ s.active, ∀ type ∈ a.relationship.type, '"' ∉ type.toList
  property : ∀ f ∈ s.diagram.filters, '"' ∉ f.property.toList
  operator : ∀ f ∈ s.diagram.filters, '"' ∉ f.operator.toList
  returnField : ∀ field ∈ s.diagram.returnFields, '"' ∉ field.toList
  limit : '"' ∉ s.diagram.limit.toList

/-- To have no stray quotes is to lack the double quote. -/
theorem Clause.Lacks.quoteFree {c : Clause} (h : c.Lacks '"') : c.QuoteFree := by
  cases c with
  | filter predicates =>
      intro p hp
      obtain ⟨hname, hproperty, hoperator⟩ := h p hp
      exact ⟨hname, hproperty, hoperator⟩
  | _ => exact h

namespace Snapshot.QuoteFree

variable {settings : Settings} {d : Diagram}

theorem lacks {s : Snapshot} (h : s.QuoteFree) : s.Lacks '"' where
  node := h.node
  relationship := h.relationship
  fallback := h.fallback
  label := h.label
  type := h.type
  property := h.property
  operator := h.operator
  returnField := h.returnField
  limit := h.limit

/-- Nothing but the literals of a query holds a double quote. -/
theorem readQuery (h : (d.snapshot settings).QuoteFree) :
    ∀ c ∈ (d.snapshot settings).readQuery, c.QuoteFree :=
  fun c hc => (h.lacks.readQuery (by decide) c hc).quoteFree

/-- Nothing but the literals of an update holds a double quote. -/
theorem updateQuery (h : (d.snapshot settings).QuoteFree) {target : String}
    (htarget : '"' ∉ target.toList) {values : List (String × Json.Value)}
    (hvalues : ∀ v ∈ values, '"' ∉ v.1.toList) :
    ∀ c ∈ (d.snapshot settings).updateQuery target values, c.QuoteFree :=
  fun c hc => (h.lacks.updateQuery (by decide) htarget hvalues c hc).quoteFree

end Snapshot.QuoteFree

end GraphQuery
