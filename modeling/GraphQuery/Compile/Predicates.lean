import GraphQuery.Compile.Snapshot

/-!
# Compile — conditions

A filter becomes a comparison whose literal depends on the operator and on the text of the value.
An order comparison with a number casts the property to a number, a text operator casts it to a
text, any other operator compares with the number as it is.  Everything else compares with the
text of the value.
-/

namespace GraphQuery

/-- The kinds of operators. -/
inductive OperatorKind where
  /-- A comparison by size. -/
  | order
  /-- A comparison of texts. -/
  | text
  /-- Any other operator. -/
  | other
deriving DecidableEq, Repr

/-- The kind of an operator. -/
def OperatorKind.of (operator : String) : OperatorKind :=
  if operator ∈ [">", "<", ">=", "<="] then .order
  else if operator ∈ ["CONTAINS", "STARTS WITH", "ENDS WITH"] then .text
  else .other

/-- The cast for a comparison by size with a number. -/
def Cast.ofNumber (x : Binary64) : Cast :=
  if x.isWhole then .toInteger else .toFloat

/-- The comparison of a property with a value. -/
def Predicate.compare (name property operator value : String) : Predicate :=
  match OperatorKind.of operator, canonicalNumber? value.toList with
  | .order, some x => ⟨some (Cast.ofNumber x), name, property, operator, .number x⟩
  | .text, _ => ⟨some .toText, name, property, operator, .text value⟩
  | _, some x => ⟨none, name, property, operator, .number x⟩
  | _, none => ⟨none, name, property, operator, .text value⟩

/-- The predicate of a filter. -/
def Snapshot.predicate (s : Snapshot) (f : PropertyFilter) : Predicate :=
  .compare (s.nodeName f.node) f.property f.operator f.value

/-- The clause that keeps the rows that satisfy the filters; none if there are no filters. -/
def Snapshot.filterClause (s : Snapshot) (filters : List PropertyFilter) : List Clause :=
  match filters with
  | [] => []
  | filters => [.filter (filters.map s.predicate)]

end GraphQuery
