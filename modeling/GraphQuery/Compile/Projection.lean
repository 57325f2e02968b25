import GraphQuery.Compile.Patterns
import GraphQuery.Diagram.Position

/-!
# Compile — what a query returns

The items that are returned are the return fields of the diagram, a positional one standing for
the name of its node.  Without fields they are the names that relationships and conditions refer
to, and without those a single fallback.  No item is returned twice.
-/

namespace GraphQuery.Snapshot

/-- The text that returns what a field stands for. -/
def itemText (s : Snapshot) : ReturnItem → String
  | .node node => s.nodeName node.id
  | .text text => text

/-- The items that the return fields ask for. -/
def explicitItems (s : Snapshot) : List String :=
  distinct (s.diagram.returnItems.map s.itemText)

/-- The names that active relationships and conditions on known nodes refer to. -/
def referencedNames (s : Snapshot) : List String :=
  distinct (s.active.flatMap (fun a =>
      [s.nodeName a.relationship.source, s.nodeName a.relationship.target])
    ++ (s.diagram.filters.filter fun f => s.diagram.hasNode f.node).map fun f => s.nodeName f.node)

/-- The items that a query returns. -/
def returnedItems (s : Snapshot) (fallback : String) : List String :=
  if s.explicitItems ≠ [] then s.explicitItems
  else if s.referencedNames ≠ [] then s.referencedNames
  else [fallback]

end GraphQuery.Snapshot
