import GraphQuery.Diagram.Basic
import GraphQuery.Query.Literal

/-!
# Query — clauses

A query is a list of clauses.  A pattern keeps the node or the relationship of the diagram that it
stands for next to the name it binds; only names, labels and types are written.
-/

namespace GraphQuery

/-- The pattern of a node. -/
structure NodePattern where
  /-- The id of the node, if the pattern stands for one. -/
  node : Option String
  /-- The name that the pattern binds. -/
  name : String
  /-- The label that the pattern asks for.  An empty label is not written. -/
  label : Option String
deriving DecidableEq, Repr

/-- The pattern of a relationship between two nodes. -/
structure RelationshipPattern where
  /-- The relationship that the pattern stands for. -/
  relationship : Relationship
  /-- The name that the pattern binds. -/
  name : String
  /-- The node that the relationship starts from. -/
  source : NodePattern
  /-- The node that it leads to. -/
  target : NodePattern
deriving DecidableEq, Repr

/-- A pattern of a match clause. -/
inductive Pattern where
  /-- A node on its own. -/
  | node (p : NodePattern)
  /-- A relationship with its two nodes. -/
  | relationship (p : RelationshipPattern)
deriving DecidableEq, Repr

/-- A function that a property goes through before it is compared. -/
inductive Cast where
  /-- To an integer. -/
  | toInteger
  /-- To a number. -/
  | toFloat
  /-- To a text. -/
  | toText
deriving DecidableEq, Repr

/-- A comparison of a property with a literal. -/
structure Predicate where
  /-- The function that the property goes through. -/
  cast : Option Cast
  /-- The name of the node. -/
  name : String
  /-- The property. -/
  property : String
  /-- The operator. -/
  operator : String
  /-- The literal. -/
  literal : Literal
deriving DecidableEq, Repr

/-- A clause of a query. -/
inductive Clause where
  /-- Every pattern has to match. -/
  | mandatoryMatch (patterns : List Pattern)
  /-- The patterns match together or not at all. -/
  | optionalMatch (patterns : List Pattern)
  /-- Only these names go on, and only so many rows if there is a limit. -/
  | handOff (names : List String) (limit : Option String)
  /-- Every predicate has to hold. -/
  | filter (predicates : List Predicate)
  /-- Properties of a node are set. -/
  | assign (name : String) (values : List (String × Literal))
  /-- These items are returned. -/
  | project (items : List String)
  /-- Only so many rows are returned. -/
  | limit (count : String)
deriving DecidableEq, Repr

/-- A query. -/
abbrev Query := List Clause

/-! ### Text -/

/-- What separates the items of a clause. -/
def comma : List Char := [',', ' ']

/-- What joins predicates. -/
def conjunction : List Char := [' ', 'A', 'N', 'D', ' ']

/-- A name with the label or the type after it, if there is one that is not empty. -/
def writeTagged (name : String) (tag : Option String) : List Char :=
  match tag.filter (· ≠ "") with
  | some tag => name.toList ++ ':' :: tag.toList
  | none => name.toList

/-- The text of a node pattern. -/
def writeNodePattern (name : String) (label : Option String) : List Char :=
  '(' :: (writeTagged name label ++ [')'])

/-- The text of a relationship between its two nodes, without the arrow. -/
def writeRelationshipBody (name : String) (type : Option String) : List Char :=
  '[' :: (writeTagged name type ++ [']'])

/-- The text of the pattern of a node. -/
def NodePattern.write (p : NodePattern) : List Char :=
  writeNodePattern p.name p.label

/-- The text of the pattern of a relationship. -/
def RelationshipPattern.write (p : RelationshipPattern) : List Char :=
  p.source.write ++ '-' :: (writeRelationshipBody p.name p.relationship.type
    ++ '-' :: '>' :: p.target.write)

/-- The text of a pattern. -/
def Pattern.write : Pattern → List Char
  | .node p => p.write
  | .relationship p => p.write

/-- The name of a cast. -/
def Cast.text : Cast → String
  | .toInteger => "toInteger"
  | .toFloat => "toFloat"
  | .toText => "toString"

/-- The text of a property of a node. -/
def writeAccess (name property : String) : List Char :=
  name.toList ++ '.' :: property.toList

/-- The text of a predicate. -/
def Predicate.write (p : Predicate) : List Char :=
  let access := writeAccess p.name p.property
  let operand := match p.cast with
    | some cast => cast.text.toList ++ '(' :: (access ++ [')'])
    | none => access
  operand ++ ' ' :: (p.operator.toList ++ ' ' :: p.literal.write)

/-- The text of an assignment to a property of a node. -/
def writeAssignment (name : String) (value : String × Literal) : List Char :=
  writeAccess name value.1 ++ ' ' :: '=' :: ' ' :: value.2.write

/-- The text of a clause. -/
def Clause.write : Clause → List Char
  | .mandatoryMatch patterns =>
    "MATCH ".toList ++ comma.intercalate (patterns.map Pattern.write)
  | .optionalMatch patterns =>
    "OPTIONAL MATCH ".toList ++ comma.intercalate (patterns.map Pattern.write)
  | .handOff names rows =>
    "WITH ".toList ++ comma.intercalate (names.map String.toList) ++
      match rows with
      | some count => " LIMIT ".toList ++ count.toList
      | none => []
  | .filter predicates =>
    "WHERE ".toList ++ conjunction.intercalate (predicates.map Predicate.write)
  | .assign name values =>
    "SET ".toList ++ comma.intercalate (values.map (writeAssignment name))
  | .project items =>
    "RETURN ".toList ++ comma.intercalate (items.map String.toList)
  | .limit count => "LIMIT ".toList ++ count.toList

/-- How the clauses of a query are laid out. -/
inductive Layout where
  /-- All on one line. -/
  | singleLine
  /-- Each on a line of its own. -/
  | multiline
deriving DecidableEq, Repr

/-- What separates two clauses. -/
def Layout.separator : Layout → List Char
  | .singleLine => [' ']
  | .multiline => ['\n']

/-- The text of a query. -/
def Query.write (layout : Layout) (q : Query) : List Char :=
  layout.separator.intercalate (q.map Clause.write)

/-- The text of a query as a string. -/
def Query.toText (layout : Layout) (q : Query) : String :=
  String.ofList (Query.write layout q)

end GraphQuery
