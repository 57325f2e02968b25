import GraphQuery.Json.Printer
import GraphQuery.Text.Blank
import GraphQuery.Text.Quoted

/-!
# Query — literals

The literals of the query language and their text.  Numbers print with the fewest digits that read
back; a text is a number for the query exactly if it is the printed form of one, blanks around it
apart.
-/

namespace GraphQuery

/-- Numbers of the query language: plain from `10 ^ -6` up to `10 ^ 21`, whole numbers without a
fraction, with an exponent otherwise; zero has no sign. -/
def queryStyle : NumberStyle where
  tie := .up
  plainFrom := -6
  plainBelow := 21
  wholeEnd := []
  zero := ['0']
  negativeZero := ['0']

/-- The text of a number in a query. -/
def writeNumber (x : Binary64) : List Char :=
  queryStyle.write x

/-- The number whose printed form a text is, blanks around it apart. -/
def canonicalNumber? (cs : List Char) : Option Binary64 :=
  let trimmed := Text.trimList cs
  (Binary64.read? trimmed).filter fun x => writeNumber x = trimmed

/-- A literal of the query language. -/
inductive Literal where
  /-- The null literal. -/
  | null
  /-- A truth value. -/
  | bool (b : Bool)
  /-- An integer. -/
  | integer (i : Int)
  /-- A number. -/
  | number (x : Binary64)
  /-- A text. -/
  | text (s : String)
deriving DecidableEq, Repr

namespace Literal

/-- The literal that stands for a value.  The language has no nested literals, so a list or an
object stands as the text of its compact JSON. -/
def ofValue : Json.Value → Literal
  | .null => .null
  | .bool b => .bool b
  | .number (.integer i) => .integer i
  | .number (.float x) => .number x
  | .string s => .text s
  | .array items => .text (Json.Value.array items).toText
  | .object members => .text (Json.Value.object members).toText

/-- The text of a literal. -/
def write : Literal → List Char
  | .null => ['n', 'u', 'l', 'l']
  | .bool true => ['t', 'r', 'u', 'e']
  | .bool false => ['f', 'a', 'l', 's', 'e']
  | .integer i => Json.writeInt i
  | .number x => writeNumber x
  | .text s => Text.quoteList s.toList

end Literal

end GraphQuery
