import GraphQuery.Json.Value

/-!
# JSON — compact text of a value

`Value.write` is the compact JSON text of a value: no blanks, members in their order, and in
strings an escape for the double quote, the backslash and the control characters only.
-/

namespace GraphQuery.Json

/-- Numbers with a fraction or an exponent: plain from `10 ^ -5` up to `10 ^ 16` and with at least
one fraction digit, with an exponent otherwise; zero keeps its sign. -/
def floatStyle : NumberStyle where
  tie := .toEven
  plainFrom := -5
  plainBelow := 16
  wholeEnd := ['.', '0']
  zero := ['0', '.', '0']
  negativeZero := ['-', '0', '.', '0']

/-- The text of a float. -/
def writeFloat (x : Binary64) : List Char :=
  floatStyle.write x

/-- The decimal text of an integer. -/
def writeInt (i : Int) : List Char :=
  if i < 0 then '-' :: Nat.toDigits 10 i.natAbs else Nat.toDigits 10 i.natAbs

/-- The text of a number. -/
def Number.write : Number → List Char
  | .integer i => writeInt i
  | .float x => writeFloat x

/-- What stands for a character inside a string. -/
def escapeChar (c : Char) : List Char :=
  if c = '"' then ['\\', '"']
  else if c = '\\' then ['\\', '\\']
  else if c = '\n' then ['\\', 'n']
  else if c = '\r' then ['\\', 'r']
  else if c = '\t' then ['\\', 't']
  else if c = '\x08' then ['\\', 'b']
  else if c = '\x0c' then ['\\', 'f']
  else if c.toNat < 0x20 then
    ['\\', 'u', '0', '0', Nat.digitChar (c.toNat / 16), Nat.digitChar (c.toNat % 16)]
  else [c]

/-- The text of a string, with its quotes. -/
def writeString (s : String) : List Char :=
  '"' :: (s.toList.flatMap escapeChar ++ ['"'])

mutual

/-- The compact text of a value. -/
def Value.write : Value → List Char
  | .null => ['n', 'u', 'l', 'l']
  | .bool true => ['t', 'r', 'u', 'e']
  | .bool false => ['f', 'a', 'l', 's', 'e']
  | .number n => n.write
  | .string s => writeString s
  | .array [] => ['[', ']']
  | .array (item :: items) => '[' :: (item.write ++ writeItems items)
  | .object [] => ['{', '}']
  | .object ((name, value) :: members) =>
    '{' :: (writeString name ++ ':' :: (value.write ++ writeMembers members))

/-- The items after the first one, up to the closing bracket. -/
def writeItems : List Value → List Char
  | [] => [']']
  | item :: items => ',' :: (item.write ++ writeItems items)

/-- The members after the first one, up to the closing brace. -/
def writeMembers : List (String × Value) → List Char
  | [] => ['}']
  | (name, value) :: members =>
    ',' :: (writeString name ++ ':' :: (value.write ++ writeMembers members))

end

/-- The compact text of a value as a string. -/
def Value.toText (v : Value) : String :=
  String.ofList v.write

end GraphQuery.Json
