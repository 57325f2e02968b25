import GraphQuery.Text.Unsigned

/-!
# Text — remarks

A remark says what is wrong and may say where, by ending in a line and a column.  The place is no
part of the wording: it is written with plain numerals, and line zero is no place at all.
-/

namespace GraphQuery.Text

/-- A place in a text. -/
structure Place where
  /-- The number of the line, from one; zero for no place. -/
  line : Nat
  /-- The number of the column. -/
  column : Nat
deriving DecidableEq, Repr

/-- What is wrong, and perhaps where. -/
structure Remark where
  /-- What is wrong. -/
  wording : List Char
  /-- Where it is wrong. -/
  place : Option Place
deriving DecidableEq, Repr

/-- What stands before the number of the line. -/
def lineWord : List Char :=
  " at line ".toList

/-- What stands before the number of the column. -/
def columnWord : List Char :=
  " column ".toList

/-- What follows a word at the start of a text. -/
def afterWord? (word cs : List Char) : Option (List Char) :=
  if word.isPrefixOf cs then some (cs.drop word.length) else none

/-- The number of 64 bits that digits at the start of a text write, and what follows them. -/
def readCount? (cs : List Char) : Option (Nat × List Char) :=
  match readUnsigned UInt64.size (cs.takeWhile Char.isDigit) with
  | .ok n => some (n, cs.dropWhile Char.isDigit)
  | .error _ => none

/-- The place that a text names, if it does nothing else. -/
def readPlace? (cs : List Char) : Option Place := do
  let rest ← afterWord? lineWord cs
  let (line, rest) ← readCount? rest
  let rest ← afterWord? columnWord rest
  let (column, rest) ← readCount? rest
  if rest.isEmpty then return ⟨line, column⟩ else none

namespace Remark

/-- The remark that a text makes. -/
def read (cs : List Char) : Remark :=
  match readPlace? cs with
  | some place => ⟨[], some place⟩
  | none =>
    match cs with
    | [] => ⟨[], none⟩
    | c :: cs =>
      let remark := read cs
      { remark with wording := c :: remark.wording }

/-- The text of a remark. -/
def write (r : Remark) : List Char :=
  match r.place with
  | some ⟨line + 1, column⟩ =>
    r.wording ++ lineWord ++ Nat.toDigits 10 (line + 1) ++ columnWord ++ Nat.toDigits 10 column
  | _ => r.wording

end Remark

end GraphQuery.Text
