/-!
# Yaml — places in a text

A `Cursor` is what is left of a text together with the place that it starts at.  The column decides
how deep a line is indented, the line and the offset decide whether a key is short enough.
-/

namespace GraphQuery.Yaml

/-- Whether a character separates words on a line. -/
def isBlank (c : Char) : Bool :=
  c == ' ' || c == '\t'

/-- Whether a character ends a line. -/
def isBreak (c : Char) : Bool :=
  c == '\n' || c == '\r' || c == '\u0085' || c == '\u2028' || c == '\u2029'

/-- Whether a character separates words. -/
def isSpace (c : Char) : Bool :=
  isBlank c || isBreak c

/-- Whether a text is at its end or at a character that separates words. -/
def atSpace : List Char → Bool
  | [] => true
  | c :: _ => isSpace c

/-- Whether a text is at its end or at a line break. -/
def atBreak : List Char → Bool
  | [] => true
  | c :: _ => isBreak c

/-- What is left of a text, and the place where it starts. -/
structure Cursor where
  /-- What is left. -/
  rest : List Char
  /-- The number of bytes before it. -/
  offset : Nat
  /-- The number of lines before it. -/
  line : Nat
  /-- The number of characters before it on its line. -/
  column : Nat
deriving DecidableEq, Repr

namespace Cursor

/-- The start of a text. -/
def start (cs : List Char) : Cursor :=
  ⟨cs, 0, 0, 0⟩

/-- The place behind some characters, none of which ends a line. -/
def pass (c : Cursor) (count : Nat) : Cursor :=
  ⟨c.rest.drop count, c.offset + (String.ofList (c.rest.take count)).utf8ByteSize, c.line,
    c.column + (c.rest.take count).length⟩

/-- The place behind the characters of a kind that does not end a line. -/
def passWhile (c : Cursor) (p : Char → Bool) : Cursor :=
  c.pass (c.rest.takeWhile p).length

/-- The place where a text is left that the cursor reaches on its line. -/
def passTo (c : Cursor) (rest : List Char) : Cursor :=
  c.pass (c.rest.length - rest.length)

/-- The place behind a comment, if there is one here. -/
def passComment (c : Cursor) : Cursor :=
  if c.rest.head? = some '#' then c.passWhile fun ch => !isBreak ch else c

/-- The text of the line break that stands here, and the place behind it.  The breaks that are not
peculiar to one convention keep their characters, every other one is a line feed. -/
def readBreak (c : Cursor) : List Char × Cursor :=
  match c.rest with
  | '\r' :: '\n' :: rest => (['\n'], ⟨rest, c.offset + 2, c.line + 1, 0⟩)
  | ch :: rest =>
    if isBreak ch then
      (if ch = '\u2028' ∨ ch = '\u2029' then [ch] else ['\n'],
        ⟨rest, c.offset + ch.utf8Size, c.line + 1, 0⟩)
    else ([], c)
  | [] => ([], c)

/-- The place behind the line break that stands here. -/
def passBreak (c : Cursor) : Cursor :=
  c.readBreak.2

/-- Whether three times the given mark stand alone at the start of the line here. -/
def isBorder (c : Cursor) (mark : Char) : Bool :=
  c.column == 0 && c.rest.take 3 == [mark, mark, mark] && atSpace (c.rest.drop 3)

/-- Whether the border of a document stands here. -/
def atBorder (c : Cursor) : Bool :=
  c.isBorder '-' || c.isBorder '.'

end Cursor

end GraphQuery.Yaml
