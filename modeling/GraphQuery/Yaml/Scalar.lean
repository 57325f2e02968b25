import GraphQuery.Json.Reader
import GraphQuery.Yaml.Cursor

/-!
# Yaml — scalars

A scalar is plain, quoted or a block.  A plain scalar goes on to a comment, to a colon that makes
it a key or to a line that is not indented.  Inside single quotes a quote is written twice; inside
double quotes a backslash announces an escape.  In all of these a run of line breaks folds: it
takes the blanks around it along and becomes a space, and of several breaks in a row one is
dropped.  A block stands on the lines after its mark and keeps its line breaks or folds them.
-/

namespace GraphQuery.Yaml

/-- How a scalar is written. -/
inductive ScalarStyle where
  /-- Without any mark. -/
  | plain
  /-- Between quotes. -/
  | quoted
  /-- As a block that keeps its line breaks. -/
  | literal
  /-- As a block that folds its line breaks. -/
  | folded
deriving DecidableEq, Repr

/-! ### Gaps -/

/-- What stands between two words of a scalar. -/
inductive Gap where
  /-- Blanks. -/
  | blanks (cs : List Char)
  /-- Line breaks, the first one apart. -/
  | breaks (first more : List Char)
deriving DecidableEq, Repr

/-- What a gap leaves of itself. -/
def Gap.text : Gap → List Char
  | .blanks cs => cs
  | .breaks first more =>
    if first = ['\n'] then (if more.isEmpty then [' '] else more) else first ++ more

/-- Whether a gap goes over the end of a line. -/
def Gap.isBroken : Gap → Bool
  | .blanks _ => false
  | .breaks _ _ => true

/-- Reads on in a gap.  At the start of a line no tab may stand before the column `indent`.  The
count bounds the number of characters. -/
def readGap? (indent : Nat) : Nat → Gap → Cursor → Option (Gap × Cursor)
  | 0, _, _ => none
  | count + 1, gap, c =>
    match c.rest with
    | [] => some (gap, c)
    | ch :: _ =>
      if isBlank ch then
        match gap with
        | .blanks cs => readGap? indent count (.blanks (cs ++ [ch])) (c.pass 1)
        | .breaks _ _ =>
          if ch = '\t' ∧ c.column < indent then none else readGap? indent count gap (c.pass 1)
      else if isBreak ch then
        let (text, c) := c.readBreak
        match gap with
        | .blanks _ => readGap? indent count (.breaks text []) c
        | .breaks first more => readGap? indent count (.breaks first (more ++ text)) c
      else some (gap, c)

/-! ### Plain scalars -/

/-- Whether a character has a meaning of its own inside brackets and braces. -/
def isFlowMark (c : Char) : Bool :=
  c ∈ [',', '[', ']', '{', '}']

/-- The word of a plain scalar that starts here; nothing if it may not go on as it does. -/
def plainWord? (inFlow : Bool) : List Char → Option (List Char)
  | [] => some []
  | c :: rest =>
    if isSpace c then some []
    else if inFlow && c == ':' && (rest.head?.map fun d => isFlowMark d || d == '?').getD false then
      none
    else if (c == ':' && atSpace rest) || (inFlow && isFlowMark c) then some []
    else (plainWord? inFlow rest).map (c :: ·)

/-- Reads on in a plain scalar after some text and a gap.  Yields its text, whether it is followed
by the end of a line, and the next place that is not blank. -/
def readPlain? (inFlow : Bool) (indent : Nat) :
    Nat → List Char → Gap → Cursor → Option (List Char × Bool × Cursor)
  | 0, _, _, _ => none
  | count + 1, text, gap, c =>
    if c.atBorder || c.rest.head? == some '#' then some (text, gap.isBroken, c)
    else do
      let word ← plainWord? inFlow c.rest
      let (text, gap) := if word.isEmpty then (text, gap) else (text ++ gap.text ++ word, .blanks [])
      let (after, next) ← readGap? indent (c.rest.length + 1) gap (c.pass word.length)
      if next.rest.length + word.length = c.rest.length then return (text, gap.isBroken, next)
      else if !inFlow && next.column < indent then return (text, after.isBroken, next)
      else readPlain? inFlow indent count text after next

/-! ### Quoted scalars -/

/-- The word of a single-quoted scalar that starts here, and what follows it. -/
def singleWord : List Char → List Char × List Char
  | '\'' :: '\'' :: rest =>
    let (word, after) := singleWord rest
    ('\'' :: word, after)
  | c :: rest =>
    if isSpace c || c == '\'' then ([], c :: rest)
    else
      let (word, after) := singleWord rest
      (c :: word, after)
  | [] => ([], [])

/-- The character that a one-letter escape stands for. -/
def escaped? (c : Char) : Option Char :=
  match c with
  | '0' => some '\x00'
  | 'a' => some '\x07'
  | 'b' => some '\x08'
  | 't' => some '\t'
  | '\t' => some '\t'
  | 'n' => some '\n'
  | 'v' => some '\x0b'
  | 'f' => some '\x0c'
  | 'r' => some '\r'
  | 'e' => some '\x1b'
  | ' ' => some ' '
  | '"' => some '"'
  | '/' => some '/'
  | '\\' => some '\\'
  | 'N' => some '\u0085'
  | '_' => some '\u00a0'
  | 'L' => some '\u2028'
  | 'P' => some '\u2029'
  | _ => none

/-- The number of digits of a numbered escape. -/
def escapeDigits? (c : Char) : Option Nat :=
  match c with
  | 'x' => some 2
  | 'u' => some 4
  | 'U' => some 8
  | _ => none

/-- The number that hexadecimal digits write. -/
def hexNumber? (ds : List Char) : Option Nat :=
  ds.foldlM (fun n c => (Json.hexDigit? c).map (16 * n + ·)) 0

/-- The character with a number. -/
def numbered? (ds : List Char) : Option Char :=
  (hexNumber? ds).bind fun n => if n.isValidChar then some (Char.ofNat n) else none

/-- The character that an escape stands for after its backslash, and what follows. -/
def readEscape? : List Char → Option (Char × List Char)
  | [] => none
  | c :: rest =>
    match escaped? c, escapeDigits? c with
    | some c, _ => some (c, rest)
    | none, some digits =>
      if (rest.take digits).length = digits then
        (numbered? (rest.take digits)).map (·, rest.drop digits)
      else none
    | none, none => none

/-- The word of a double-quoted scalar that starts here, and what follows it.  It ends also at a
backslash before a line break.  The count bounds the number of characters. -/
def doubleWord? : Nat → List Char → Option (List Char × List Char)
  | 0, _ => none
  | _ + 1, [] => some ([], [])
  | count + 1, '\\' :: rest =>
    if (rest.head?.map isBreak).getD false then some ([], '\\' :: rest)
    else do
      let (c, rest) ← readEscape? rest
      let (word, after) ← doubleWord? count rest
      return (c :: word, after)
  | count + 1, c :: rest =>
    if isSpace c || c == '"' then some ([], c :: rest)
    else do
      let (word, after) ← doubleWord? count rest
      return (c :: word, after)

/-- The word of a quoted scalar that starts here, and what follows it. -/
def quotedWord? (quote : Char) (cs : List Char) : Option (List Char × List Char) :=
  if quote = '"' then doubleWord? (cs.length + 1) cs else some (singleWord cs)

/-- Reads on in a quoted scalar after some text.  A line in it may not be the border of a
document. -/
def readQuoted? (quote : Char) : Nat → List Char → Cursor → Option (List Char × Cursor)
  | 0, _, _ => none
  | count + 1, text, c =>
    if c.atBorder || c.rest.isEmpty then none
    else do
      let (word, rest) ← quotedWord? quote c.rest
      let c := c.passTo rest
      let (gap, c) :=
        if rest.head? = some '\\' then (Gap.breaks [] [], (c.pass 1).passBreak)
        else (Gap.blanks [], c)
      if c.rest.head? = some quote then return (text ++ word, c.pass 1)
      else
        let (gap, c) ← readGap? 0 (c.rest.length + 1) gap c
        readQuoted? quote count (text ++ word ++ gap.text) c

/-! ### Blocks -/

/-- What happens to the line breaks at the end of a block. -/
inductive Chomping where
  /-- None is kept. -/
  | strip
  /-- The first one is kept. -/
  | clip
  /-- All are kept. -/
  | keep
deriving DecidableEq, Repr

/-- What a chomping mark says. -/
def Chomping.ofMark? (c : Char) : Option Chomping :=
  if c = '+' then some .keep else if c = '-' then some .strip else none

/-- The number of columns that an indentation mark says; nothing for zero. -/
def indentMark? (c : Char) : Option Nat :=
  if c.isDigit ∧ c ≠ '0' then some (c.toNat - '0'.toNat) else none

/-- The marks after the one that starts a block, in either order: the chomping, the number of
columns if it is said, and what follows.  Nothing if that number is zero. -/
def readBlockMarks? (cs : List Char) : Option (Chomping × Option Nat × List Char) :=
  match cs with
  | [] => some (.clip, none, [])
  | c :: rest =>
    match Chomping.ofMark? c with
    | some chomping =>
      match rest with
      | d :: after =>
        if d.isDigit then (indentMark? d).map (chomping, some ·, after)
        else some (chomping, none, rest)
      | [] => some (chomping, none, [])
    | none =>
      if c.isDigit then do
        let columns ← indentMark? c
        match rest.head?.bind Chomping.ofMark? with
        | some chomping => return (chomping, some columns, rest.drop 1)
        | none => return (.clip, some columns, rest)
      else some (.clip, none, cs)

/-- Passes over the empty lines of a block and the indentation of the next line, which is `indent`
columns, or any number if `indent` is zero.  Yields the deepest column, the line breaks and the
place.  No tab may stand in the indentation. -/
def readIndentation? (indent : Nat) :
    Nat → Nat → List Char → Cursor → Option (Nat × List Char × Cursor)
  | 0, _, _, _ => none
  | count + 1, deepest, breaks, c =>
    let blanks := (c.rest.takeWhile (· == ' ')).length
    let c := c.pass (if indent = 0 then blanks else min blanks (indent - c.column))
    let deepest := max deepest c.column
    if (indent = 0 ∨ c.column < indent) ∧ c.rest.head? = some '\t' then none
    else if (c.rest.head?.map isBreak).getD false then
      let (text, c) := c.readBreak
      readIndentation? indent count deepest (breaks ++ text) c
    else some (deepest, breaks, c)

/-- A block as far as it has been read. -/
structure BlockState where
  /-- Its text up to the last line break. -/
  text : List Char
  /-- The last line break with text before it. -/
  lineBreak : List Char
  /-- The line breaks after that. -/
  more : List Char
  /-- Whether the last line started with a blank. -/
  blank : Bool

/-- What stands for the last line break before a line that starts with a blank or not. -/
def BlockState.joint (s : BlockState) (style : ScalarStyle) (blank : Bool) : List Char :=
  if style = .folded ∧ s.lineBreak = ['\n'] ∧ !s.blank ∧ !blank then
    if s.more.isEmpty then [' '] else []
  else s.lineBreak

/-- Reads the lines of a block, each of which starts at the column `indent`. -/
def readBlockLines? (style : ScalarStyle) (indent : Nat) :
    Nat → BlockState → Cursor → Option (BlockState × Cursor)
  | 0, _, _ => none
  | count + 1, s, c =>
    if c.column = indent ∧ !c.rest.isEmpty then do
      let blank := (c.rest.head?.map isBlank).getD false
      let line := c.rest.takeWhile fun ch => !isBreak ch
      let (lineBreak, c) := (c.pass line.length).readBreak
      let (_, more, c) ← readIndentation? indent (c.rest.length + 1) 0 [] c
      let text := s.text ++ s.joint style blank ++ s.more ++ line
      readBlockLines? style indent count ⟨text, lineBreak, more, blank⟩ c
    else some (s, c)

/-- Reads a block after its first mark, inside what is indented by `parent` columns, if any. -/
def readBlock? (style : ScalarStyle) (parent : Option Nat) (c : Cursor) :
    Option (List Char × Cursor) := do
  let (chomping, columns, rest) ← readBlockMarks? c.rest
  let c := ((c.passTo rest).passWhile isBlank).passComment
  if !atBreak c.rest then none
  let c := c.passBreak
  let least := (parent.map (· + 1)).getD 1
  let said := (columns.map ((parent.getD 0) + ·)).getD 0
  let (deepest, more, c) ← readIndentation? said (c.rest.length + 1) 0 [] c
  let indent := if said = 0 then max deepest least else said
  let (s, c) ← readBlockLines? style indent (c.rest.length + 1) ⟨[], [], more, false⟩ c
  match chomping with
  | .strip => return (s.text, c)
  | .clip => return (s.text ++ s.lineBreak, c)
  | .keep => return (s.text ++ s.lineBreak ++ s.more, c)

end GraphQuery.Yaml
