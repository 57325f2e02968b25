import GraphQuery.Yaml.Scalar

/-!
# Yaml — tokens

A stream is cut into tokens.  Lines that are indented deeper open a block, and the first line that
is not as deep closes it, so blocks have tokens for their start and their end that no character
stands for.  What turns out to be a key by the colon after it gets its token before what has been
read already; such a key may be neither long nor go over a line break.
-/

namespace GraphQuery.Yaml

/-- The tag of a node as it is written: the handle that stands for a prefix, and the rest. -/
structure Tag where
  /-- The handle, empty for a tag that is written out. -/
  handle : List Char
  /-- What follows the handle. -/
  rest : List Char
deriving DecidableEq, Repr

/-- A token of a stream. -/
inductive Token where
  /-- A directive that names the version. -/
  | version (major minor : Nat)
  /-- A directive that gives a handle its prefix. -/
  | handle (handle start : List Char)
  /-- The border before a document. -/
  | documentStart
  /-- The border after a document. -/
  | documentEnd
  /-- A block of items starts. -/
  | blockSequence
  /-- A block of entries starts. -/
  | blockMapping
  /-- A block ends. -/
  | blockEnd
  /-- An opening bracket. -/
  | openBracket
  /-- A closing bracket. -/
  | closeBracket
  /-- An opening brace. -/
  | openBrace
  /-- A closing brace. -/
  | closeBrace
  /-- A comma inside brackets or braces. -/
  | comma
  /-- The mark of an item. -/
  | item
  /-- What follows is a key. -/
  | key
  /-- What follows is the value of a key. -/
  | value
  /-- A node that stands elsewhere. -/
  | alias (name : List Char)
  /-- The name for the node that follows. -/
  | anchor (name : List Char)
  /-- The tag of the node that follows. -/
  | tag (tag : Tag)
  /-- A scalar. -/
  | scalar (style : ScalarStyle) (text : List Char)
  /-- The end of the stream. -/
  | streamEnd
deriving DecidableEq, Repr

/-! ### Names and tags -/

/-- Whether a character may stand in a name. -/
def isNameChar (c : Char) : Bool :=
  c.isAlphanum || c == '_' || c == '-'

/-- The name of an anchor or an alias, and what follows it. -/
def readName? (cs : List Char) : Option (List Char × List Char) :=
  let name := cs.takeWhile isNameChar
  let rest := cs.dropWhile isNameChar
  let ends := match rest with
    | [] => true
    | c :: _ => isSpace c || c ∈ ['?', ':', ',', ']', '}', '%', '@', '\x60']
  if name.isEmpty || !ends then none else some (name, rest)

/-- Whether a character may stand in a tag; inside angle brackets some more may. -/
def isTagChar (inAngles : Bool) (c : Char) : Bool :=
  isNameChar c || c ∈ [';', '/', '?', ':', '@', '&', '=', '+', '$', '.', '%', '!', '~', '*', '\'',
    '(', ')'] || (inAngles && c ∈ [',', '[', ']'])

/-- The number of bytes of a character whose first byte is given. -/
def byteCount? (byte : Nat) : Option Nat :=
  if byte < 0x80 then some 1
  else if 0xC0 ≤ byte ∧ byte < 0xE0 then some 2
  else if 0xE0 ≤ byte ∧ byte < 0xF0 then some 3
  else if 0xF0 ≤ byte ∧ byte < 0xF8 then some 4
  else none

/-- Follows an escaped byte, of which `open` bytes are still to come in the same character. -/
def nextByte? (pending byte : Nat) : Option Nat :=
  if pending = 0 then (byteCount? byte).map (· - 1)
  else if 0x80 ≤ byte ∧ byte < 0xC0 then some (pending - 1)
  else none

/-- The characters of a tag, and what follows them.  An escape stands for a byte; the bytes of one
character come in a row, `pending` of them being still to come.  The count bounds the number of
characters. -/
def readTagChars? (inAngles : Bool) : Nat → Nat → List Char → Option (List Char × List Char)
  | 0, _, _ => none
  | count + 1, pending, '%' :: cs => do
    let digits := cs.take 2
    if digits.length < 2 then none
    let byte ← hexNumber? digits
    let pending ← nextByte? pending byte
    let (text, rest) ← readTagChars? inAngles count pending (cs.drop 2)
    return (Char.ofNat byte :: text, rest)
  | count + 1, pending, cs =>
    if pending ≠ 0 then none
    else match cs with
      | [] => some ([], [])
      | c :: rest =>
        if isTagChar inAngles c then
          (readTagChars? inAngles count 0 rest).map fun (text, rest) => (c :: text, rest)
        else some ([], c :: rest)

/-- The characters of a tag behind some that are there already, and what follows them.  There has
to be one. -/
def readTagText? (inAngles : Bool) (before cs : List Char) : Option (List Char × List Char) := do
  let (text, rest) ← readTagChars? inAngles (cs.length + 1) 0 cs
  if before.isEmpty && rest.length == cs.length then none
  else return (before.drop 1 ++ text, rest)

/-- A handle from its exclamation mark on, and what follows it.  It need not end in another one. -/
def readHandle? : List Char → Option (List Char × List Char)
  | '!' :: cs =>
    let name := cs.takeWhile isNameChar
    match cs.dropWhile isNameChar with
    | '!' :: rest => some ('!' :: (name ++ ['!']), rest)
    | rest => some ('!' :: name, rest)
  | _ => none

/-- Whether a handle ends in a second exclamation mark. -/
def isClosedHandle (handle : List Char) : Bool :=
  1 < handle.length && handle.getLast? == some '!'

/-- A tag from its exclamation mark on, and what follows it. -/
def readTag? (inFlow : Bool) (cs : List Char) : Option (Tag × List Char) := do
  let (tag, rest) ← match cs with
    | '!' :: '<' :: cs => do
      let (text, rest) ← readTagText? true [] cs
      if rest.head? = some '>' then some (Tag.mk [] text, rest.drop 1) else none
    | cs => do
      let (handle, rest) ← readHandle? cs
      if isClosedHandle handle then
        let (text, rest) ← readTagText? false [] rest
        some (Tag.mk handle text, rest)
      else
        let (text, rest) ← readTagText? false handle rest
        some (if text.isEmpty then Tag.mk [] ['!'] else Tag.mk ['!'] text, rest)
  if atSpace rest || (inFlow && rest.head? == some ',') then return (tag, rest) else none

/-! ### Directives -/

/-- A number of a version, of at most nine digits, and what follows it. -/
def readVersionNumber? (cs : List Char) : Option (Nat × List Char) :=
  let ds := cs.takeWhile Char.isDigit
  if ds.isEmpty || 9 < ds.length then none
  else some (Nat.ofDigitChars 10 ds 0, cs.dropWhile Char.isDigit)

/-- What a directive says after its name, and what follows it. -/
def readDirectiveValue? (name : List Char) (cs : List Char) : Option (Token × List Char) :=
  let cs := cs.dropWhile isBlank
  if name = ['Y', 'A', 'M', 'L'] then do
    let (major, rest) ← readVersionNumber? cs
    if rest.head? ≠ some '.' then none
    let (minor, rest) ← readVersionNumber? (rest.drop 1)
    return (.version major minor, rest)
  else if name = ['T', 'A', 'G'] then do
    let (handle, rest) ← readHandle? cs
    if !(isClosedHandle handle || handle == ['!']) then none
    if !((rest.head?.map isBlank).getD false) then none
    let (text, rest) ← readTagText? true [] (rest.dropWhile isBlank)
    if atSpace rest then return (.handle handle text, rest) else none
  else none

/-- A directive after its percent sign, with the end of its line. -/
def readDirective? (c : Cursor) : Option (Token × Cursor) := do
  let name := c.rest.takeWhile isNameChar
  let rest := c.rest.dropWhile isNameChar
  if !atSpace rest then none
  let (token, rest) ← readDirectiveValue? name rest
  let c := ((c.passTo rest).passWhile isBlank).passComment
  if atBreak c.rest then return (token, c.passBreak) else none

/-! ### The state of reading -/

/-- A place that may turn out to start a key. -/
structure KeyPlace where
  /-- The line has to hold a key. -/
  required : Bool
  /-- The number of tokens before it. -/
  tokens : Nat
  /-- Where it is. -/
  cursor : Cursor
deriving DecidableEq, Repr

/-- Where reading a stream stands. -/
structure Scan where
  /-- The place in the text. -/
  cursor : Cursor
  /-- The tokens read so far. -/
  tokens : List Token
  /-- The column of the innermost block, if there is one. -/
  indent : Option Nat
  /-- The columns of the blocks around it, the outermost one last. -/
  outer : List (Option Nat)
  /-- Whether a key may start here. -/
  keyAllowed : Bool
  /-- The place that may turn out to start a key, inside the innermost brackets or braces. -/
  key : Option KeyPlace
  /-- Those places outside of them, the outermost one last. -/
  outerKeys : List (Option KeyPlace)
deriving DecidableEq, Repr

namespace Scan

/-- The state before a stream. -/
def start (cs : List Char) : Scan :=
  ⟨.start cs, [], none, [], true, none, []⟩

/-- Whether the place is inside brackets or braces. -/
def inFlow (s : Scan) : Bool :=
  !s.outerKeys.isEmpty

/-- Adds a token. -/
def push (s : Scan) (token : Token) : Scan :=
  { s with tokens := s.tokens ++ [token] }

/-- The state at another place. -/
def moveTo (s : Scan) (c : Cursor) : Scan :=
  { s with cursor := c }

/-- Passes over a mark of so many characters that makes a token. -/
def pass (s : Scan) (count : Nat) (token : Token) : Scan :=
  (s.push token).moveTo (s.cursor.pass count)

/-- Whether a place that may start a key is too far back: on a line before, or more than 1024 bytes
away. -/
def isStale (s : Scan) (place : KeyPlace) : Bool :=
  place.cursor.line < s.cursor.line || place.cursor.offset + 1024 < s.cursor.offset

/-- A place that may start a key, unless it is too far back; nothing if a key has to be there. -/
def freshKey? (s : Scan) : Option KeyPlace → Option (Option KeyPlace)
  | some place =>
    if s.isStale place then (if place.required then none else some none) else some (some place)
  | none => some none

/-- Gives up the places that are too far back. -/
def dropStale? (s : Scan) : Option Scan := do
  let key ← s.freshKey? s.key
  let outerKeys ← s.outerKeys.mapM s.freshKey?
  return { s with key, outerKeys }

/-- Gives up the innermost place; nothing if a key has to be there. -/
def dropKey? (s : Scan) : Option Scan :=
  match s.key with
  | some place => if place.required then none else some { s with key := none }
  | none => some s

/-- Takes the place here down, if a key may start here. -/
def saveKey? (s : Scan) : Option Scan :=
  if s.keyAllowed then
    s.dropKey?.map fun s => { s with
      key := some ⟨!s.inFlow && s.indent == some s.cursor.column, s.tokens.length, s.cursor⟩ }
  else some s

/-- Takes the place here down and lets no further key start behind it. -/
def startNode? (s : Scan) : Option Scan :=
  s.saveKey?.map fun s => { s with keyAllowed := false }

/-- Whether a column is deeper than the innermost block. -/
def isDeeper (s : Scan) (column : Nat) : Bool :=
  match s.indent with
  | some indent => indent < column
  | none => true

/-- Opens a block at a column if the column is deeper, its token coming behind so many others. -/
def openBlock (s : Scan) (column : Nat) (before : Nat) (token : Token) : Scan :=
  if !s.inFlow && s.isDeeper column then
    { s with
      indent := some column
      outer := s.indent :: s.outer
      tokens := s.tokens.insertIdx before token }
  else s

/-- Closes the blocks that a condition on their columns asks for. -/
def closeWhile (p : Nat → Bool) (indent : Option Nat) (outer : List (Option Nat)) (s : Scan) :
    Scan :=
  match indent, outer with
  | some column, next :: rest =>
    if p column then closeWhile p next rest (s.push .blockEnd)
    else { s with indent, outer }
  | _, _ => { s with indent, outer }

/-- Closes the blocks that are deeper than the column here. -/
def closeDeeper (s : Scan) : Scan :=
  if s.inFlow then s else closeWhile (s.cursor.column < ·) s.indent s.outer s

/-- Closes all blocks. -/
def closeAll (s : Scan) : Scan :=
  if s.inFlow then s else closeWhile (fun _ => true) s.indent s.outer s

/-! ### Between tokens -/

/-- Passes over the blanks before a token.  A tab is no indentation, so none may stand where a key
may start. -/
def passBlanks (s : Scan) : Scan :=
  s.moveTo (s.cursor.passWhile fun c => c == ' ' || (c == '\t' && (s.inFlow || !s.keyAllowed)))

/-- Passes over a byte order mark at the start of a line.  It takes up a column. -/
def passByteOrderMark (s : Scan) : Scan :=
  if s.cursor.column = 0 ∧ s.cursor.rest.head? = some '\uFEFF' then s.moveTo (s.cursor.pass 1)
  else s

/-- Passes over blanks, comments and line breaks.  A new line may start with a key.  The count
bounds the number of lines. -/
def passSpace (s : Scan) : Nat → Scan
  | 0 => s
  | count + 1 =>
    let s := s.passByteOrderMark.passBlanks
    let s := s.moveTo s.cursor.passComment
    if (s.cursor.rest.head?.map isBreak).getD false then
      passSpace { s with cursor := s.cursor.passBreak, keyAllowed := s.keyAllowed || !s.inFlow }
        count
    else s

/-! ### Tokens -/

/-- The end of the stream. -/
def readEnd? (s : Scan) : Option Scan :=
  s.closeAll.dropKey?.map fun s => { s with keyAllowed := false }.push .streamEnd

/-- A directive. -/
def directive? (s : Scan) : Option Scan := do
  let s ← s.closeAll.dropKey?
  let (token, c) ← readDirective? (s.cursor.pass 1)
  return ({ s with keyAllowed := false }.push token).moveTo c

/-- The border of a document. -/
def border? (s : Scan) (token : Token) : Option Scan := do
  let s ← s.closeAll.dropKey?
  return { s with keyAllowed := false }.pass 3 token

/-- An opening bracket or brace. -/
def open? (s : Scan) (token : Token) : Option Scan := do
  let s ← s.saveKey?
  return { s with keyAllowed := true, key := none, outerKeys := s.key :: s.outerKeys }.pass 1 token

/-- A closing bracket or brace. -/
def close? (s : Scan) (token : Token) : Option Scan := do
  let s ← s.dropKey?
  let s := match s.outerKeys with
    | key :: outerKeys => { s with key, outerKeys }
    | [] => s
  return { s with keyAllowed := false }.pass 1 token

/-- A comma inside brackets or braces. -/
def comma? (s : Scan) : Option Scan := do
  let s ← s.dropKey?
  return { s with keyAllowed := true }.pass 1 .comma

/-- The mark of an item. -/
def item? (s : Scan) : Option Scan := do
  if !s.inFlow && !s.keyAllowed then none
  let s ← (s.openBlock s.cursor.column s.tokens.length .blockSequence).dropKey?
  return { s with keyAllowed := true }.pass 1 .item

/-- The mark of a key. -/
def key? (s : Scan) : Option Scan := do
  if !s.inFlow && !s.keyAllowed then none
  let s ← (s.openBlock s.cursor.column s.tokens.length .blockMapping).dropKey?
  return { s with keyAllowed := !s.inFlow }.pass 1 .key

/-- The colon before a value.  What stands before it is the key, if it may be one. -/
def value? (s : Scan) : Option Scan :=
  match s.key with
  | some place =>
    let s := { s with tokens := s.tokens.insertIdx place.tokens .key }
    let s := s.openBlock place.cursor.column place.tokens .blockMapping
    some ({ s with key := none, keyAllowed := false }.pass 1 .value)
  | none =>
    if !s.inFlow && !s.keyAllowed then none
    else
      let s := s.openBlock s.cursor.column s.tokens.length .blockMapping
      some ({ s with keyAllowed := !s.inFlow }.pass 1 .value)

/-- The name of a node after its mark. -/
def name? (s : Scan) (make : List Char → Token) : Option Scan := do
  let s ← s.startNode?
  let (name, rest) ← readName? (s.cursor.rest.drop 1)
  return (s.push (make name)).moveTo (s.cursor.passTo rest)

/-- The tag of a node. -/
def tag? (s : Scan) : Option Scan := do
  let s ← s.startNode?
  let (tag, rest) ← readTag? s.inFlow s.cursor.rest
  return (s.push (.tag tag)).moveTo (s.cursor.passTo rest)

/-- A block scalar. -/
def block? (s : Scan) (style : ScalarStyle) : Option Scan := do
  let s ← s.dropKey?
  let (text, c) ← readBlock? style s.indent (s.cursor.pass 1)
  return ({ s with keyAllowed := true }.push (.scalar style text)).moveTo c

/-- A quoted scalar. -/
def quoted? (s : Scan) (quote : Char) : Option Scan := do
  let s ← s.startNode?
  let (text, c) ← readQuoted? quote (s.cursor.rest.length + 1) [] (s.cursor.pass 1)
  return (s.push (.scalar .quoted text)).moveTo c

/-- A plain scalar.  A key may start behind it if it is followed by the end of a line. -/
def plain? (s : Scan) : Option Scan := do
  let s ← s.startNode?
  let indent := (s.indent.map (· + 1)).getD 0
  let (text, broken, c) ←
    readPlain? s.inFlow indent (s.cursor.rest.length + 1) [] (.blanks []) s.cursor
  return ({ s with keyAllowed := broken }.push (.scalar .plain text)).moveTo c

/-- Whether a character may not be the first one of a plain scalar by itself. -/
def isIndicator (c : Char) : Bool :=
  c ∈ ['-', '?', ':', ',', '[', ']', '{', '}', '#', '&', '*', '!', '|', '>', '\'', '"', '%', '@',
    '\x60']

/-- Whether a plain scalar starts here. -/
def startsPlain (s : Scan) (c : Char) (rest : List Char) : Bool :=
  !(isSpace c || isIndicator c)
    || (c == '-' && !((rest.head?.map isBlank).getD false))
    || (!s.inFlow && (c == '?' || c == ':') && !atSpace rest)

/-- The token that starts with a character, what follows the character being given too. -/
def token? (s : Scan) (c : Char) (rest : List Char) : Option Scan :=
  if s.cursor.column = 0 ∧ c = '%' then s.directive?
  else if s.cursor.isBorder '-' then s.border? .documentStart
  else if s.cursor.isBorder '.' then s.border? .documentEnd
  else if c = '[' then s.open? .openBracket
  else if c = '{' then s.open? .openBrace
  else if c = ']' then s.close? .closeBracket
  else if c = '}' then s.close? .closeBrace
  else if c = ',' then s.comma?
  else if c = '-' ∧ atSpace rest then s.item?
  else if c = '?' ∧ (s.inFlow ∨ atSpace rest) then s.key?
  else if c = ':' ∧ (s.inFlow ∨ atSpace rest) then s.value?
  else if c = '*' then s.name? .alias
  else if c = '&' then s.name? .anchor
  else if c = '!' then s.tag?
  else if c = '|' ∧ !s.inFlow then s.block? .literal
  else if c = '>' ∧ !s.inFlow then s.block? .folded
  else if c = '\'' ∨ c = '"' then s.quoted? c
  else if s.startsPlain c rest then s.plain?
  else none

/-- Reads the tokens from here to the end of the stream.  The count bounds their number. -/
def readAll? : Nat → Scan → Option (List Token)
  | 0, _ => none
  | count + 1, s => do
    let s ← (s.passSpace (s.cursor.rest.length + 1)).dropStale?
    let s := s.closeDeeper
    match s.cursor.rest with
    | [] => s.readEnd?.map (·.tokens)
    | c :: rest => readAll? count (← s.token? c rest)

end Scan

/-- Whether a character may stand in a stream. -/
def isAllowed (c : Char) : Bool :=
  c == '\t' || c == '\n' || c == '\r' || (0x20 ≤ c.toNat && c.toNat ≤ 0x7E) || c.toNat == 0x85
    || (0xA0 ≤ c.toNat && c.toNat ≤ 0xFFFD) || 0x10000 ≤ c.toNat

/-- The tokens of a stream. -/
def readTokens? (cs : List Char) : Option (List Token) :=
  if cs.all isAllowed then Scan.readAll? (cs.length + 1) (Scan.start cs)
  else none

end GraphQuery.Yaml
