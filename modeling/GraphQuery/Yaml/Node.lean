import GraphQuery.Yaml.Token

/-!
# Yaml — nodes

The tokens of a stream make up one document, which holds one node: a scalar, a sequence, a mapping
or an alias.  An alias stands for a node that has an anchor.  Anchors are numbered by the names in
use before them, and what an alias stands for is looked up by that number once the document has
been read.
-/

namespace GraphQuery.Yaml

/-- A scalar. -/
structure Scalar where
  /-- How it is written. -/
  style : ScalarStyle
  /-- Its tag, if it has one. -/
  tag : Option String
  /-- What it says. -/
  text : String
deriving DecidableEq, Repr

/-- A part of a document. -/
inductive Node where
  /-- A scalar. -/
  | scalar (scalar : Scalar)
  /-- Items in a row. -/
  | sequence (items : List Node)
  /-- Values, each behind its key. -/
  | mapping (entries : List (Node × Node))
  /-- The node at the anchor of this number. -/
  | alias (number : Nat)
deriving Repr

/-- The node that stands where nothing is written. -/
def Node.empty : Node :=
  .scalar ⟨.plain, none, ""⟩

/-! ### Anchors -/

/-- The anchors of a document. -/
structure Anchors where
  /-- The names in use, with their numbers. -/
  numbers : List (List Char × Nat)
  /-- The scalar at each number, or nothing for a collection.  The last one comes first. -/
  scalars : List (Nat × Option Scalar)
deriving DecidableEq, Repr

/-- No anchors. -/
def Anchors.none : Anchors :=
  ⟨[], []⟩

/-- Gives a name to a scalar, or to a collection.  The number is the one of names in use. -/
def Anchors.insert (a : Anchors) (name : List Char) (scalar : Option Scalar) : Anchors :=
  let number := a.numbers.length
  ⟨(name, number) :: a.numbers.filter (·.1 ≠ name), (number, scalar) :: a.scalars⟩

/-- The number that a name has now. -/
def Anchors.number? (a : Anchors) (name : List Char) : Option Nat :=
  a.numbers.lookup name

/-- The scalar at a number. -/
def Anchors.scalar? (a : Anchors) (number : Nat) : Option Scalar :=
  (a.scalars.lookup number).join

/-! ### Reading tokens -/

/-- What is left to be read of a document, and what has been met in it. -/
structure Reading where
  /-- The tokens left. -/
  tokens : List Token
  /-- The handles, with what they stand for. -/
  handles : List (List Char × List Char)
  /-- The anchors so far. -/
  anchors : Anchors
deriving DecidableEq, Repr

/-- A reader of a part of a document. -/
abbrev Step (α : Type) : Type :=
  Reading → Option (α × Reading)

namespace Reading

/-- The state with these tokens left. -/
def goOn (s : Reading) (tokens : List Token) : Reading :=
  { s with tokens }

/-- What a tag stands for.  Its handle has to be known. -/
def tag? (s : Reading) (tag : Tag) : Option String :=
  if tag.handle.isEmpty then some (String.ofList tag.rest)
  else (s.handles.lookup tag.handle).map fun start => String.ofList (start ++ tag.rest)

/-- Gives a node its name, if it has one: a scalar, or a collection. -/
def name (s : Reading) (anchor : Option (List Char)) (scalar : Option Scalar) : Reading :=
  match anchor with
  | some name => { s with anchors := s.anchors.insert name scalar }
  | none => s

end Reading

/-- What stands before a node. -/
structure Properties where
  /-- Its anchor. -/
  anchor : Option (List Char)
  /-- Its tag. -/
  tag : Option String
deriving DecidableEq, Repr

/-- The anchor and the tag before a node, in either order. -/
def readProperties? : Step Properties := fun s =>
  match s.tokens with
  | .anchor anchor :: .tag tag :: rest =>
    (s.tag? tag).map fun tag => (⟨some anchor, some tag⟩, s.goOn rest)
  | .tag tag :: .anchor anchor :: rest =>
    (s.tag? tag).map fun tag => (⟨some anchor, some tag⟩, s.goOn rest)
  | .anchor anchor :: rest => some (⟨some anchor, none⟩, s.goOn rest)
  | .tag tag :: rest => (s.tag? tag).map fun tag => (⟨none, some tag⟩, s.goOn rest)
  | _ => some (⟨none, none⟩, s)

/-- A node, or nothing before a token that cannot start one here. -/
def readUnless? (stops : List Token) (node : Step Node) : Step Node := fun s =>
  if s.tokens.head?.any (· ∈ stops) then some (.empty, s) else node s

/-- The value of a key, which may be missing altogether. -/
def readValue? (stops : List Token) (node : Step Node) : Step Node := fun s =>
  match s.tokens with
  | .value :: rest => readUnless? stops node (s.goOn rest)
  | _ => some (.empty, s)

/-! ### Blocks -/

/-- The tokens that cannot start a node in an entry of a block. -/
def entryStops : List Token :=
  [.key, .value, .blockEnd]

/-- The items of a block.  Where they are not indented, the next token that is none ends them.  The
count bounds their number. -/
def readItems? (indented : Bool) (node : Step Node) : Nat → Step (List Node)
  | 0, _ => none
  | count + 1, s =>
    match s.tokens, indented with
    | .item :: rest, _ => do
      let (item, s) ← readUnless? (.item :: entryStops) node (s.goOn rest)
      let (items, s) ← readItems? indented node count s
      return (item :: items, s)
    | .blockEnd :: rest, true => some ([], s.goOn rest)
    | _, true => none
    | _, false => some ([], s)

/-- The entries of a block.  The count bounds their number. -/
def readEntries? (node : Step Node) : Nat → Step (List (Node × Node))
  | 0, _ => none
  | count + 1, s =>
    match s.tokens with
    | .key :: rest => do
      let (key, s) ← readUnless? entryStops node (s.goOn rest)
      let (value, s) ← readValue? entryStops node s
      let (entries, s) ← readEntries? node count s
      return ((key, value) :: entries, s)
    | .blockEnd :: rest => some ([], s.goOn rest)
    | _ => none

/-! ### Brackets and braces -/

/-- The parts of a collection up to its closing mark, with commas between them and perhaps one
behind the last.  The count bounds their number. -/
def readParts? {α : Type} (close : Token) (part : Step α) : Nat → Step (List α)
  | 0, _ => none
  | count + 1, s =>
    if s.tokens.head? = some close then some ([], s.goOn (s.tokens.drop 1))
    else do
      let (first, s) ← part s
      let (parts, s) ←
        match s.tokens with
        | .comma :: rest => readParts? close part count (s.goOn rest)
        | _ => if s.tokens.head? = some close then readParts? close part count s else none
      return (first :: parts, s)

/-- An item in brackets.  One with the mark of a key is a mapping of one entry; where no key can
start behind the mark, the next token is passed over. -/
def readBracketItem? (node : Step Node) : Step Node := fun s =>
  match s.tokens with
  | .key :: rest => do
    let (key, s) ←
      if rest.head?.any (· ∈ [Token.value, .comma, .closeBracket]) then
        some (Node.empty, s.goOn (rest.drop 1))
      else node (s.goOn rest)
    let (value, s) ← readValue? [.comma, .closeBracket] node s
    return (.mapping [(key, value)], s)
  | _ => node s

/-- An entry in braces.  One without the mark of a key has no value. -/
def readBracePair? (node : Step Node) : Step (Node × Node) := fun s =>
  match s.tokens with
  | .key :: rest => do
    let (key, s) ← readUnless? [.value, .comma, .closeBrace] node (s.goOn rest)
    let (value, s) ← readValue? [.comma, .closeBrace] node s
    return ((key, value), s)
  | _ => (node s).map fun (key, s) => ((key, .empty), s)

/-! ### Nodes -/

/-- Where a node stands. -/
inductive Context where
  /-- Inside brackets or braces. -/
  | flow
  /-- In a document by itself or as an item of a block. -/
  | block
  /-- In an entry of a block, where items need not be indented. -/
  | entry
deriving DecidableEq, Repr

/-- The content of a node, `nested` reading the nodes in it. -/
def readContent? (nested : Context → Step Node) (context : Context) (p : Properties) : Step Node :=
  fun s =>
  let count := s.tokens.length + 1
  let collection := s.name p.anchor none
  match s.tokens, context with
  | .item :: _, .entry =>
    (readItems? false (nested .block) count collection).map fun (items, s) => (.sequence items, s)
  | .scalar style text :: rest, _ =>
    let scalar : Scalar := ⟨style, p.tag, String.ofList text⟩
    some (.scalar scalar, (s.name p.anchor (some scalar)).goOn rest)
  | .openBracket :: rest, _ =>
    (readParts? .closeBracket (readBracketItem? (nested .flow)) count
      (collection.goOn rest)).map fun (items, s) => (.sequence items, s)
  | .openBrace :: rest, _ =>
    (readParts? .closeBrace (readBracePair? (nested .flow)) count
      (collection.goOn rest)).map fun (entries, s) => (.mapping entries, s)
  | .blockSequence :: rest, .block | .blockSequence :: rest, .entry =>
    (readItems? true (nested .block) count (collection.goOn rest)).map fun (items, s) =>
      (.sequence items, s)
  | .blockMapping :: rest, .block | .blockMapping :: rest, .entry =>
    (readEntries? (nested .entry) count (collection.goOn rest)).map fun (entries, s) =>
      (.mapping entries, s)
  | _, _ =>
    if p.anchor.isNone && p.tag.isNone then none
    else
      let scalar : Scalar := ⟨.plain, p.tag, ""⟩
      some (.scalar scalar, s.name p.anchor (some scalar))

/-- A node.  The count bounds how deep nodes are nested. -/
def readNode? : Nat → Context → Step Node
  | 0, _, _ => none
  | count + 1, context, s =>
    match s.tokens with
    | .alias name :: rest => (s.anchors.number? name).map fun number => (.alias number, s.goOn rest)
    | _ => do
      let (p, s) ← readProperties? s
      readContent? (readNode? count) context p s

/-! ### Documents -/

/-- A document. -/
structure Document where
  /-- The node that it holds. -/
  root : Node
  /-- Its anchors. -/
  anchors : Anchors
deriving Repr

/-- The scalar that a node of a document is or stands for. -/
def Document.scalar? (d : Document) : Node → Option Scalar
  | .scalar scalar => some scalar
  | .alias number => d.anchors.scalar? number
  | _ => none

/-- Reads the directives before a document: the handles that they define, and what follows.  The
version is given at most once and is 1.1 or 1.2, and no handle is defined twice. -/
def readDirectives? (versioned : Bool) (handles : List (List Char × List Char)) :
    List Token → Option (List (List Char × List Char) × List Token)
  | .version major minor :: rest =>
    if versioned || major != 1 || !(minor == 1 || minor == 2) then none
    else readDirectives? true handles rest
  | .handle handle start :: rest =>
    if (handles.lookup handle).isSome then none
    else readDirectives? versioned ((handle, start) :: handles) rest
  | rest => some (handles, rest)

/-- The handles that need no directive. -/
def defaultHandles : List (List Char × List Char) :=
  [(['!'], ['!']), (['!', '!'], "tag:yaml.org,2002:".toList)]

/-- A document, which needs no border before it if it has no directives. -/
def readDocument? (tokens : List Token) : Option (Document × List Token) := do
  let (handles, rest) ← readDirectives? false [] tokens
  let reading (tokens : List Token) : Reading := ⟨tokens, handles ++ defaultHandles, .none⟩
  let node := readNode? (tokens.length + 1) .block
  let (root, s) ←
    match rest with
    | .documentStart :: rest => readUnless? [.documentEnd, .streamEnd] node (reading rest)
    | _ => if rest = tokens then node (reading rest) else none
  return (⟨root, s.anchors⟩, s.tokens)

/-- The one document of a stream, or nothing in an empty stream. -/
def readStream? (cs : List Char) : Option (Option Document) := do
  let tokens ← readTokens? cs
  if tokens = [.streamEnd] then return none
  let (document, rest) ← readDocument? tokens
  if rest.dropWhile (· = .documentEnd) = [.streamEnd] then return some document else none

end GraphQuery.Yaml
