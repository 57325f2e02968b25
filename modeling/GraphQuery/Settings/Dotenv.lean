import GraphQuery.Settings.Environment
import GraphQuery.Text.Alphanumeric
import GraphQuery.Text.Blank

/-!
# Settings — environment files

An environment file assigns values to variables, one on a line: `NAME=value`, possibly after the
word `export`.  Values may be quoted, hold escapes and refer to other variables; a quoted value may
go on over several lines.  Loading a file sets the variables that are not set yet, line by line,
and ends at the first line that is broken.  No variable can be set to a text with a null character
in it.
-/

namespace GraphQuery.Dotenv

/-! ### Lines -/

/-- Where a line stands with respect to quotes. -/
inductive LineState where
  /-- Outside quotes. -/
  | complete
  /-- Outside quotes, after a blank. -/
  | blank
  /-- Outside quotes, after a backslash. -/
  | escape
  /-- Inside quotes of the given kind. -/
  | quoted (quote : Char)
  /-- Inside quotes, after a backslash. -/
  | quotedEscape (quote : Char)
deriving DecidableEq, Repr

/-- The state after a character outside quotes that starts no comment. -/
def LineState.outside (c : Char) : LineState :=
  if c = '\\' then .escape
  else if c = '"' ∨ c = '\'' then .quoted c
  else .complete

/-- The state after a character. -/
def LineState.next (c : Char) : LineState → LineState
  | .blank => .outside c
  | .escape => .complete
  | .complete => if Text.isBlank c ∧ c ≠ '\n' ∧ c ≠ '\r' then .blank else .outside c
  | .quoted q => if c = '\\' then .quotedEscape q else if c = q then .complete else .quoted q
  | .quotedEscape q => .quoted q

/-- A line up to a comment in it: the state at its end, and the comment's place if there is one. -/
def scanLine (state : LineState) : List Char → List Char × Option LineState
  | [] => ([], some state)
  | c :: cs =>
    if state = .blank ∧ c = '#' then ([], none)
    else
      let (kept, ending) := scanLine (state.next c) cs
      (c :: kept, ending)

/-- A line without its line break. -/
def chomp (line : List Char) : List Char :=
  match line.reverse with
  | '\n' :: '\r' :: rest => rest.reverse
  | '\n' :: rest => rest.reverse
  | _ => line

/-- The pieces of a text that end with a line feed each, the last one possibly without. -/
def pieces (cs : List Char) : List (List Char) :=
  match cs with
  | [] => []
  | c :: cs =>
    match pieces cs with
    | [] => [[c]]
    | piece :: rest => if c = '\n' then [c] :: piece :: rest else (c :: piece) :: rest

/-- The logical lines of a text; a missing one stands for a text that ends inside quotes.
`begun` is what has been read of the line that is not complete yet. -/
def logicalLines (begun : List Char) (state : LineState) :
    List (List Char) → List (Option (List Char))
  | [] => if state = .complete then [] else [none]
  | piece :: rest =>
    let line := begun ++ piece
    if (line.dropWhile Text.isBlank).head? = some '#' then
      some [] :: logicalLines [] .complete rest
    else match scanLine state piece with
      | (kept, none) => some (begun ++ kept) :: logicalLines [] .complete rest
      | (_, some .complete) => some (chomp line) :: logicalLines [] .complete rest
      | (_, some state) => logicalLines line state rest

/-! ### Values -/

/-- Where a reference to a variable stands. -/
inductive Reference where
  /-- Not in a reference. -/
  | none
  /-- After the dollar sign. -/
  | plain (name : List Char)
  /-- Inside braces. -/
  | braced (name : List Char)
deriving DecidableEq, Repr

/-- Where reading a value stands. -/
structure ValueState where
  /-- Inside single quotes. -/
  single : Bool
  /-- Inside double quotes. -/
  double : Bool
  /-- After a backslash. -/
  escaped : Bool
  /-- After the value, where only a comment may come. -/
  ended : Bool
  /-- In a reference to a variable. -/
  reference : Reference
  /-- The value so far. -/
  output : List Char

/-- The state before a value. -/
def ValueState.start : ValueState :=
  ⟨false, false, false, false, .none, []⟩

/-- The state after a character that is neither escaped nor inside single quotes nor part of a
reference. -/
def ValueState.plain (s : ValueState) (c : Char) : ValueState :=
  if c = '$' then { s with reference := .plain [] }
  else if s.double then
    if c = '"' then { s with double := false }
    else if c = '\\' then { s with escaped := true }
    else { s with output := s.output ++ [c] }
  else if c = '\'' then { s with single := true }
  else if c = '"' then { s with double := true }
  else if c = '\\' then { s with escaped := true }
  else if c = ' ' ∨ c = '\t' then { s with ended := true }
  else { s with output := s.output ++ [c] }

/-- What an escaped character stands for. -/
def unescape? (c : Char) : Option Char :=
  if c ∈ ['\\', '\'', '"', '$', ' '] then some c
  else if c = 'n' then some '\n'
  else none

/-- The state after a character of a reference.  Letters and digits belong to the name. -/
def ValueState.inReference (lookup : String → String) (s : ValueState) (c : Char) : ValueState :=
  let resolve (name : List Char) := s.output ++ (lookup (String.ofList name)).toList
  match s.reference with
  | .none => s
  | .plain name =>
    if Text.isAlphanumeric c then { s with reference := .plain (name ++ [c]) }
    else if c = '\x7b' ∧ name.isEmpty then { s with reference := .braced [] }
    else if c = '$' then { s with reference := .plain [], output := resolve name }
    else { s with reference := .none, output := resolve name ++ [c] }
  | .braced name =>
    if c = '\x7d' then { s with reference := .none, output := resolve name }
    else { s with reference := .braced (name ++ [c]) }

/-- Reads a value; nothing if it is broken. -/
def readValue? (lookup : String → String) (s : ValueState) : List Char → Option String
  | [] =>
    match s.single || s.double, s.reference with
    | false, .none => some (String.ofList s.output)
    | false, .plain name =>
      some (String.ofList (s.output ++ (lookup (String.ofList name)).toList))
    | _, _ => none
  | c :: cs =>
    if s.ended then
      if c = ' ' ∨ c = '\t' then readValue? lookup s cs
      else if c = '#' then readValue? lookup s []
      else none
    else if s.escaped then
      (unescape? c).bind fun c =>
        readValue? lookup { s with escaped := false, output := s.output ++ [c] } cs
    else if s.single then
      if c = '\'' then readValue? lookup { s with single := false } cs
      else readValue? lookup { s with output := s.output ++ [c] } cs
    else if s.reference ≠ .none then readValue? lookup (s.inReference lookup c) cs
    else readValue? lookup (s.plain c) cs

/-! ### Assignments -/

/-- Whether a character may stand in a name after its first one. -/
def isNameChar (c : Char) : Bool :=
  c.isAlphanum || c == '_' || c == '.'

/-- A name, and what follows it after blanks. -/
def readName? : List Char → Option (String × List Char)
  | [] => none
  | c :: cs =>
    if c.isAlpha ∨ c = '_' then
      some (String.ofList (c :: cs.takeWhile isNameChar),
        (cs.dropWhile isNameChar).dropWhile Text.isBlank)
    else none

/-- The text after an equals sign. -/
def afterEquals? : List Char → Option (List Char)
  | '=' :: cs => some cs
  | _ => none

/-- The name that is assigned to, and the text of the value.  A name may follow the word that
exports it, and that word may itself be the name. -/
def readTarget? (cs : List Char) : Option (String × List Char) := do
  let (name, rest) ← readName? cs
  match afterEquals? rest with
  | some rest => return (name, rest)
  | none =>
    if name = "export" then
      let (name, rest) ← readName? rest
      return (name, ← afterEquals? rest)
    else none

/-- The variables set so far, and the values that the file has assigned. -/
structure Loading where
  /-- The environment. -/
  env : Environment
  /-- The assignments of the file. -/
  assigned : Environment

/-- What a reference in a value stands for. -/
def Loading.lookup (l : Loading) (name : String) : String :=
  ((l.env.refer? name).or (l.assigned.get? name)).getD ""

/-- Carries out an assignment; a variable that is set already keeps its value.  Nothing if the
variable cannot be set to the value. -/
def Loading.assign? (l : Loading) (assignment : String × String) : Option Loading :=
  let assigned := assignment :: l.assigned
  if (l.env.get? assignment.1).isSome then some { l with assigned }
  else if '\x00' ∈ assignment.2.toList then none
  else some ⟨l.env ++ [assignment], assigned⟩

/-- The assignment on a line, if there is one; nothing if the line is broken. -/
def Loading.read? (l : Loading) (line : List Char) : Option (List (String × String)) :=
  match (Text.trimEnd line).dropWhile Text.isBlank with
  | [] => some []
  | '#' :: _ => some []
  | cs => do
    let (name, rest) ← readTarget? cs
    match rest.dropWhile Text.isBlank with
    | [] => return [(name, "")]
    | '#' :: _ => return [(name, "")]
    | rest => return [(name, ← readValue? l.lookup .start rest)]

/-- Carries out lines up to the first one that is broken.  Nothing if a variable cannot be set to
its value. -/
def Loading.lines? (l : Loading) : List (Option (List Char)) → Option Loading
  | [] => some l
  | none :: _ => some l
  | some line :: rest =>
    match l.read? line with
    | some assignments => (assignments.foldlM Loading.assign? l).bind fun l => l.lines? rest
    | none => some l

/-- The environment after an environment file has been loaded.  Nothing if a variable cannot be
set to its value. -/
def load? (env : Environment) (text : String) : Option Environment :=
  let cs := match text.toList with
    | '\uFEFF' :: cs => cs
    | cs => cs
  (Loading.lines? ⟨env, []⟩ (logicalLines [] .complete (pieces cs))).map (·.env)

end GraphQuery.Dotenv
