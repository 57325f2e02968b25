import GraphQuery.Json.Document

/-!
# JSON — reading a text

`readDocument` turns a text into a `Document` and says what follows it.  The readers below yield
the rest of the text, or no rest where the text breaks off.  Each takes a count that bounds the
nesting of its calls.  Of two calls in a row one takes up a character, so twice the length of the
text and two more are always enough.
-/

namespace GraphQuery.Json

/-- The characters that may stand between the tokens of a JSON text. -/
def isSpace (c : Char) : Bool :=
  c == ' ' || c == '\n' || c == '\t' || c == '\r'

/-- A text without the spaces at its start. -/
def skipSpace (cs : List Char) : List Char :=
  cs.dropWhile isSpace

/-! ### Strings -/

/-- A unit of a string: a character, or the number of a four-digit escape. -/
inductive TextUnit where
  /-- A character. -/
  | char (c : Char)
  /-- A number of 16 bits. -/
  | code (n : Nat)
deriving DecidableEq, Repr

/-- The value of a hexadecimal digit. -/
def hexDigit? (c : Char) : Option Nat :=
  if '0' ≤ c ∧ c ≤ '9' then some (c.toNat - '0'.toNat)
  else if 'a' ≤ c ∧ c ≤ 'f' then some (c.toNat - 'a'.toNat + 10)
  else if 'A' ≤ c ∧ c ≤ 'F' then some (c.toNat - 'A'.toNat + 10)
  else none

/-- The number that four hexadecimal digits write. -/
def hexCode? (a b c d : Char) : Option Nat := do
  let a ← hexDigit? a
  let b ← hexDigit? b
  let c ← hexDigit? c
  let d ← hexDigit? d
  return ((a * 16 + b) * 16 + c) * 16 + d

/-- The fault where four hexadecimal digits should stand and do not: a text of fewer than four
bytes counts as ended. -/
def hexFault (cs : List Char) : Fault :=
  if (String.ofList cs).utf8ByteSize < 4 then .truncated else .malformed

/-- The character that a one-letter escape stands for. -/
def simpleEscape? (c : Char) : Option Char :=
  if c = '"' ∨ c = '\\' ∨ c = '/' then some c
  else if c = 'b' then some '\x08'
  else if c = 'f' then some '\x0c'
  else if c = 'n' then some '\n'
  else if c = 'r' then some '\r'
  else if c = 't' then some '\t'
  else none

/-- The units of a string up to its closing quote, and the text after it. -/
def readUnits : List Char → List TextUnit × Except Fault (List Char)
  | [] => ([], .error .truncated)
  | '"' :: rest => ([], .ok rest)
  | '\\' :: cs =>
    match cs with
    | [] => ([], .error .truncated)
    | 'u' :: cs =>
      match cs with
      | a :: b :: c :: d :: rest =>
        match hexCode? a b c d with
        | some n =>
          let (units, ending) := readUnits rest
          (.code n :: units, ending)
        | none => ([], .error (hexFault cs))
      | cs => ([], .error (hexFault cs))
    | c :: rest =>
      match simpleEscape? c with
      | some c =>
        let (units, ending) := readUnits rest
        (.char c :: units, ending)
      | none => ([], .error .malformed)
  | c :: rest =>
    if c.toNat < 0x20 then ([], .error .malformed)
    else
      let (units, ending) := readUnits rest
      (.char c :: units, ending)

/-- Whether a number is the first half of a surrogate pair. -/
def isHighSurrogate (n : Nat) : Bool :=
  0xD800 ≤ n && n < 0xDC00

/-- Whether a number is the second half of a surrogate pair. -/
def isLowSurrogate (n : Nat) : Bool :=
  0xDC00 ≤ n && n < 0xE000

/-- The character that a surrogate pair stands for. -/
def pairChar (high low : Nat) : Char :=
  Char.ofNat (0x10000 + (high - 0xD800) * 0x400 + (low - 0xDC00))

/-- The text of a run of units.  `ending` is the fault that follows the units, if there is one;
it shows where only the first half of a pair has been read. -/
def assemble (ending : Option Fault) : List TextUnit → Except Fault (List Char)
  | [] => match ending with
    | none => .ok []
    | some fault => .error fault
  | .char c :: units => (assemble ending units).map (c :: ·)
  | .code n :: units =>
    if isLowSurrogate n then .error .malformed
    else if isHighSurrogate n then
      match units with
      | .code m :: units =>
        if isLowSurrogate m then (assemble ending units).map (pairChar n m :: ·)
        else .error .malformed
      | .char _ :: _ => .error .malformed
      | [] => .error (ending.getD .malformed)
    else (assemble ending units).map (Char.ofNat n :: ·)

/-- A string after its opening quote: its text, unless it stands for none, and what follows it;
or the break in it. -/
def readString (cs : List Char) : Except Break (Except Fault String × List Char) :=
  match readUnits cs with
  | (units, .ok rest) => .ok ((assemble none units).map String.ofList, rest)
  | (units, .error fault) =>
    match assemble (some fault) units with
    | .ok _ => .error (Break.of fault)
    | .error wanted => .error ⟨wanted, fault, .other⟩

/-! ### Numbers and words -/

/-- The break where a digit is missing: at the end of the text a reader that wants the number
calls it truncated, one that passes over it calls it malformed. -/
def missingDigit : List Char → Break
  | [] => ⟨.truncated, .malformed, .scalar⟩
  | _ => ⟨.malformed, .malformed, .scalar⟩

/-- The number that a numeral without point and exponent writes. -/
def integerNumber (negative : Bool) (whole : List Char) : Except Fault Number :=
  let n := Decimal.ofDigits whole
  let i : Int := if negative then -n else n
  if Number.isWord i && !(negative && n == 0) then .ok (.integer i)
  else match Binary64.ofDecimal? ⟨negative, n, 0⟩ with
    | some x => .ok (.float x)
    | none => .error .malformed

/-- The number that a numeral with point or exponent writes. -/
def floatNumber (negative : Bool) (whole fraction : List Char) (exponent : Int) :
    Except Fault Number :=
  match Binary64.ofDecimal? (Decimal.ofParts negative whole fraction exponent) with
  | some x => .ok (.float x)
  | none => .error .malformed

/-- Reads an exponent after its mark. -/
def readExponent (cs : List Char) : Except Break (Int × List Char) :=
  let (negative, cs) := Decimal.readSign cs
  let (ds, rest) := Decimal.spanDigits cs
  if ds.isEmpty then .error (missingDigit rest)
  else .ok (if negative then -(Decimal.ofDigits ds : Int) else Decimal.ofDigits ds, rest)

/-- Reads what follows the digits before the point. -/
def readNumberTail (negative : Bool) (whole : List Char) (cs : List Char) :
    Except Break (Except Fault Number × List Char) :=
  let fractionPart : Except Break (Option (List Char) × List Char) :=
    match cs with
    | '.' :: cs =>
      let (ds, rest) := Decimal.spanDigits cs
      if ds.isEmpty then .error (missingDigit rest) else .ok (some ds, rest)
    | cs => .ok (none, cs)
  match fractionPart with
  | .error place => .error place
  | .ok (fraction, cs) =>
    match cs with
    | c :: rest =>
      if c = 'e' ∨ c = 'E' then
        match readExponent rest with
        | .error place => .error place
        | .ok (exponent, rest) =>
          .ok (floatNumber negative whole (fraction.getD []) exponent, rest)
      else .ok (finish fraction, cs)
    | [] => .ok (finish fraction, cs)
where
  /-- The number when there is no exponent. -/
  finish (fraction : Option (List Char)) : Except Fault Number :=
    match fraction with
    | none => integerNumber negative whole
    | some fraction => floatNumber negative whole fraction 0

/-- Reads a number: a minus sign or nothing, then digits that start with zero only if they are
one zero. -/
def readNumber (cs : List Char) : Except Break (Except Fault Number × List Char) :=
  let (negative, cs) := match cs with
    | '-' :: cs => (true, cs)
    | cs => (false, cs)
  let (whole, rest) := Decimal.spanDigits cs
  match whole with
  | [] => .error (missingDigit rest)
  | '0' :: _ :: _ => .error ⟨.malformed, .malformed, .scalar⟩
  | whole => readNumberTail negative whole rest

/-- Reads the rest of a word; `beginning` tells which word it is. -/
def readWord (beginning : Beginning) : List Char → List Char → Except Break (List Char)
  | [], cs => .ok cs
  | _ :: _, [] => .error ⟨.truncated, .truncated, beginning⟩
  | w :: word, c :: cs =>
    if c = w then readWord beginning word cs else .error ⟨.malformed, .malformed, beginning⟩

/-! ### Values -/

/-- A document read to its end or broken off, and what follows it. -/
abbrev Reading := Document × Option (List Char)

/-- A document without parts. -/
def leaf {α : Type} (make : α → Document) : Except Break (α × List Char) → Reading
  | .ok (a, rest) => (make a, some rest)
  | .error place => (.broken place, none)

/-- A word that stands for a document. -/
def wordLeaf (doc : Document) (outcome : Except Break (List Char)) : Reading :=
  leaf (fun _ : Unit => doc) (outcome.map ((), ·))

/-- The fault where a list or an object should go on and does not. -/
def notContinued : List Char → Fault
  | [] => .truncated
  | _ => .malformed

mutual

/-- Reads a document. -/
def readValue : Nat → List Char → Reading
  | 0, _ => (.broken (.of .truncated), none)
  | count + 1, cs =>
    match skipSpace cs with
    | [] => (.broken (.of .truncated), none)
    | 'n' :: cs => wordLeaf .null (readWord .null ['u', 'l', 'l'] cs)
    | 't' :: cs => wordLeaf (.bool true) (readWord .scalar ['r', 'u', 'e'] cs)
    | 'f' :: cs => wordLeaf (.bool false) (readWord .scalar ['a', 'l', 's', 'e'] cs)
    | '"' :: cs => leaf .string (readString cs)
    | '[' :: cs =>
      match skipSpace cs with
      | ']' :: rest => (.array [] none, some rest)
      | [] => (.array [] (some (.of .truncated)), none)
      | cs =>
        let (items, ending, rest) := readItems count cs
        (.array items ending, rest)
    | '{' :: cs =>
      match skipSpace cs with
      | '}' :: rest => (.object [] none, some rest)
      | cs =>
        let (members, ending, rest) := readMembers count cs
        (.object members ending, rest)
    | c :: cs =>
      if c = '-' ∨ c.isDigit then leaf .number (readNumber (c :: cs))
      else (.broken (.of .malformed), none)

/-- Reads the items of a list from the start of one of them. -/
def readItems : Nat → List Char → List Document × Option Break × Option (List Char)
  | 0, _ => ([], some (.of .truncated), none)
  | count + 1, cs =>
    match readValue count cs with
    | (item, none) => ([item], none, none)
    | (item, some rest) =>
      match skipSpace rest with
      | ',' :: rest =>
        let (items, ending, rest) := readItems count rest
        (item :: items, ending, rest)
      | ']' :: rest => ([item], none, some rest)
      | rest => ([item], some (.of (notContinued rest)), none)

/-- Reads the members of an object from the start of one of them.  A name that is missing or
broken makes a member without a name. -/
def readMembers : Nat → List Char →
    List (Except Fault String × Document) × Option Break × Option (List Char)
  | 0, _ => ([], some (.of .truncated), none)
  | count + 1, cs =>
    match skipSpace cs with
    | '"' :: cs =>
      match readString cs with
      | .error place => ([(.error place.wanted, .broken place)], none, none)
      | .ok (name, rest) =>
        match skipSpace rest with
        | ':' :: rest =>
          match readValue count rest with
          | (item, none) => ([(name, item)], none, none)
          | (item, some rest) =>
            match skipSpace rest with
            | ',' :: rest =>
              let (members, ending, rest) := readMembers count rest
              ((name, item) :: members, ending, rest)
            | '}' :: rest => ([(name, item)], none, some rest)
            | rest => ([(name, item)], some (.of (notContinued rest)), none)
        | rest => ([(name, .broken (.of (notContinued rest)))], none, none)
    | rest => ([(.error (notContinued rest), .broken (.of (notContinued rest)))], none, none)

end

/-- Reads a whole text: its document, and the fault after it where something follows. -/
def readDocument (cs : List Char) : Document × Except Fault Unit :=
  match readValue (2 * cs.length + 2) cs with
  | (doc, none) => (doc, .ok ())
  | (doc, some rest) => (doc, if (skipSpace rest).isEmpty then .ok () else .error .malformed)

/-- How many lists and objects may be nested in a text that is read as a value. -/
def maxDepth : Nat := 127

/-- Reads a whole text as a value. -/
def parse (cs : List Char) : Except Fault Value := do
  let (doc, after) := readDocument cs
  let value ← doc.toValue maxDepth
  after
  return value

end GraphQuery.Json
