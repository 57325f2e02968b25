/-!
# Text — quoted literals

A text literal of the query language stands between double quotes.  Inside it a backslash
announces the next character, so exactly two characters need one in front: the backslash and
the double quote.  Line breaks and every other character stand for themselves.
-/

namespace GraphQuery.Text

/-- The characters that are announced by a backslash inside a literal. -/
def needsEscape (c : Char) : Bool :=
  c == '\\' || c == '"'

/-- The inside of a literal: a backslash in front of each character that needs one. -/
def escape : List Char → List Char
  | [] => []
  | c :: cs => if needsEscape c then '\\' :: c :: escape cs else c :: escape cs

/-- The literal of a list of characters, with its quotes. -/
def quoteList (cs : List Char) : List Char :=
  '"' :: (escape cs ++ ['"'])

/-- The literal of a text, with its quotes. -/
def quote (s : String) : String :=
  String.ofList (quoteList s.toList)

/-- The inside of a literal up to its closing quote, read back: a backslash yields the character
after it and a bare double quote ends the literal.  Yields the text and what follows the closing
quote, or nothing when the literal is not closed. -/
def unescape? : List Char → Option (List Char × List Char)
  | [] => none
  | '"' :: rest => some ([], rest)
  | '\\' :: c :: rest => (unescape? rest).map fun (text, after) => (c :: text, after)
  | c :: rest => (unescape? rest).map fun (text, after) => (c :: text, after)

/-- Reading an escaped text gives it back, whatever follows the closing quote. -/
theorem unescape?_escape (cs rest : List Char) :
    unescape? (escape cs ++ '"' :: rest) = some (cs, rest) := by
  induction cs with
  | nil => simp [escape, unescape?]
  | cons c cs ih =>
    by_cases hc : needsEscape c = true
    · simp [escape, hc, unescape?, ih]
    · have hq : c ≠ '"' := by intro h; subst h; exact hc (by decide)
      have hb : c ≠ '\\' := by intro h; subst h; exact hc (by decide)
      simp [escape, hc, unescape?, ih, hb]

end GraphQuery.Text
