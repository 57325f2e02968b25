/-!
# Number — decimal numbers and their numerals

A `Decimal` is a signed coefficient times a power of ten.  `Decimal.read?` reads the numeral of
one: an optional sign, digits with an optional point among, before or after them, and an optional
exponent.  Digits are read exactly, however many there are.
-/

namespace GraphQuery

/-- The number `± coefficient · 10 ^ exponent`.  The sign of zero is kept. -/
structure Decimal where
  /-- Whether the number carries a minus sign. -/
  negative : Bool
  /-- The digits, read as one natural number. -/
  coefficient : Nat
  /-- The power of ten that the coefficient is scaled by. -/
  exponent : Int
deriving DecidableEq, Repr

namespace Decimal

/-- The natural number that a run of decimal digits writes. -/
def ofDigits (ds : List Char) : Nat :=
  Nat.ofDigitChars 10 ds 0

/-- The leading digits of a text, and the text after them. -/
def spanDigits (cs : List Char) : List Char × List Char :=
  (cs.takeWhile Char.isDigit, cs.dropWhile Char.isDigit)

/-- Nothing of the text is lost. -/
theorem spanDigits_append (cs : List Char) : (spanDigits cs).1 ++ (spanDigits cs).2 = cs :=
  List.takeWhile_append_dropWhile

/-- What is split off are digits. -/
theorem isDigit_of_mem_spanDigits {c : Char} {cs : List Char} (h : c ∈ (spanDigits cs).1) :
    c.isDigit = true :=
  List.all_eq_true.1 List.all_takeWhile c h

/-- What is left does not start with a digit. -/
theorem not_isDigit_of_spanDigits {c : Char} {cs rest : List Char}
    (h : (spanDigits cs).2 = c :: rest) : c.isDigit = false := by
  have hhead := List.head?_dropWhile_not Char.isDigit cs
  rw [show cs.dropWhile Char.isDigit = c :: rest from h] at hhead
  simpa using hhead

/-- Splits off a sign: whether it is a minus sign, and the text after it. -/
def readSign : List Char → Bool × List Char
  | '-' :: cs => (true, cs)
  | '+' :: cs => (false, cs)
  | cs => (false, cs)

/-- Reads what may follow the digits of a numeral: nothing, or an exponent with at least one
digit.  Yields the exponent. -/
def readExponent? : List Char → Option Int
  | [] => some 0
  | c :: cs =>
    if c = 'e' ∨ c = 'E' then
      let (negative, cs) := readSign cs
      let (ds, rest) := spanDigits cs
      if ds.isEmpty || !rest.isEmpty then none
      else some (if negative then -(ofDigits ds : Int) else ofDigits ds)
    else none

/-- Splits off the fraction digits after a point, if there is a point. -/
def readFraction : List Char → List Char × List Char
  | '.' :: cs => spanDigits cs
  | cs => ([], cs)

/-- The number with these digits before the point, these after it, and this exponent. -/
def ofParts (negative : Bool) (whole fraction : List Char) (exponent : Int) : Decimal :=
  ⟨negative, ofDigits (whole ++ fraction), exponent - fraction.length⟩

/-- Reads a whole text as a decimal numeral. -/
def read? (cs : List Char) : Option Decimal :=
  let (negative, cs) := readSign cs
  let (whole, cs) := spanDigits cs
  let (fraction, cs) := readFraction cs
  if whole.isEmpty && fraction.isEmpty then none
  else (readExponent? cs).map (ofParts negative whole fraction)

end Decimal

end GraphQuery
