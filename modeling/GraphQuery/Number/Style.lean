import GraphQuery.Number.Shortest

/-!
# Number — how a binary64 number is written

A `NumberStyle` holds the decisions of a number format: which magnitudes are written plainly and
which with an exponent, what follows a number without fraction digits, how zero is written and
where ties between equally short digits go.  `NumberStyle.write` writes a number in a style.
-/

namespace GraphQuery

/-- The decisions of a number format.  The exponents are those of the leading digit. -/
structure NumberStyle where
  /-- Which of two equally near decimals is written. -/
  tie : Binary64.TieRule
  /-- The least exponent that is written plainly. -/
  plainFrom : Int
  /-- The least exponent above the plain ones. -/
  plainBelow : Int
  /-- What follows a plainly written number without fraction digits. -/
  wholeEnd : List Char
  /-- The text of zero. -/
  zero : List Char
  /-- The text of zero with a minus sign. -/
  negativeZero : List Char

namespace NumberStyle

/-- The exponent of the leading digit of `ds · 10 ^ exponent`. -/
def leadingExponent (ds : List Char) (exponent : Int) : Int :=
  exponent + ds.length - 1

/-- Digits scaled by a power of ten, written with zeros and a point as needed. -/
def writePlain (wholeEnd : List Char) (ds : List Char) (exponent : Int) : List Char :=
  if 0 ≤ exponent then ds ++ List.replicate exponent.toNat '0' ++ wholeEnd
  else if ds.length ≤ exponent.natAbs then
    '0' :: '.' :: (List.replicate (exponent.natAbs - ds.length) '0' ++ ds)
  else
    ds.take (ds.length - exponent.natAbs) ++ '.' :: ds.drop (ds.length - exponent.natAbs)

/-- An exponent with its mark and its sign. -/
def writeExponent (exponent : Int) : List Char :=
  'e' :: (if exponent < 0 then '-' else '+') :: Nat.toDigits 10 exponent.natAbs

/-- Digits scaled by a power of ten, written with one digit before the point and an exponent. -/
def writeScientific (ds : List Char) (exponent : Int) : List Char :=
  ds.take 1 ++ (if ds.length ≤ 1 then [] else '.' :: ds.drop 1)
    ++ writeExponent (leadingExponent ds exponent)

/-- A nonzero magnitude, given by its digits. -/
def writeDigits (style : NumberStyle) (ds : List Char) (exponent : Int) : List Char :=
  let leading := leadingExponent ds exponent
  if style.plainFrom ≤ leading ∧ leading < style.plainBelow then
    writePlain style.wholeEnd ds exponent
  else writeScientific ds exponent

/-- The text of a number. -/
def write (style : NumberStyle) (x : Binary64) : List Char :=
  if x.rank = 0 then (if x.negative then style.negativeZero else style.zero)
  else
    let d := x.shortest style.tie
    (if x.negative then ['-'] else [])
      ++ style.writeDigits (Nat.toDigits 10 d.coefficient) d.exponent

end NumberStyle

end GraphQuery
