import GraphQuery.Number.Decimal

/-!
# Number — binary64

A finite binary64 number is a sign and a magnitude.  The magnitudes in increasing order are
numbered from zero, and a number is kept by that rank, which is also the low 63 bits of its
interchange encoding.  Magnitudes are multiples of `2 ^ -1074`; `units` says which multiple.

`nearestRank` rounds a quotient of natural numbers, in those units, to the nearest magnitude, a
half going to the even neighbour, and `ofDecimal?` rounds a decimal number that way.
-/

namespace GraphQuery

namespace Binary64

/-- The number of magnitudes in one binade. -/
def binadeSize : Nat := Nat.pow 2 52

/-- The finite magnitudes have the ranks below this one. -/
def rankLimit : Nat := 2047 * binadeSize

end Binary64

/-- A finite binary64 number: its sign and the rank of its magnitude. -/
structure Binary64 where
  /-- Whether the sign bit is set. -/
  negative : Bool
  /-- The place of the magnitude among all magnitudes. -/
  rank : Nat
  /-- The magnitude is finite. -/
  rank_lt : rank < Binary64.rankLimit
deriving DecidableEq, Repr

namespace Binary64

/-- Zero with a sign. -/
def zero (negative : Bool) : Binary64 :=
  ⟨negative, 0, by decide⟩

/-- How often the step between neighbours has doubled at this rank. -/
def doublings (rank : Nat) : Nat :=
  rank / binadeSize - 1

/-- The integer significand of the magnitude with this rank. -/
def significand (rank : Nat) : Nat :=
  rank - doublings rank * binadeSize

/-- The magnitude with this rank, counted in units of `2 ^ -1074`. -/
def units (rank : Nat) : Nat :=
  significand rank * Nat.pow 2 (doublings rank)

/-- One is this many units. -/
def one : Nat := Nat.pow 2 1074

/-- The integer nearest to `num / den`, a half going to the even neighbour. -/
def roundHalfEven (num den : Nat) : Nat :=
  let quotient := num / den
  let rest := num % den
  if 2 * rest < den then quotient
  else if den < 2 * rest then quotient + 1
  else quotient + quotient % 2

/-- The rank of the magnitude nearest to `num / den` units, a half going to the even neighbour. -/
def nearestRank (num den : Nat) : Nat :=
  let shift := (num / den).log2 - 52
  shift * binadeSize + roundHalfEven num (den * Nat.pow 2 shift)

/-- `coefficient · 10 ^ exponent` as a quotient of natural numbers. -/
def quotientOf (coefficient : Nat) (exponent : Int) : Nat × Nat :=
  if exponent < 0 then (coefficient, Nat.pow 10 exponent.natAbs)
  else (coefficient * Nat.pow 10 exponent.natAbs, 1)

/-- The rank of the magnitude nearest to `coefficient · 10 ^ exponent`.  Numbers far outside the
range are told apart by their exponent alone: from `10 ^ 311` on nothing is finite, and what is
below `10 ^ -331` rounds to zero. -/
def rankOfDecimal (coefficient : Nat) (exponent : Int) : Nat :=
  if coefficient = 0 then 0
  else if 310 < exponent then rankLimit
  else if exponent + coefficient.log2 < -331 then 0
  else
    let (num, den) := quotientOf coefficient exponent
    nearestRank (num * one) den

/-- The nearest finite number, or nothing when the decimal number is out of range. -/
def ofDecimal? (d : Decimal) : Option Binary64 :=
  if h : rankOfDecimal d.coefficient d.exponent < rankLimit then some ⟨d.negative, _, h⟩ else none

/-- Reads a whole text as a decimal numeral and rounds it to the nearest finite number. -/
def read? (cs : List Char) : Option Binary64 :=
  (Decimal.read? cs).bind ofDecimal?

/-- Whether the number has no fractional part. -/
def isWhole (x : Binary64) : Bool :=
  units x.rank % one == 0

/-- The interchange encoding of the number. -/
def toBits (x : Binary64) : Nat :=
  (if x.negative then Nat.pow 2 63 else 0) + x.rank

end Binary64

end GraphQuery
