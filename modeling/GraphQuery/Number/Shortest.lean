import GraphQuery.Number.Binary64

/-!
# Number — the fewest digits that read back

Among the decimal numbers that round to a given magnitude, `shortest` picks one on the coarsest
grid of multiples of a power of ten that has any, and on that grid the nearest.  On each grid only
the two neighbours of the magnitude are tried, because a farther point reads back only if the
neighbour on its side does.  Where both are equally near, the tie rule decides.
-/

namespace GraphQuery.Binary64

/-- Which of two equally near decimals stands for a magnitude. -/
inductive TieRule where
  /-- The one with the even last digit. -/
  | toEven
  /-- The larger one. -/
  | up
deriving DecidableEq, Repr

/-- The magnitude with this rank as a quotient counted in multiples of `10 ^ grid`. -/
def onGrid (rank : Nat) (grid : Int) : Nat × Nat :=
  if grid < 0 then (units rank * Nat.pow 10 grid.natAbs, one)
  else (units rank, one * Nat.pow 10 grid.natAbs)

/-- Whether `coefficient · 10 ^ grid` rounds to the magnitude with this rank. -/
def readsBack (rank : Nat) (grid : Int) (coefficient : Nat) : Bool :=
  rankOfDecimal coefficient grid == rank

/-- Of the two integers next to a quotient with integer part `low` and the given rest, the nearer
one; a tie goes as the rule says. -/
def TieRule.nearer (tie : TieRule) (low rest den : Nat) : Nat :=
  if 2 * rest < den then low
  else if den < 2 * rest then low + 1
  else match tie with
    | .toEven => low + low % 2
    | .up => low + 1

/-- The nearest multiple of `10 ^ grid` that reads back as the magnitude, if there is one. -/
def onGrid? (tie : TieRule) (rank : Nat) (grid : Int) : Option Nat :=
  let (num, den) := onGrid rank grid
  let low := num / den
  let rest := num % den
  match readsBack rank grid low, readsBack rank grid (low + 1) with
  | true, true => some (tie.nearer low rest den)
  | true, false => some low
  | false, true => some (low + 1)
  | false, false => none

/-- Tries the grids from `10 ^ grid` downwards, as many as the count allows.  On the grid of
`10 ^ -1074` every magnitude is a point, so its exact value ends the search at the latest. -/
def shortestFrom (tie : TieRule) (rank : Nat) : Nat → Int → Nat × Int
  | 0, _ => (units rank * Nat.pow 5 1074, -1074)
  | count + 1, grid =>
    match onGrid? tie rank grid with
    | some coefficient => (coefficient, grid)
    | none => shortestFrom tie rank count (grid - 1)

/-- A power of ten above the magnitude: its units have this many digits, and one unit is less than
`10 ^ -323`. -/
def topGrid (rank : Nat) : Int :=
  (Nat.toDigits 10 (units rank)).length - 323

/-- The decimal number with the fewest digits that reads back as `x`. -/
def shortest (tie : TieRule) (x : Binary64) : Decimal :=
  let top := topGrid x.rank
  let (coefficient, exponent) := shortestFrom tie x.rank (top + 1075).toNat top
  ⟨x.negative, coefficient, exponent⟩

end GraphQuery.Binary64
