import GraphQuery.Number.Shortest
import GraphQuery.Proofs.Rounding

/-!
# Proofs — the fewest digits that read back

The search for the numeral of a magnitude ends with a point that reads back, on the coarsest grid
that has one (`isCoarsest_shortest`).  It does end with one, because the magnitude is itself a point
of the finest grid and reads back as such.

A point that ends in zero is a point of the next coarser grid, too, so the digits found do not end
in zero (`not_ten_dvd_shortest`).  A whole number is a point of the grid of the integers, so its
numeral has no fraction digits (`shortest_exponent_nonneg`); and a numeral without fraction digits
is that of a whole number (`isWhole_of_exponent_nonneg`).
-/

namespace GraphQuery.Binary64

variable {tie : TieRule} {rank coefficient : Nat} {grid top exponent : Int} {x : Binary64}

/-! ### Points of a grid -/

theorem onGrid_of_nonpos (h : grid ≤ 0) (rank : Nat) :
    onGrid rank grid = (units rank * 10 ^ grid.natAbs, one) := by
  rw [onGrid]
  split
  · rfl
  · obtain rfl : grid = 0 := by omega
    have hpow : 10 ^ (0 : Int).natAbs = 1 := rfl
    have hpow' : Nat.pow 10 (0 : Int).natAbs = 1 := rfl
    rw [hpow, hpow', Nat.mul_one, Nat.mul_one]

theorem onGrid_of_nonneg (h : 0 ≤ grid) (rank : Nat) :
    onGrid rank grid = (units rank, one * 10 ^ grid.natAbs) := by
  rw [onGrid, if_neg (by omega)]
  rfl

/-- The last point of the grid that does not lie above the magnitude. -/
def below (rank : Nat) (grid : Int) : Nat :=
  (onGrid rank grid).1 / (onGrid rank grid).2

/-- From grid to grid the point below loses its last digit. -/
theorem below_succ (rank : Nat) (grid : Int) : below rank (grid + 1) = below rank grid / 10 := by
  rw [below, below]
  rcases Int.lt_or_le grid 0 with hneg | hnonneg
  · have hpow : 10 ^ grid.natAbs = 10 ^ (grid + 1).natAbs * 10 := by
      rw [← Nat.pow_succ]
      congr 1
      omega
    rw [onGrid_of_nonpos (by omega), onGrid_of_nonpos (by omega), hpow, Nat.div_div_eq_div_mul,
      ← Nat.mul_assoc, Nat.mul_div_mul_right _ _ (by decide)]
  · have hpow : 10 ^ (grid + 1).natAbs = 10 ^ grid.natAbs * 10 := by
      rw [← Nat.pow_succ]
      congr 1
      omega
    rw [onGrid_of_nonneg hnonneg, onGrid_of_nonneg (by omega), hpow, Nat.div_div_eq_div_mul,
      ← Nat.mul_assoc]

/-- Between two neighbours one is chosen. -/
theorem nearer_cases (tie : TieRule) (low rest den : Nat) :
    tie.nearer low rest den = low ∨ tie.nearer low rest den = low + 1 := by
  rw [TieRule.nearer.eq_def]
  split
  · exact .inl rfl
  · split
    · exact .inr rfl
    · cases tie with
      | up => exact .inr rfl
      | toEven =>
          show low + low % 2 = low ∨ low + low % 2 = low + 1
          omega

/-- What is found on a grid is a neighbour of the magnitude and reads back. -/
theorem of_onGrid? (h : onGrid? tie rank grid = some coefficient) :
    (coefficient = below rank grid ∨ coefficient = below rank grid + 1) ∧
      readsBack rank grid coefficient = true := by
  simp only [onGrid?] at h
  split at h
  · rename_i hlow hnext
    cases h
    rcases nearer_cases tie ((onGrid rank grid).1 / (onGrid rank grid).2)
      ((onGrid rank grid).1 % (onGrid rank grid).2) (onGrid rank grid).2 with hn | hn
    · exact ⟨.inl hn, by rwa [hn]⟩
    · exact ⟨.inr hn, by rwa [hn]⟩
  · cases h
    exact ⟨.inl rfl, by assumption⟩
  · cases h
    exact ⟨.inr rfl, by assumption⟩
  · cases h

/-- A neighbour of the magnitude that reads back is not missed. -/
theorem isSome_onGrid? (tie : TieRule)
    (h : coefficient = below rank grid ∨ coefficient = below rank grid + 1)
    (hreads : readsBack rank grid coefficient = true) : (onGrid? tie rank grid).isSome = true := by
  simp only [onGrid?]
  split
  · rfl
  · rfl
  · rfl
  · rename_i hlow hnext
    rcases h with rfl | rfl
    · exact absurd (hreads.symm.trans hlow) nofun
    · exact absurd (hreads.symm.trans hnext) nofun

/-- A point that ends in zero is found on the next coarser grid. -/
theorem isSome_onGrid?_succ (hle : grid + 1 ≤ 310) (h : onGrid? tie rank grid = some coefficient)
    (hdvd : 10 ∣ coefficient) : (onGrid? tie rank (grid + 1)).isSome = true := by
  obtain ⟨digits, rfl⟩ := hdvd
  obtain ⟨hneighbour, hreads⟩ := of_onGrid? h
  have hbelow := below_succ rank grid
  have hdigits : digits = below rank (grid + 1) ∨ digits = below rank (grid + 1) + 1 := by omega
  refine isSome_onGrid? tie hdigits ?_
  rwa [readsBack, ← rankOfDecimal_ten_mul hle]

/-- A magnitude that is a point of the grid reads back as that point. -/
theorem isSome_onGrid?_of_dvd (tie : TieRule) (h : grid ≤ 0)
    (hdvd : one ∣ units rank * 10 ^ grid.natAbs) : (onGrid? tie rank grid).isSome = true := by
  have hpow : 0 < 10 ^ grid.natAbs := Nat.pow_pos (by decide)
  refine isSome_onGrid? tie (.inl rfl) ?_
  rw [readsBack, rankOfDecimal_eq (by omega), quotientOf_of_nonpos h, below, onGrid_of_nonpos h,
    Nat.div_mul_cancel hdvd, nearestRank_units rank hpow, beq_self_eq_true]

/-- Every magnitude is a point of the finest grid. -/
theorem isSome_onGrid?_finest (tie : TieRule) (rank : Nat) (h : grid = -1074) :
    (onGrid? tie rank grid).isSome = true := by
  refine isSome_onGrid?_of_dvd tie (by omega) (Nat.dvd_mul_left_of_dvd ?_ _)
  rw [one_eq (k := grid.natAbs) (by omega)]
  exact pow_dvd_pow_of_dvd (by decide) _

/-! ### The top grid -/

theorem units_ne_zero (h : rank ≠ 0) : units rank ≠ 0 := by
  obtain ⟨hrank, -, hlow⟩ := rank_eq rank
  have hsignificand : significand rank ≠ 0 := by omega
  exact Nat.mul_ne_zero hsignificand (Nat.two_pow_pos _).ne'

theorem ten_pow_le_one {m : Nat} (hm : m = 323) : 10 ^ m ≤ one := by
  obtain ⟨k, hk⟩ : ∃ k, k = 1074 := ⟨_, rfl⟩
  rw [one_eq hk]
  subst hk hm
  decide +kernel

theorem topGrid_ge (rank : Nat) : -322 ≤ topGrid rank := by
  have hlength : 0 < (Nat.toDigits 10 (units rank)).length := Nat.length_toDigits_pos
  rw [topGrid]
  omega

theorem topGrid_nonneg (h : one ≤ units rank) : 0 ≤ topGrid rank := by
  obtain ⟨m, hm⟩ : ∃ m, m = 323 := ⟨_, rfl⟩
  have hlength : ¬ (Nat.toDigits 10 (units rank)).length ≤ m := by
    rw [Nat.length_toDigits_le_iff (by decide) (by omega)]
    exact Nat.not_lt.mpr (Nat.le_trans (ten_pow_le_one hm) h)
  rw [topGrid]
  omega

/-- Up to the top grid of a finite magnitude a decimal number is rounded as the quotient it is. -/
theorem topGrid_le (h : rank < rankLimit) : topGrid rank ≤ 310 := by
  obtain ⟨k, hk⟩ : ∃ k, k = 2098 := ⟨_, rfl⟩
  obtain ⟨m, hm⟩ : ∃ m, m = 633 := ⟨_, rfl⟩
  have hdoublings : doublings rank ≤ 2045 := by
    rw [rankLimit, binadeSize_eq] at h
    rw [doublings, binadeSize_eq]
    omega
  have hpow : 2 ^ k ≤ 10 ^ m := by
    subst hk hm
    decide +kernel
  have hunits : units rank < 10 ^ m := by
    calc units rank < 2 ^ 53 * 2 ^ doublings rank :=
          Nat.mul_lt_mul_of_pos_right (rank_eq rank).2.1 (Nat.two_pow_pos _)
      _ = 2 ^ (53 + doublings rank) := (Nat.pow_add ..).symm
      _ ≤ 2 ^ k := Nat.pow_le_pow_right (by decide) (by omega)
      _ ≤ 10 ^ m := hpow
  have hlength := (Nat.length_toDigits_le_iff (by decide) (by omega)).mpr hunits
  rw [topGrid]
  omega

/-- On the top grid no point but zero lies below the magnitude. -/
theorem below_topGrid (rank : Nat) : below rank (topGrid rank) = 0 := by
  obtain ⟨m, hm⟩ : ∃ m, m = 323 := ⟨_, rfl⟩
  obtain ⟨size, hsize⟩ : ∃ size, size = (Nat.toDigits 10 (units rank)).length := ⟨_, rfl⟩
  have hunits : units rank < 10 ^ size :=
    (Nat.length_toDigits_le_iff (by decide) (hsize ▸ Nat.length_toDigits_pos)).mp hsize.ge
  have htop : topGrid rank = (size : Int) - m := by rw [topGrid, hsize, hm]; rfl
  rw [below, Nat.div_eq_zero_iff, htop]
  right
  rcases Nat.le_total size m with hle | hge
  · have hsplit : size + ((size : Int) - m).natAbs = m := by omega
    rw [onGrid_of_nonpos (by omega)]
    dsimp only
    calc units rank * 10 ^ ((size : Int) - m).natAbs
        < 10 ^ size * 10 ^ ((size : Int) - m).natAbs :=
          Nat.mul_lt_mul_of_pos_right hunits (Nat.pow_pos (by decide))
      _ = 10 ^ m := by rw [← Nat.pow_add, hsplit]
      _ ≤ one := ten_pow_le_one hm
  · have hsplit : m + ((size : Int) - m).natAbs = size := by omega
    rw [onGrid_of_nonneg (by omega)]
    dsimp only
    calc units rank < 10 ^ size := hunits
      _ = 10 ^ m * 10 ^ ((size : Int) - m).natAbs := by rw [← Nat.pow_add, hsplit]
      _ ≤ one * 10 ^ ((size : Int) - m).natAbs := Nat.mul_le_mul_right _ (ten_pow_le_one hm)

/-! ### The search -/

/-- What the search from `10 ^ top` downwards ends with: a coefficient that is found on its grid,
where no coarser grid has any. -/
structure IsCoarsest (tie : TieRule) (rank : Nat) (top : Int) (coefficient : Nat)
    (exponent : Int) : Prop where
  found : onGrid? tie rank exponent = some coefficient
  le_top : exponent ≤ top
  none_above : ∀ grid, exponent < grid → grid ≤ top → onGrid? tie rank grid = none

theorem IsCoarsest.le_of_isSome (h : IsCoarsest tie rank top coefficient exponent)
    (hsome : (onGrid? tie rank grid).isSome = true) (hle : grid ≤ top) : grid ≤ exponent := by
  refine Int.not_lt.mp fun hlt => ?_
  rw [h.none_above grid hlt hle] at hsome
  cases hsome

/-- The search ends with a coefficient that is found if it reaches a grid that has any. -/
theorem isCoarsest_shortestFrom (hsome : (onGrid? tie rank grid).isSome = true) :
    ∀ {count : Nat} {top : Int}, grid ≤ top → top < grid + count →
      IsCoarsest tie rank top (shortestFrom tie rank count top).1
        (shortestFrom tie rank count top).2
  | 0, top, hle, hlt => absurd hlt (by omega)
  | count + 1, top, hle, hlt => by
      rw [shortestFrom]
      split
      · rename_i hfound
        exact ⟨hfound, Int.le_refl top, fun g hg hle => absurd hg (Int.not_lt.mpr hle)⟩
      · rename_i hnone
        have hne : grid ≠ top := by
          rintro rfl
          rw [hnone] at hsome
          cases hsome
        have hrest : IsCoarsest tie rank (top - 1) (shortestFrom tie rank count (top - 1)).1
            (shortestFrom tie rank count (top - 1)).2 :=
          isCoarsest_shortestFrom hsome (by omega) (by omega)
        obtain ⟨hfound, hbelow, habove⟩ := hrest
        refine ⟨hfound, by omega, fun g hg hle => ?_⟩
        rcases Decidable.em (g = top) with rfl | hg'
        · exact hnone
        · exact habove g hg (by omega)

/-- The decimal number that the search from `10 ^ top` downwards ends with. -/
def shortestBelow (tie : TieRule) (x : Binary64) (top : Int) : Decimal :=
  let (coefficient, exponent) := shortestFrom tie x.rank (top + 1075).toNat top
  ⟨x.negative, coefficient, exponent⟩

theorem shortest_eq (tie : TieRule) (x : Binary64) :
    x.shortest tie = shortestBelow tie x (topGrid x.rank) := rfl

/-- **The numeral of a number is on the coarsest grid** that has a point which reads back. -/
theorem isCoarsest_shortest (tie : TieRule) (x : Binary64) :
    IsCoarsest tie x.rank (topGrid x.rank) (x.shortest tie).coefficient
      (x.shortest tie).exponent := by
  -- for any grid, because the top one is made of numbers that must not be worked out here
  have hbelow : ∀ top : Int, -1074 ≤ top →
      IsCoarsest tie x.rank top (shortestBelow tie x top).coefficient
        (shortestBelow tie x top).exponent :=
    fun top hle => isCoarsest_shortestFrom (isSome_onGrid?_finest tie x.rank rfl) hle (by omega)
  have hge := topGrid_ge x.rank
  rw [shortest_eq]
  exact hbelow _ (by omega)

theorem shortest_exponent_le (tie : TieRule) (x : Binary64) : (x.shortest tie).exponent ≤ 310 :=
  Int.le_trans (isCoarsest_shortest tie x).le_top (topGrid_le x.rank_lt)

/-- The numeral of a number reads back. -/
theorem rankOfDecimal_shortest (tie : TieRule) (x : Binary64) :
    rankOfDecimal (x.shortest tie).coefficient (x.shortest tie).exponent = x.rank :=
  eq_of_beq (of_onGrid? (isCoarsest_shortest tie x).found).2

/-- A magnitude other than zero has digits of a positive number. -/
theorem shortest_coefficient_ne_zero (tie : TieRule) (h : x.rank ≠ 0) :
    (x.shortest tie).coefficient ≠ 0 := by
  intro hzero
  have hreads := rankOfDecimal_shortest tie x
  rw [hzero] at hreads
  exact h hreads.symm

/-- **The digits of a magnitude other than zero do not end in zero.** -/
theorem not_ten_dvd_shortest (tie : TieRule) (h : x.rank ≠ 0) :
    ¬ 10 ∣ (x.shortest tie).coefficient := by
  intro hdvd
  have hcoarsest := isCoarsest_shortest tie x
  have htop := topGrid_le x.rank_lt
  rcases Int.lt_or_eq_of_le hcoarsest.le_top with hlt | heq
  · -- the digits without the last zero are found on the next coarser grid
    have hle := hcoarsest.le_of_isSome
      (isSome_onGrid?_succ (by omega) hcoarsest.found hdvd) (by omega)
    omega
  · -- on the top grid there are only zero and one
    have hneighbour := (of_onGrid? hcoarsest.found).1
    have hne := shortest_coefficient_ne_zero tie h
    rw [heq, below_topGrid] at hneighbour
    omega

/-! ### Whole numbers -/

theorem isWhole_iff : x.isWhole = true ↔ one ∣ units x.rank := by
  rw [isWhole, beq_iff_eq, Nat.dvd_iff_mod_eq_zero]

/-- **A whole number has no fraction digits.** -/
theorem shortest_exponent_nonneg (tie : TieRule) (h : x.rank ≠ 0) (hwhole : x.isWhole = true) :
    0 ≤ (x.shortest tie).exponent := by
  have hdvd := isWhole_iff.mp hwhole
  have hle : one ≤ units x.rank := Nat.le_of_dvd (Nat.pos_of_ne_zero (units_ne_zero h)) hdvd
  have hsome : (onGrid? tie x.rank 0).isSome = true :=
    isSome_onGrid?_of_dvd tie (Int.le_refl 0) (Nat.dvd_mul_right_of_dvd hdvd _)
  exact (isCoarsest_shortest tie x).le_of_isSome hsome (topGrid_nonneg hle)

/-- A number without fraction digits is whole. -/
theorem isWhole_of_exponent_nonneg (h : 0 ≤ (x.shortest tie).exponent) : x.isWhole = true := by
  rw [isWhole_iff, ← rankOfDecimal_shortest tie x]
  exact one_dvd_units_of_nonneg h (shortest_exponent_le tie x) _

/-- A number of `2 ^ 52` or more is whole. -/
theorem isWhole_of_large (h : (x.shortest tie).exponent ≤ 0)
    (hlarge : 2 ^ 52 * 10 ^ (x.shortest tie).exponent.natAbs ≤ (x.shortest tie).coefficient) :
    x.isWhole = true := by
  rw [isWhole_iff, ← rankOfDecimal_shortest tie x]
  exact one_dvd_units_of_large h hlarge

end GraphQuery.Binary64
