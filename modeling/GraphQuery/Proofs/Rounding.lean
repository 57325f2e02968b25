import Mathlib.Algebra.Order.Ring.Nat
import GraphQuery.Number.Binary64

/-!
# Proofs — rounding to binary64

How a quotient rounds does not depend on how it is written (`nearestRank_mul`), and a magnitude
rounds to itself (`nearestRank_units`).  So a decimal number rounds the same with a zero more behind
its digits (`rankOfDecimal_ten_mul`), also where its exponent alone tells that it rounds to zero.

An integer rounds to an integer (`one_dvd_units_of_nonneg`), and so does whatever is `2 ^ 52` or
more (`one_dvd_units_of_large`), because neighbours are one apart from there on.
-/

namespace GraphQuery.Binary64

variable {num den k rank coefficient : Nat} {exponent : Int}

theorem binadeSize_eq : binadeSize = 2 ^ 52 := rfl

/-- One as a power of two, its exponent kept from being worked out. -/
theorem one_eq (hk : k = 1074) : one = 2 ^ k := by
  unfold one
  rw [← hk]
  rfl

/-! ### Quotients -/

theorem roundHalfEven_mul (hk : 0 < k) (num den : Nat) :
    roundHalfEven (k * num) (k * den) = roundHalfEven num den := by
  have hlt : ∀ a b, k * a < k * b ↔ a < b := fun a b => Nat.mul_lt_mul_left hk
  simp only [roundHalfEven, Nat.mul_div_mul_left _ _ hk, Nat.mul_mod_mul_left,
    Nat.mul_left_comm 2 k, hlt]

/-- A quotient rounds the same however it is written. -/
theorem nearestRank_mul (hk : 0 < k) (num den : Nat) :
    nearestRank (k * num) (k * den) = nearestRank num den := by
  simp only [nearestRank, Nat.mul_div_mul_left _ _ hk, Nat.mul_assoc, roundHalfEven_mul hk]

theorem roundHalfEven_mul_self (n : Nat) (hden : 0 < den) : roundHalfEven (n * den) den = n := by
  simp [roundHalfEven, Nat.mul_div_cancel _ hden, hden]

/-- Rounding takes the integer part or the next number. -/
theorem div_le_roundHalfEven (num den : Nat) : num / den ≤ roundHalfEven num den := by
  simp only [roundHalfEven]
  split
  · exact Nat.le_refl _
  · split <;> omega

/-- Less than half a unit rounds to nothing. -/
theorem nearestRank_eq_zero (h : 2 * num < den) : nearestRank num den = 0 := by
  have hzero : num / den = 0 := Nat.div_eq_of_lt (by omega)
  have hrest : num % den = num := Nat.mod_eq_of_lt (by omega)
  simp [nearestRank, roundHalfEven, hzero, hrest, h]

/-! ### Magnitudes -/

/-- A rank is a number of doublings and a significand, which is full if there are any doublings. -/
theorem rank_eq (rank : Nat) :
    rank = doublings rank * 2 ^ 52 + significand rank ∧ significand rank < 2 ^ 53 ∧
      (doublings rank = 0 ∨ 2 ^ 52 ≤ significand rank) := by
  have hdiv := Nat.div_add_mod rank (2 ^ 52)
  have hmod := Nat.mod_lt rank (show 0 < 2 ^ 52 by decide)
  rw [significand, doublings, binadeSize_eq]
  omega

theorem units_eq (rank : Nat) : units rank = significand rank * 2 ^ doublings rank := rfl

theorem units_zero : units 0 = 0 := rfl

theorem doublings_of_le {d : Nat} (h : (d + 1) * 2 ^ 52 ≤ rank) : d ≤ doublings rank := by
  rw [doublings, binadeSize_eq]
  omega

/-- The magnitude with a full significand and some doublings. -/
theorem units_of_full {d m : Nat} (hlow : 2 ^ 52 ≤ m) (hhigh : m < 2 ^ 53) :
    units (d * 2 ^ 52 + m) = m * 2 ^ d := by
  have hd : doublings (d * 2 ^ 52 + m) = d := by
    rw [doublings, binadeSize_eq]
    omega
  have hm : significand (d * 2 ^ 52 + m) = m := by
    rw [significand, hd, binadeSize_eq]
    omega
  rw [units_eq, hd, hm]

/-- A number with a full significand rounds to itself. -/
theorem nearestRank_of_full {d m : Nat} (hlow : 2 ^ 52 ≤ m) (hhigh : m < 2 ^ 53)
    (hden : 0 < den) : nearestRank (m * 2 ^ d * den) den = d * 2 ^ 52 + m := by
  have hpos : 0 < 2 ^ d := Nat.two_pow_pos d
  have hlog : (m * 2 ^ d).log2 = 52 + d := by
    have hne : m * 2 ^ d ≠ 0 := Nat.mul_ne_zero (by omega) hpos.ne'
    refine (Nat.log2_eq_iff hne).mpr ⟨?_, ?_⟩
    · rw [Nat.pow_add]
      exact Nat.mul_le_mul_right _ hlow
    · rw [Nat.add_right_comm, Nat.pow_add]
      exact Nat.mul_lt_mul_of_pos_right hhigh hpos
  have hshift : 52 + d - 52 = d := by omega
  simp only [nearestRank, Nat.mul_div_cancel _ hden, hlog, hshift, binadeSize_eq]
  rw [Nat.mul_assoc, Nat.mul_comm (2 ^ d)]
  exact congrArg _ (roundHalfEven_mul_self m (Nat.mul_pos hden hpos))

/-- **A magnitude rounds to itself.** -/
theorem nearestRank_units (rank : Nat) (hden : 0 < den) :
    nearestRank (units rank * den) den = rank := by
  obtain ⟨hrank, hhigh, hlow⟩ := rank_eq rank
  rcases Nat.lt_or_ge (significand rank) (2 ^ 52) with hsmall | hfull
  · -- a significand that is not full has no doublings, and is rounded without a shift
    have hd : doublings rank = 0 := by omega
    have hunits : units rank = significand rank := by rw [units_eq, hd, Nat.pow_zero, Nat.mul_one]
    have hlog : (significand rank).log2 - 52 = 0 := by
      rcases Nat.eq_zero_or_pos (significand rank) with hzero | hpos
      · rw [hzero]
        rfl
      · have := (Nat.log2_lt hpos.ne').mpr hsmall
        omega
    simp only [nearestRank, hunits, Nat.mul_div_cancel _ hden, hlog]
    have hpow : Nat.pow 2 0 = 1 := rfl
    rw [hpow, Nat.mul_one, roundHalfEven_mul_self _ hden]
    omega
  · rw [units_eq, nearestRank_of_full hfull hhigh hden]
    exact hrank.symm

/-- Large numbers round to numbers with many doublings. -/
theorem le_doublings_nearestRank {d : Nat} (hden : 0 < den) (h : 2 ^ (d + 52) * den ≤ num) :
    d ≤ doublings (nearestRank num den) := by
  have hle : 2 ^ (d + 52) ≤ num / den := (Nat.le_div_iff_mul_le hden).mpr h
  have hne : num / den ≠ 0 := (Nat.lt_of_lt_of_le (Nat.two_pow_pos _) hle).ne'
  have hlog : d + 52 ≤ (num / den).log2 := (Nat.le_log2 hne).mpr hle
  obtain ⟨shift, hshift⟩ : ∃ shift, (num / den).log2 = shift + 52 :=
    ⟨(num / den).log2 - 52, by omega⟩
  have hround : 2 ^ 52 ≤ roundHalfEven num (den * 2 ^ shift) := by
    refine Nat.le_trans ?_ (div_le_roundHalfEven _ _)
    rw [← Nat.div_div_eq_div_mul, Nat.le_div_iff_mul_le (Nat.two_pow_pos _), ← Nat.pow_add,
      Nat.add_comm, ← hshift]
    exact Nat.log2_self_le hne
  refine Nat.le_trans (show d ≤ shift by omega) (doublings_of_le ?_)
  have hsub : shift + 52 - 52 = shift := by omega
  simp only [nearestRank, hshift, hsub, binadeSize_eq]
  rw [Nat.add_mul, Nat.one_mul]
  exact Nat.add_le_add_left hround _

/-- With 1074 doublings or more a magnitude is an integer. -/
theorem one_dvd_units_of_le (h : 1074 ≤ doublings rank) : one ∣ units rank := by
  obtain ⟨k, hk⟩ : ∃ k, k = 1074 := ⟨_, rfl⟩
  rw [units_eq, one_eq hk]
  exact Dvd.dvd.mul_left (Nat.pow_dvd_pow 2 (hk ▸ h)) _

/-- An integer rounds to an integer. -/
theorem one_dvd_units_nearestRank (n : Nat) : one ∣ units (nearestRank (n * one) 1) := by
  rcases Nat.eq_zero_or_pos n with rfl | hn
  · rw [Nat.zero_mul, nearestRank_eq_zero Nat.zero_lt_one, units_zero]
    exact Nat.dvd_zero one
  · rcases Nat.lt_or_ge n (2 ^ 52) with hsmall | hlarge
    · -- it has a full significand once it is doubled often enough
      have hlog : n.log2 < 52 := (Nat.log2_lt hn.ne').mpr hsmall
      have hlow := Nat.log2_self_le hn.ne'
      have hhigh : n < 2 ^ (n.log2 + 1) := Nat.lt_log2_self
      have hfull : 2 ^ 52 ≤ n * 2 ^ (52 - n.log2) := by
        calc 2 ^ 52 = 2 ^ n.log2 * 2 ^ (52 - n.log2) := by
              rw [← Nat.pow_add, Nat.add_sub_cancel' (by omega)]
          _ ≤ n * 2 ^ (52 - n.log2) := Nat.mul_le_mul_right _ hlow
      have hbound : n * 2 ^ (52 - n.log2) < 2 ^ 53 := by
        calc n * 2 ^ (52 - n.log2) < 2 ^ (n.log2 + 1) * 2 ^ (52 - n.log2) :=
              Nat.mul_lt_mul_of_pos_right hhigh (Nat.two_pow_pos _)
          _ = 2 ^ 53 := by rw [← Nat.pow_add]; congr 1; omega
      have hunits : n * one = n * 2 ^ (52 - n.log2) * 2 ^ (1022 + n.log2) * 1 := by
        rw [Nat.mul_one, Nat.mul_assoc, ← Nat.pow_add, one_eq (k := 52 - n.log2 + (1022 + n.log2))]
        omega
      rw [hunits, nearestRank_of_full hfull hbound Nat.zero_lt_one, units_of_full hfull hbound,
        ← Nat.mul_one (_ * _), ← hunits]
      exact Dvd.intro_left n rfl
    · obtain ⟨k, hk⟩ : ∃ k, k = 1074 := ⟨_, rfl⟩
      refine one_dvd_units_of_le (hk ▸ le_doublings_nearestRank Nat.zero_lt_one ?_)
      rw [Nat.mul_one, one_eq hk, Nat.add_comm, Nat.pow_add]
      exact Nat.mul_le_mul_right _ hlarge

/-! ### Decimal numbers -/

theorem quotientOf_of_nonpos (h : exponent ≤ 0) (coefficient : Nat) :
    quotientOf coefficient exponent = (coefficient, 10 ^ exponent.natAbs) := by
  rw [quotientOf]
  split
  · rfl
  · obtain rfl : exponent = 0 := by omega
    exact congrArg (·, 1) (Nat.mul_one coefficient)

theorem quotientOf_of_nonneg (h : 0 ≤ exponent) (coefficient : Nat) :
    quotientOf coefficient exponent = (coefficient * 10 ^ exponent.natAbs, 1) := by
  rw [quotientOf, if_neg (by omega)]
  rfl

theorem quotientOf_pos (coefficient : Nat) (exponent : Int) :
    0 < (quotientOf coefficient exponent).2 := by
  rw [quotientOf]
  split
  · exact Nat.pow_pos (by decide)
  · exact Nat.one_pos

/-- What is left out for its small exponent is less than half a unit. -/
theorem two_mul_lt_of_lt (h : exponent + coefficient.log2 < -331) :
    2 * (coefficient * one) < 10 ^ exponent.natAbs := by
  obtain ⟨k, hk⟩ : ∃ k, k = 1074 := ⟨_, rfl⟩
  obtain ⟨m, hm⟩ : ∃ m, m = 332 := ⟨_, rfl⟩
  have hlt : coefficient < 2 ^ (coefficient.log2 + 1) := Nat.lt_log2_self
  have hpow : 2 ^ (k + 2) ≤ 10 ^ m := by
    subst hk hm
    decide +kernel
  calc 2 * (coefficient * one) < 2 * (2 ^ (coefficient.log2 + 1) * one) :=
        Nat.mul_lt_mul_of_pos_left (Nat.mul_lt_mul_of_pos_right hlt
          (by rw [one_eq hk]; exact Nat.two_pow_pos k)) (by decide)
    _ = 2 ^ coefficient.log2 * 2 ^ (k + 2) := by
        rw [one_eq hk, ← Nat.pow_add, ← Nat.pow_add, ← Nat.pow_succ']
        congr 1
        omega
    _ ≤ 10 ^ coefficient.log2 * 10 ^ m :=
        Nat.mul_le_mul (Nat.pow_le_pow_left (by decide) _) hpow
    _ = 10 ^ (coefficient.log2 + m) := (Nat.pow_add ..).symm
    _ ≤ 10 ^ exponent.natAbs := Nat.pow_le_pow_right (by decide) (by omega)

/-- A decimal number rounds as the quotient that it is. -/
theorem rankOfDecimal_eq (h : exponent ≤ 310) (coefficient : Nat) :
    rankOfDecimal coefficient exponent =
      nearestRank ((quotientOf coefficient exponent).1 * one)
        (quotientOf coefficient exponent).2 := by
  rw [rankOfDecimal]
  split
  · rename_i hzero
    subst hzero
    have hnum : (quotientOf 0 exponent).1 = 0 := by
      rw [quotientOf]
      split
      · rfl
      · exact Nat.zero_mul _
    rw [hnum, Nat.zero_mul, nearestRank_eq_zero (quotientOf_pos 0 exponent)]
  · rw [if_neg (by omega)]
    split
    · rename_i hsmall
      rw [quotientOf_of_nonpos (by omega), nearestRank_eq_zero (two_mul_lt_of_lt hsmall)]
    · rfl

/-- A zero more behind the digits makes up for an exponent less by one. -/
theorem rankOfDecimal_ten_mul (h : exponent + 1 ≤ 310) (coefficient : Nat) :
    rankOfDecimal (10 * coefficient) exponent = rankOfDecimal coefficient (exponent + 1) := by
  rw [rankOfDecimal_eq (by omega), rankOfDecimal_eq h]
  rcases Int.lt_or_le exponent 0 with hneg | hnonneg
  · have hpow : 10 ^ exponent.natAbs = 10 * 10 ^ (exponent + 1).natAbs := by
      rw [← Nat.pow_succ']
      congr 1
      omega
    rw [quotientOf_of_nonpos (by omega), quotientOf_of_nonpos (by omega), hpow, Nat.mul_assoc,
      nearestRank_mul (by decide)]
  · have hpow : 10 ^ (exponent + 1).natAbs = 10 * 10 ^ exponent.natAbs := by
      rw [← Nat.pow_succ']
      congr 1
      omega
    have hnum : 10 * coefficient * 10 ^ exponent.natAbs =
        coefficient * 10 ^ (exponent + 1).natAbs := by
      rw [hpow, Nat.mul_assoc, Nat.mul_left_comm]
    rw [quotientOf_of_nonneg hnonneg, quotientOf_of_nonneg (by omega), hnum]

/-- An integer in decimal digits rounds to an integer. -/
theorem one_dvd_units_of_nonneg (h : 0 ≤ exponent) (hle : exponent ≤ 310) (coefficient : Nat) :
    one ∣ units (rankOfDecimal coefficient exponent) := by
  rw [rankOfDecimal_eq hle, quotientOf_of_nonneg h]
  exact one_dvd_units_nearestRank _

/-- A decimal number of `2 ^ 52` or more rounds to an integer. -/
theorem one_dvd_units_of_large (h : exponent ≤ 0)
    (hlarge : 2 ^ 52 * 10 ^ exponent.natAbs ≤ coefficient) :
    one ∣ units (rankOfDecimal coefficient exponent) := by
  obtain ⟨k, hk⟩ : ∃ k, k = 1074 := ⟨_, rfl⟩
  rw [rankOfDecimal_eq (by omega), quotientOf_of_nonpos h]
  refine one_dvd_units_of_le (hk ▸ le_doublings_nearestRank (Nat.pow_pos (by decide)) ?_)
  rw [one_eq hk, Nat.add_comm, Nat.pow_add, Nat.mul_right_comm]
  exact Nat.mul_le_mul_right _ hlarge

end GraphQuery.Binary64
