import GraphQuery.Proofs.Numerals

/-!
# Proofs — numbers are read back

A numeral is read as the digits before and behind its point and its exponent (`Decimal.read?_whole`,
`Decimal.read?_point`).  Plainly written digits are read with the zeros that stand for their
exponent (`Decimal.read?_writePlain`), and digits with an exponent as they are
(`Decimal.read?_writeScientific`).  Either way they round to the same magnitude.

**So the text of a number is read as that number** (`read?_writeNumber`), zero without its sign.
-/

namespace GraphQuery

namespace Decimal

open NumberStyle

variable {negative : Bool} {sign ds whole fraction rest tail : List Char} {exponent : Int}

/-! ### Parts of a numeral -/

/-- No digit is taken for a sign. -/
theorem readSign_append (hsign : sign = if negative then ['-'] else [])
    (hds : ∀ c ∈ ds, c.isDigit = true) (hne : ds ≠ []) (rest : List Char) :
    readSign (sign ++ (ds ++ rest)) = (negative, ds ++ rest) := by
  subst hsign
  cases negative with
  | true => rfl
  | false =>
      obtain ⟨d, ds, rfl⟩ := List.exists_cons_of_ne_nil hne
      have hd : d.isDigit = true := hds d (List.mem_cons_self ..)
      show readSign (d :: (ds ++ rest)) = (false, d :: (ds ++ rest))
      rw [readSign]
      · rintro cs h
        obtain ⟨rfl, -⟩ := List.cons.inj h
        cases hd
      · rintro cs h
        obtain ⟨rfl, -⟩ := List.cons.inj h
        cases hd

/-- What is read as an exponent is neither a digit nor a point at its front. -/
theorem endsDigits_of_readExponent? (h : readExponent? tail = some exponent) :
    EndsDigits tail ∧ readFraction tail = ([], tail) := by
  cases tail with
  | nil => exact ⟨endsDigits_nil, rfl⟩
  | cons c cs =>
      rw [readExponent?] at h
      split at h
      · rename_i hmark
        rcases hmark with rfl | rfl
        · exact ⟨endsDigits_cons rfl, rfl⟩
        · exact ⟨endsDigits_cons rfl, rfl⟩
      · cases h

/-- A numeral without a point. -/
theorem read?_whole (hsign : sign = if negative then ['-'] else [])
    (hwhole : ∀ c ∈ whole, c.isDigit = true) (hne : whole ≠ [])
    (htail : readExponent? tail = some exponent) :
    read? (sign ++ (whole ++ tail)) = some ⟨negative, ofDigits whole, exponent⟩ := by
  obtain ⟨hends, hfraction⟩ := endsDigits_of_readExponent? htail
  have hempty : whole.isEmpty = false := by simpa using hne
  simp [read?, readSign_append hsign hwhole hne, spanDigits_of_endsDigits hwhole hends, hfraction,
    htail, hempty, ofParts]

/-- A numeral with a point. -/
theorem read?_point (hsign : sign = if negative then ['-'] else [])
    (hwhole : ∀ c ∈ whole, c.isDigit = true) (hne : whole ≠ [])
    (hfraction : ∀ c ∈ fraction, c.isDigit = true) (htail : readExponent? tail = some exponent) :
    read? (sign ++ (whole ++ '.' :: (fraction ++ tail)))
      = some ⟨negative, ofDigits (whole ++ fraction), exponent - fraction.length⟩ := by
  obtain ⟨hends, -⟩ := endsDigits_of_readExponent? htail
  have hempty : whole.isEmpty = false := by simpa using hne
  have hpoint : EndsDigits ('.' :: (fraction ++ tail)) := endsDigits_cons rfl
  simp [read?, readSign_append hsign hwhole hne, spanDigits_of_endsDigits hwhole hpoint,
    readFraction, spanDigits_of_endsDigits hfraction hends, htail, hempty, ofParts]

/-! ### Written digits -/

theorem ofDigits_zeros_append (k : Nat) (ds : List Char) :
    ofDigits (List.replicate k '0' ++ ds) = ofDigits ds := by
  rw [ofDigits, Nat.ofDigitChars_append, Nat.ofDigitChars_replicate_zero, Nat.mul_zero, ofDigits]

theorem ofDigits_append_zeros (ds : List Char) (k : Nat) :
    ofDigits (ds ++ List.replicate k '0') = ofDigits ds * 10 ^ k := by
  rw [ofDigits, Nat.ofDigitChars_append, Nat.ofDigitChars_replicate_zero, Nat.mul_comm, ofDigits]

/-- Plainly written digits are read with the zeros that stand for their exponent. -/
theorem read?_writePlain (hsign : sign = if negative then ['-'] else [])
    (hds : ∀ c ∈ ds, c.isDigit = true) (hne : ds ≠ []) :
    read? (sign ++ writePlain [] ds exponent) =
      some (if 0 ≤ exponent then ⟨negative, ofDigits ds * 10 ^ exponent.toNat, 0⟩
        else ⟨negative, ofDigits ds, exponent⟩) := by
  have hzeros : ∀ k, ∀ c ∈ List.replicate k '0', c.isDigit = true := by
    intro k c hc
    rw [List.eq_of_mem_replicate hc]
    rfl
  have hend : readExponent? [] = some 0 := rfl
  rw [writePlain]
  split
  · have hwhole : ∀ c ∈ ds ++ List.replicate exponent.toNat '0', c.isDigit = true :=
      List.forall_mem_append.mpr ⟨hds, hzeros _⟩
    rw [read?_whole hsign hwhole (List.append_ne_nil_of_left_ne_nil hne _) hend,
      ofDigits_append_zeros]
  · rename_i hnegative
    split
    · have hzero : ∀ c ∈ ['0'], c.isDigit = true := List.forall_mem_singleton.mpr rfl
      have hfraction := List.forall_mem_append.mpr ⟨hzeros (exponent.natAbs - ds.length), hds⟩
      have hread := read?_point hsign hzero (List.cons_ne_nil _ _) hfraction hend
      have hdigits : ofDigits (['0'] ++ (List.replicate (exponent.natAbs - ds.length) '0' ++ ds))
          = ofDigits ds :=
        (ofDigits_zeros_append 1 _).trans (ofDigits_zeros_append _ ds)
      have hlength : (0 : Int) - (List.replicate (exponent.natAbs - ds.length) '0' ++ ds).length
          = exponent := by
        rw [List.length_append, List.length_replicate]
        omega
      rw [hdigits, hlength, List.append_nil] at hread
      exact hread
    · have hwhole : ∀ c ∈ ds.take (ds.length - exponent.natAbs), c.isDigit = true :=
        fun c hc => hds c (List.mem_of_mem_take hc)
      have hfraction : ∀ c ∈ ds.drop (ds.length - exponent.natAbs), c.isDigit = true :=
        fun c hc => hds c (List.mem_of_mem_drop hc)
      have hne' : ds.take (ds.length - exponent.natAbs) ≠ [] := by
        rw [Ne, List.take_eq_nil_iff, not_or]
        exact ⟨by omega, hne⟩
      have hread := read?_point hsign hwhole hne' hfraction hend
      have hlength : (0 : Int) - (ds.drop (ds.length - exponent.natAbs)).length = exponent := by
        rw [List.length_drop]
        omega
      rw [List.take_append_drop, hlength, List.append_nil] at hread
      exact hread

/-- An exponent is read back. -/
theorem readExponent?_writeExponent (exponent : Int) :
    readExponent? (writeExponent exponent) = some exponent := by
  have hspan := spanDigits_of_endsDigits (isDigit_toDigits exponent.natAbs) endsDigits_nil
  have hvalue : ofDigits (Nat.toDigits 10 exponent.natAbs) = exponent.natAbs :=
    Nat.ofDigitChars_ten_toDigits
  have hempty : (Nat.toDigits 10 exponent.natAbs).isEmpty = false :=
    List.isEmpty_eq_false_iff.mpr Nat.toDigits_ne_nil
  rw [List.append_nil] at hspan
  rw [writeExponent, readExponent?, if_pos (.inl rfl)]
  by_cases hneg : exponent < 0
  · have habs : -(exponent.natAbs : Int) = exponent := by omega
    simp only [if_pos hneg, readSign, hspan, hempty, hvalue, habs]
    rfl
  · have habs : (exponent.natAbs : Int) = exponent := by omega
    simp only [if_neg hneg, readSign, hspan, hempty, hvalue, habs]
    rfl

/-- Digits written with an exponent are read as they are. -/
theorem read?_writeScientific (hsign : sign = if negative then ['-'] else [])
    (hds : ∀ c ∈ ds, c.isDigit = true) (hne : ds ≠ []) :
    read? (sign ++ writeScientific ds exponent) = some ⟨negative, ofDigits ds, exponent⟩ := by
  have hexponent := readExponent?_writeExponent (leadingExponent ds exponent)
  obtain ⟨d, ds, rfl⟩ := List.exists_cons_of_ne_nil hne
  have hfirst : ∀ c ∈ [d], c.isDigit = true := by
    rintro c hc
    exact hds c (List.mem_singleton.mp hc ▸ List.mem_cons_self ..)
  rw [writeScientific]
  cases ds with
  | nil =>
      have hleading : leadingExponent [d] exponent = exponent := by
        rw [leadingExponent, List.length_singleton]
        omega
      have hread := read?_whole hsign hfirst (List.cons_ne_nil _ _) hexponent
      rw [hleading] at hread ⊢
      exact hread
  | cons d' ds =>
      have hrest : ∀ c ∈ d' :: ds, c.isDigit = true :=
        fun c hc => hds c (List.mem_cons_of_mem d hc)
      have hleading : leadingExponent (d :: d' :: ds) exponent - (d' :: ds).length = exponent := by
        rw [leadingExponent, List.length_cons]
        omega
      have hread := read?_point hsign hfirst (List.cons_ne_nil _ _) hrest hexponent
      rw [hleading] at hread
      simpa using hread

end Decimal

namespace Binary64

open NumberStyle

/-- Zeros behind the digits stand for an exponent. -/
theorem rankOfDecimal_mul_pow (coefficient : Nat) {exponent : Int} (h : 0 ≤ exponent)
    (hle : exponent ≤ 310) :
    rankOfDecimal (coefficient * 10 ^ exponent.toNat) 0 = rankOfDecimal coefficient exponent := by
  have habs : exponent.natAbs = exponent.toNat := by omega
  rw [rankOfDecimal_eq (by decide), rankOfDecimal_eq hle, quotientOf_of_nonpos (Int.le_refl 0),
    quotientOf_of_nonneg h, habs]
  rfl

theorem ofDecimal?_eq_some {d : Decimal} {x : Binary64} (hnegative : d.negative = x.negative)
    (hrank : rankOfDecimal d.coefficient d.exponent = x.rank) : ofDecimal? d = some x := by
  have hlt : rankOfDecimal d.coefficient d.exponent < rankLimit := hrank ▸ x.rank_lt
  rw [ofDecimal?, dif_pos hlt]
  obtain ⟨negative, rank, hx⟩ := x
  simp_all

/-- However the digits of a number are written, what is read rounds to the same magnitude. -/
theorem exists_read?_writeDigits (style : NumberStyle) (hend : style.wholeEnd = [])
    {negative : Bool} {sign : List Char} (hsign : sign = if negative then ['-'] else []) (n : Nat)
    {exponent : Int} (hle : exponent ≤ 310) :
    ∃ d, Decimal.read? (sign ++ style.writeDigits (Nat.toDigits 10 n) exponent) = some d ∧
      d.negative = negative ∧
      rankOfDecimal d.coefficient d.exponent = rankOfDecimal n exponent := by
  have hds := Decimal.isDigit_toDigits n
  have hne : Nat.toDigits 10 n ≠ [] := Nat.toDigits_ne_nil
  have hvalue : Decimal.ofDigits (Nat.toDigits 10 n) = n := Nat.ofDigitChars_ten_toDigits
  simp only [writeDigits, hend]
  split
  · rw [Decimal.read?_writePlain hsign hds hne, hvalue]
    split
    · rename_i hnonneg
      exact ⟨_, rfl, rfl, rankOfDecimal_mul_pow n hnonneg hle⟩
    · exact ⟨_, rfl, rfl, rfl⟩
  · rw [Decimal.read?_writeScientific hsign hds hne, hvalue]
    exact ⟨_, rfl, rfl, rfl⟩

/-- The number, zero without its sign. -/
def withoutZeroSign (x : Binary64) : Binary64 :=
  if x.rank = 0 then .zero false else x

theorem withoutZeroSign_of_ne_zero {x : Binary64} (h : x.rank ≠ 0) : x.withoutZeroSign = x :=
  if_neg h

end Binary64

/-- Zero is written without its sign. -/
theorem writeNumber_withoutZeroSign (x : Binary64) :
    writeNumber x.withoutZeroSign = writeNumber x := by
  rw [Binary64.withoutZeroSign]
  split
  · rename_i hrank
    rw [writeNumber_of_eq_zero rfl, writeNumber_of_eq_zero hrank]
  · rfl

/-- **The text of a number is read as that number**, zero without its sign. -/
theorem read?_writeNumber (x : Binary64) :
    Binary64.read? (writeNumber x) = some x.withoutZeroSign := by
  rcases Decidable.em (x.rank = 0) with hrank | hrank
  · rw [writeNumber_of_eq_zero hrank, Binary64.withoutZeroSign, if_pos hrank]
    decide
  · obtain ⟨d, hread, hnegative, hrank'⟩ :=
      Binary64.exists_read?_writeDigits queryStyle rfl rfl (x.shortest queryStyle.tie).coefficient
        (Binary64.shortest_exponent_le queryStyle.tie x)
    rw [writeNumber_of_ne_zero hrank, Binary64.withoutZeroSign_of_ne_zero hrank, Binary64.read?,
      hread, Option.bind_some]
    exact Binary64.ofDecimal?_eq_some hnegative
      (hrank'.trans (Binary64.rankOfDecimal_shortest queryStyle.tie x))

end GraphQuery
