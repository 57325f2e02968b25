import GraphQuery.Proofs.Grammar
import GraphQuery.Proofs.ReadBack
import GraphQuery.Proofs.Shortest

/-!
# Proofs — numbers are numerals

The digits that stand for a magnitude other than zero are those of a positive number that ten does
not divide.  So they neither start nor end with zero, and neither way of writing them, with a point
or with an exponent, puts a zero in front that does not stand alone or a zero at the end of the
fraction.

**The text of a number is canonical** (`writeNumber_mem_canonical`), and so it is a number of the
grammar (`writeNumber_mem_number`).
-/

namespace GraphQuery

namespace NumberStyle

open Grammar
open scoped Computability

/-! ### Digits in the grammar -/

variable {n : Nat} {ds : List Char} {exponent : Int}

/-- Digits that do not start with zero. -/
structure Leads (ds : List Char) : Prop where
  isDigit : ∀ c ∈ ds, c.isDigit = true
  ne_nil : ds ≠ []
  head_ne : ds.head? ≠ some '0'

/-- The digits of a number start with no zero, unless it is zero. -/
theorem leads_toDigits (h : n ≠ 0) : Leads (Nat.toDigits 10 n) where
  isDigit := Decimal.isDigit_toDigits n
  ne_nil := Nat.toDigits_ne_nil
  head_ne := Json.head?_toDigits_ne_zero (Nat.pos_of_ne_zero h)

/-- Digits of a number that ten does not divide do not end in zero. -/
theorem getLast?_toDigits_ne (h : ¬ 10 ∣ n) : (Nat.toDigits 10 n).getLast? ≠ some '0' := by
  have hdigit : ∀ d < 10, d ≠ 0 → Nat.digitChar d ≠ '0' := by decide
  have hrest : n % 10 ≠ 0 := fun hzero => h (Nat.dvd_of_mod_eq_zero hzero)
  have hlast : (Nat.toDigits 10 n).getLast? = some (Nat.digitChar (n % 10)) := by
    by_cases hn : n < 10
    · rw [Nat.toDigits_of_lt_base hn, Nat.mod_eq_of_lt hn]
      rfl
    · rw [Nat.toDigits_of_base_le (by decide) (by omega), List.getLast?_concat]
  rw [hlast]
  exact fun hzero => hdigit _ (Nat.mod_lt n (by decide)) hrest (Option.some.inj hzero)

theorem Leads.append_zeros (h : Leads ds) (k : Nat) : Leads (ds ++ List.replicate k '0') where
  isDigit c hc := by
    rcases List.mem_append.mp hc with hc | hc
    · exact h.isDigit c hc
    · rw [List.eq_of_mem_replicate hc]
      rfl
  ne_nil := List.append_ne_nil_of_left_ne_nil h.ne_nil _
  head_ne := by
    rw [List.head?_append_of_ne_nil _ h.ne_nil]
    exact h.head_ne

/-- Some of the first digits start with no zero either. -/
theorem Leads.take (h : Leads ds) {k : Nat} (hk : k ≠ 0) : Leads (ds.take k) where
  isDigit c hc := h.isDigit c (List.mem_of_mem_take hc)
  ne_nil hnil := (List.take_eq_nil_iff.mp hnil).elim hk h.ne_nil
  head_ne := by
    rw [List.head?_take, if_neg hk]
    exact h.head_ne

/-- Such digits are those of a positive number in the grammar. -/
theorem Leads.mem_positive (h : Leads ds) : ds ∈ positive := by
  obtain ⟨hdigit, hne, hhead⟩ := h
  obtain ⟨d, ds, rfl⟩ := List.exists_cons_of_ne_nil hne
  have hfirst : [d] ∈ char fun c => c.isDigit && c ≠ '0' := by
    refine ⟨d, Bool.and_eq_true_iff.mpr ⟨hdigit d (List.mem_cons_self ..), ?_⟩, rfl⟩
    exact decide_eq_true fun h => hhead (congrArg some h)
  exact Language.append_mem_mul hfirst
    (mem_kstar_char fun c hc => hdigit c (List.mem_cons_of_mem d hc))

/-! ### Numbers in the grammar -/

theorem trimmedFraction_mem (hdigit : ∀ c ∈ ds, c.isDigit = true) (hne : ds ≠ [])
    (hlast : ds.getLast? ≠ some '0') : '.' :: ds ∈ trimmedFraction := by
  obtain ⟨ds, d, rfl⟩ := (List.eq_nil_or_concat' ds).resolve_left hne
  rw [List.getLast?_concat] at hlast
  have hend : [d] ∈ char fun c => c.isDigit && c ≠ '0' := by
    refine ⟨d, Bool.and_eq_true_iff.mpr ⟨hdigit d List.mem_concat_self, ?_⟩, rfl⟩
    exact decide_eq_true fun h => hlast (congrArg some h)
  have hbegin : ds ∈ (char Char.isDigit)∗ :=
    mem_kstar_char fun c hc => hdigit c (List.mem_append_left [d] hc)
  exact Language.append_mem_mul (Language.append_mem_mul (toList_mem_token ".") hbegin) hend

/-- Plainly written digits have no exponent. -/
theorem writePlain_mem (h : Leads ds) (hlast : ds.getLast? ≠ some '0') :
    writePlain [] ds exponent ∈ trimmed := by
  rw [writePlain]
  split
  · rw [List.append_nil, ← List.append_nil (ds ++ _)]
    exact .inl (Language.append_mem_mul (h.append_zeros _).mem_positive nil_mem_optional)
  · split
    · refine .inr (Language.append_mem_mul (toList_mem_token "0")
        (trimmedFraction_mem (fun c hc => ?_) ?_ ?_))
      · rcases List.mem_append.mp hc with hc | hc
        · rw [List.eq_of_mem_replicate hc]
          rfl
        · exact h.isDigit c hc
      · exact List.append_ne_nil_of_right_ne_nil _ h.ne_nil
      · rwa [List.getLast?_append_of_ne_nil _ h.ne_nil]
    · rename_i hnegative hlong
      have hwhole : ds.length - exponent.natAbs ≠ 0 := by omega
      have hfraction : ds.drop (ds.length - exponent.natAbs) ≠ [] := by
        rw [Ne, List.drop_eq_nil_iff]
        omega
      refine .inl (Language.append_mem_mul (h.take hwhole).mem_positive
        (mem_optional (trimmedFraction_mem ?_ hfraction ?_)))
      · exact fun c hc => h.isDigit c (List.mem_of_mem_drop hc)
      · rwa [List.getLast?_drop, if_neg (by omega)]

/-- An exponent that is not zero is written with a sign and its digits. -/
theorem writeExponent_mem (h : exponent ≠ 0) : writeExponent exponent ∈ Grammar.exponent := by
  have hsign : [if exponent < 0 then '-' else '+'] ∈ token "+" + token "-" := by
    split
    · exact .inr (toList_mem_token "-")
    · exact .inl (toList_mem_token "+")
  exact Language.append_mem_mul (Language.append_mem_mul (toList_mem_token "e") hsign)
    (leads_toDigits (Int.natAbs_ne_zero.mpr h)).mem_positive

theorem writeScientific_mem (h : Leads ds) (hlast : ds.getLast? ≠ some '0')
    (hexponent : leadingExponent ds exponent ≠ 0) :
    writeScientific ds exponent ∈ trimmed * optional Grammar.exponent := by
  have hfraction :
      (if ds.length ≤ 1 then [] else '.' :: ds.drop 1) ∈ optional trimmedFraction := by
    split
    · exact nil_mem_optional
    · rename_i hlong
      refine mem_optional (trimmedFraction_mem ?_ ?_ ?_)
      · exact fun c hc => h.isDigit c (List.mem_of_mem_drop hc)
      · rwa [Ne, List.drop_eq_nil_iff]
      · rwa [List.getLast?_drop, if_neg hlong]
  exact Language.append_mem_mul
    (.inl (Language.append_mem_mul (h.take Nat.one_ne_zero).mem_positive hfraction))
    (mem_optional (writeExponent_mem hexponent))

/-- Digits are written with an exponent only if it is not zero. -/
theorem writeDigits_mem {style : NumberStyle} (h : Leads ds) (hlast : ds.getLast? ≠ some '0')
    (hend : style.wholeEnd = []) (hfrom : style.plainFrom ≤ 0) (hbelow : 0 < style.plainBelow) :
    style.writeDigits ds exponent ∈ trimmed * optional Grammar.exponent := by
  simp only [writeDigits, hend]
  split
  · rw [← List.append_nil (writePlain [] ds exponent)]
    exact Language.append_mem_mul (writePlain_mem h hlast) nil_mem_optional
  · refine writeScientific_mem h hlast ?_
    omega

end NumberStyle

open Grammar NumberStyle

/-- Zero is written without a sign. -/
theorem writeNumber_of_eq_zero {x : Binary64} (h : x.rank = 0) : writeNumber x = ['0'] := by
  rw [writeNumber, NumberStyle.write, if_pos h]
  split <;> rfl

/-- Any other number is written as its sign and the fewest digits that read back. -/
theorem writeNumber_of_ne_zero {x : Binary64} (h : x.rank ≠ 0) :
    writeNumber x = (if x.negative then ['-'] else [])
      ++ queryStyle.writeDigits (Nat.toDigits 10 (x.shortest queryStyle.tie).coefficient)
        (x.shortest queryStyle.tie).exponent := by
  rw [writeNumber, NumberStyle.write, if_neg h]

/-- **The text of a number is canonical.** -/
theorem writeNumber_mem_canonical (x : Binary64) : writeNumber x ∈ canonical := by
  rcases Decidable.em (x.rank = 0) with hrank | hrank
  · rw [writeNumber_of_eq_zero hrank]
    exact .inl (toList_mem_token "0")
  · have hdigits := leads_toDigits (Binary64.shortest_coefficient_ne_zero queryStyle.tie hrank)
    have hlast := getLast?_toDigits_ne (Binary64.not_ten_dvd_shortest queryStyle.tie hrank)
    rw [writeNumber_of_ne_zero hrank]
    refine .inr (Language.append_mem_mul ?_
      (writeDigits_mem hdigits hlast rfl (by decide) (by decide)))
    split
    · exact mem_optional (toList_mem_token "-")
    · exact nil_mem_optional

/-- The text of a number is a number of the grammar. -/
theorem writeNumber_mem_number (x : Binary64) : writeNumber x ∈ number :=
  canonical_le_number (writeNumber_mem_canonical x)

end GraphQuery
