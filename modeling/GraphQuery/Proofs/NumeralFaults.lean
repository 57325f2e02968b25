import GraphQuery.Proofs.Positions

/-!
# Proofs — what is wrong with a numeral

`Text.Explains` says of each fault which texts have it, without saying how a text is read: a text is
empty, or a numeral that is too large stands at its start, or it is no numeral for another reason.
**A text that is not read has the fault that is reported** (`Text.readUnsigned_eq_error`).  So a text
is refused exactly if it writes no number below the bound (`Text.exists_fault_iff`).
-/

namespace GraphQuery.Text

/-- What is wrong with a text that writes no number below a bound. -/
def Explains (bound : Nat) (cs : List Char) : UnsignedFault → Prop
  | .empty => cs = []
  | .tooLarge => ∃ front rest n, cs = front ++ rest ∧ WritesNumber front n ∧ bound ≤ n
  | .invalidDigit =>
    cs ≠ [] ∧ (∀ n, ¬ WritesNumber cs n) ∧
      ∀ front rest n, cs = front ++ rest → WritesNumber front n → n < bound

variable {bound n : Nat} {cs ds : List Char}

/-! ### Digits -/

/-- Digits at the start are read first, and they may be too many whatever follows. -/
theorem readDigits_append (hn : n < bound) (hds : ∀ c ∈ ds, c.isDigit = true) (rest : List Char) :
    readDigits bound n (ds ++ rest)
      = if Nat.ofDigitChars 10 ds n < bound then
          readDigits bound (Nat.ofDigitChars 10 ds n) rest
        else .error .tooLarge := by
  induction ds generalizing n with
  | nil => rw [List.nil_append, Nat.ofDigitChars_nil, if_pos hn]
  | cons c ds ih =>
      obtain ⟨hc, hds⟩ := List.forall_mem_cons.mp hds
      rw [List.cons_append, readDigits, if_pos hc, Nat.ofDigitChars_cons]
      by_cases hlt : 10 * n + digitValue c < bound
      · rw [if_pos hlt]
        exact ih hlt hds
      · -- more digits make no number smaller
        have hle := le_ofDigitChars ds (10 * n + digitValue c)
        rw [if_neg hlt, if_neg]
        exact fun h => hlt (Nat.lt_of_le_of_lt hle h)

/-- What is too large is a number that digits at the start write. -/
theorem exists_of_readDigits_eq_tooLarge (hn : n < bound)
    (h : readDigits bound n cs = .error .tooLarge) :
    ∃ ds rest, cs = ds ++ rest ∧ (∀ c ∈ ds, c.isDigit = true) ∧
      bound ≤ Nat.ofDigitChars 10 ds n := by
  induction cs generalizing n with
  | nil => cases h
  | cons c cs ih =>
      rw [readDigits] at h
      split at h
      · rename_i hc
        split at h
        · rename_i hlt
          obtain ⟨ds, rest, rfl, hds, hle⟩ := ih hlt h
          refine ⟨c :: ds, rest, rfl, List.forall_mem_cons.mpr ⟨hc, hds⟩, ?_⟩
          rw [Nat.ofDigitChars_cons]
          exact hle
        · rename_i hlt
          refine ⟨[c], cs, rfl, List.forall_mem_singleton.mpr hc, ?_⟩
          rw [Nat.ofDigitChars_cons, Nat.ofDigitChars_nil]
          exact Nat.not_lt.mp hlt
      · cases h

theorem readDigits_ne_empty : readDigits bound n cs ≠ .error .empty := by
  induction cs generalizing n with
  | nil => rintro ⟨⟩
  | cons c cs ih =>
      rw [readDigits]
      split
      · split
        · exact ih
        · rintro ⟨⟩
      · rintro ⟨⟩

/-! ### Numerals -/

/-- A text that starts with a digit is read digit by digit, and so it is behind a plus sign. -/
theorem readUnsigned_digits (bound : Nat) (hne : ds ≠ []) (hds : ∀ c ∈ ds, c.isDigit = true)
    (rest : List Char) :
    readUnsigned bound (ds ++ rest) = readDigits bound 0 (ds ++ rest) ∧
      readUnsigned bound ('+' :: (ds ++ rest)) = readDigits bound 0 (ds ++ rest) := by
  obtain ⟨d, ds, rfl⟩ := List.exists_cons_of_ne_nil hne
  have hd : d ≠ '+' := by
    rintro rfl
    exact absurd (hds _ (List.mem_cons_self ..)) (by decide)
  constructor <;> simp [readUnsigned, hd]

/-- A numeral that is too large is so whatever follows it. -/
theorem readUnsigned_eq_tooLarge_of_front {front : List Char} (hbound : 0 < bound)
    (hfront : WritesNumber front n) (hle : bound ≤ n) (rest : List Char) :
    readUnsigned bound (front ++ rest) = .error .tooLarge := by
  obtain ⟨ds, hcs, hne, hds, rfl⟩ := hfront
  obtain ⟨hplain, hsign⟩ := readUnsigned_digits bound hne hds rest
  have hread : readDigits bound 0 (ds ++ rest) = .error .tooLarge := by
    rw [readDigits_append hbound hds, if_neg (Nat.not_lt.mpr hle)]
  rcases hcs with rfl | rfl
  · exact hplain.trans hread
  · exact hsign.trans hread

/-- What is too large is a numeral at the start. -/
theorem exists_front_of_readUnsigned (hbound : 0 < bound)
    (h : readUnsigned bound cs = .error .tooLarge) :
    ∃ front rest n, cs = front ++ rest ∧ WritesNumber front n ∧ bound ≤ n := by
  have hne : ∀ {ds : List Char}, bound ≤ Nat.ofDigitChars 10 ds 0 → ds ≠ [] := by
    rintro ds hle rfl
    exact absurd hle (Nat.not_le.mpr hbound)
  rw [readUnsigned.eq_def] at h
  split at h
  · cases h
  · cases h
  · obtain ⟨ds, rest, rfl, hds, hle⟩ := exists_of_readDigits_eq_tooLarge hbound h
    exact ⟨'+' :: ds, rest, _, rfl, ⟨ds, .inr rfl, hne hle, hds, rfl⟩, hle⟩
  · obtain ⟨ds, rest, hcs, hds, hle⟩ := exists_of_readDigits_eq_tooLarge hbound h
    exact ⟨ds, rest, _, hcs, ⟨ds, .inl rfl, hne hle, hds, rfl⟩, hle⟩

theorem readUnsigned_eq_empty : readUnsigned bound cs = .error .empty ↔ cs = [] := by
  constructor
  · intro h
    rw [readUnsigned.eq_def] at h
    split at h
    · rfl
    · cases h
    · exact absurd h readDigits_ne_empty
    · exact absurd h readDigits_ne_empty
  · rintro rfl
    rfl

theorem readUnsigned_eq_tooLarge (hbound : 0 < bound) :
    readUnsigned bound cs = .error .tooLarge ↔ Explains bound cs .tooLarge := by
  constructor
  · exact exists_front_of_readUnsigned hbound
  · rintro ⟨front, rest, n, rfl, hfront, hle⟩
    exact readUnsigned_eq_tooLarge_of_front hbound hfront hle rest

/-- **A text that is not read** has the fault that is reported, and no other one. -/
theorem readUnsigned_eq_error (hbound : 0 < bound) {fault : UnsignedFault} :
    readUnsigned bound cs = .error fault ↔ Explains bound cs fault := by
  cases fault with
  | empty => exact readUnsigned_eq_empty
  | tooLarge => exact readUnsigned_eq_tooLarge hbound
  | invalidDigit =>
      have hlarge : readUnsigned bound cs = .error .tooLarge ↔ Explains bound cs .tooLarge :=
        readUnsigned_eq_tooLarge hbound
      constructor
      · intro h
        rw [h] at hlarge
        have hfront : ∀ front rest n, cs = front ++ rest → WritesNumber front n → n < bound := by
          intro front rest n hcs hwrites
          refine Nat.lt_of_not_le fun hle => ?_
          cases hlarge.mpr ⟨front, rest, n, hcs, hwrites, hle⟩
        refine ⟨?_, fun n hwrites => ?_, hfront⟩
        · rintro rfl
          cases h
        · have hlt : n < bound := hfront cs [] n (List.append_nil cs).symm hwrites
          rw [readUnsigned_eq_ok.mpr ⟨hwrites, hlt⟩] at h
          cases h
      · -- nothing else is left for the reader to say
        rintro ⟨hne, hnone, hfront⟩
        cases hread : readUnsigned bound cs with
        | ok v => exact absurd (readUnsigned_eq_ok.mp hread).1 (hnone v)
        | error fault =>
            cases fault with
            | empty => exact absurd (readUnsigned_eq_empty.mp hread) hne
            | invalidDigit => rfl
            | tooLarge =>
                obtain ⟨front, rest, n, hcs, hwrites, hle⟩ := hlarge.mp hread
                exact absurd (hfront front rest n hcs hwrites) (Nat.not_lt.mpr hle)

/-- **A text is refused** if it writes no number below the bound. -/
theorem exists_fault_iff (hbound : 0 < bound) :
    (∃ fault, Explains bound cs fault) ↔ ∀ n, WritesNumber cs n → bound ≤ n := by
  constructor
  · rintro ⟨fault, hfault⟩ n hwrites
    refine Nat.le_of_not_lt fun hlt => ?_
    have hread := readUnsigned_eq_ok.mpr ⟨hwrites, hlt⟩
    rw [(readUnsigned_eq_error hbound).mpr hfault] at hread
    cases hread
  · intro h
    cases hread : readUnsigned bound cs with
    | ok v =>
        obtain ⟨hwrites, hlt⟩ := readUnsigned_eq_ok.mp hread
        exact absurd hlt (Nat.not_lt.mpr (h v hwrites))
    | error fault => exact ⟨fault, (readUnsigned_eq_error hbound).mp hread⟩

end GraphQuery.Text
