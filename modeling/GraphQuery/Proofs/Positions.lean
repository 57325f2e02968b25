import GraphQuery.Diagram.Position

/-!
# Proofs — fields that name positions

`Text.WritesNumber cs n` says that a text is an optional plus sign and one or more digits with the
value `n`.  A field names a position exactly if it writes its number and the position is in range
(`position?_eq_some_iff`), so the numeral of a position names it (`position?_positionField`), and a
field that names a position has no blanks around it (`trim_eq_of_position?`).
-/

namespace GraphQuery

namespace Text

/-- An optional plus sign and one or more digits, with the value of the digits. -/
def WritesNumber (cs : List Char) (n : Nat) : Prop :=
  ∃ ds, (cs = ds ∨ cs = '+' :: ds) ∧ ds ≠ [] ∧ (∀ c ∈ ds, c.isDigit = true) ∧
    Nat.ofDigitChars 10 ds 0 = n

/-! ### Reading a numeral -/

/-- More digits make no number smaller. -/
theorem le_ofDigitChars : ∀ (cs : List Char) (n : Nat), n ≤ Nat.ofDigitChars 10 cs n
  | [], _ => Nat.le_refl _
  | c :: cs, n => by
      rw [Nat.ofDigitChars_cons]
      have hrest := le_ofDigitChars cs (10 * n + (c.toNat - '0'.toNat))
      omega

/-- Digits behind a number below the bound are read if the whole number is below it. -/
theorem readDigits_eq_ok {bound v : Nat} :
    ∀ {cs : List Char} {n : Nat}, n < bound →
      (readDigits bound n cs = .ok v ↔
        (∀ c ∈ cs, c.isDigit = true) ∧ Nat.ofDigitChars 10 cs n = v ∧ v < bound)
  | [], n, hn => by
      simp only [readDigits, Except.ok.injEq, List.not_mem_nil, Nat.ofDigitChars_nil]
      refine ⟨?_, fun h => h.2.1⟩
      rintro rfl
      exact ⟨fun _ hc => hc.elim, rfl, hn⟩
  | c :: cs, n, hn => by
      rw [readDigits, Nat.ofDigitChars_cons, List.forall_mem_cons]
      by_cases hc : c.isDigit = true
      · rw [if_pos hc, and_iff_right hc]
        by_cases hlt : 10 * n + digitValue c < bound
        · rw [if_pos hlt]
          exact readDigits_eq_ok hlt
        · rw [if_neg hlt]
          refine ⟨nofun, fun ⟨_, hv, hlt'⟩ => absurd ?_ hlt⟩
          exact Nat.lt_of_le_of_lt (le_ofDigitChars cs _) (hv ▸ hlt')
      · rw [if_neg hc]
        exact ⟨nofun, fun h => absurd h.1.1 hc⟩

/-- One or more digits are read if their number is below the bound. -/
theorem readDigits_zero_eq_ok {bound v : Nat} {cs : List Char} (hcs : cs ≠ []) :
    readDigits bound 0 cs = .ok v ↔
      (∀ c ∈ cs, c.isDigit = true) ∧ Nat.ofDigitChars 10 cs 0 = v ∧ v < bound := by
  rcases Nat.eq_zero_or_pos bound with rfl | hbound
  · cases cs with
    | nil => exact absurd rfl hcs
    | cons c cs =>
        rw [readDigits, if_neg (Nat.not_lt_zero _)]
        refine ⟨fun h => ?_, fun h => absurd h.2.2 (Nat.not_lt_zero _)⟩
        split at h <;> cases h
  · exact readDigits_eq_ok hbound

/-- **A numeral is read if its number is below the bound.** -/
theorem readUnsigned_eq_ok {bound v : Nat} {cs : List Char} :
    readUnsigned bound cs = .ok v ↔ WritesNumber cs v ∧ v < bound := by
  constructor
  · intro h
    rw [readUnsigned.eq_def] at h
    split at h
    · cases h
    · cases h
    · rename_i ds hds
      obtain ⟨hdigits, hv, hlt⟩ := (readDigits_zero_eq_ok hds).mp h
      exact ⟨⟨ds, .inr rfl, hds, hdigits, hv⟩, hlt⟩
    · rename_i hne _ _
      obtain ⟨hdigits, hv, hlt⟩ := (readDigits_zero_eq_ok hne).mp h
      exact ⟨⟨cs, .inl rfl, hne, hdigits, hv⟩, hlt⟩
  · rintro ⟨⟨ds, hcs, hne, hdigits, hv⟩, hlt⟩
    have hread := (readDigits_zero_eq_ok hne).mpr ⟨hdigits, hv, hlt⟩
    cases ds with
    | nil => exact absurd rfl hne
    | cons c ds =>
        rcases hcs with rfl | rfl
        · -- a digit is no plus sign
          have hc : c ≠ '+' := by
            rintro rfl
            exact absurd (hdigits _ (List.mem_cons_self ..)) (by decide)
          rw [← hread]
          simp [readUnsigned, hc]
        · exact hread

/-! ### Blanks -/

theorem not_isBlank_of_isDigit {c : Char} (h : c.isDigit = true) : isBlank c = false := by
  simp only [Char.isDigit, Bool.and_eq_true, decide_eq_true_eq, ge_iff_le,
    UInt32.le_iff_toNat_le] at h
  have hlow : 48 ≤ c.toNat := h.1
  have hhigh : c.toNat ≤ 57 := h.2
  simp only [isBlank, blankRanges, List.any_cons, List.any_nil, Bool.or_false, Bool.or_eq_false_iff,
    Bool.and_eq_false_iff, decide_eq_false_iff_not]
  omega

theorem dropWhile_isBlank_eq_self {cs : List Char} (h : ∀ c ∈ cs, isBlank c = false) :
    cs.dropWhile isBlank = cs := by
  cases cs with
  | nil => rfl
  | cons c cs => rw [List.dropWhile_cons_of_neg]; simp [h c (List.mem_cons_self ..)]

/-- A text without blanks is trimmed. -/
theorem trim_eq_self {s : String} (h : ∀ c ∈ s.toList, isBlank c = false) : trim s = s := by
  have hreverse : ∀ c ∈ s.toList.reverse, isBlank c = false :=
    fun c hc => h c (List.mem_reverse.mp hc)
  rw [trim, trimList, dropWhile_isBlank_eq_self h, trimEnd, dropWhile_isBlank_eq_self hreverse,
    List.reverse_reverse, String.ofList_toList]

/-- A numeral has no blanks around it. -/
theorem WritesNumber.trim_eq {s : String} {n : Nat} (h : WritesNumber s.toList n) : trim s = s := by
  obtain ⟨ds, hs, -, hdigits, -⟩ := h
  refine trim_eq_self fun c hc => ?_
  rcases hs with hs | hs
  · exact not_isBlank_of_isDigit (hdigits c (hs ▸ hc))
  · rw [hs] at hc
    rcases List.mem_cons.mp hc with rfl | hc
    · rfl
    · exact not_isBlank_of_isDigit (hdigits c hc)

/-- The decimal text of a number is a numeral of it. -/
theorem writesNumber_repr (n : Nat) : WritesNumber n.repr.toList n := by
  rw [Nat.repr_eq_ofList_toDigits, String.toList_ofList]
  exact ⟨Nat.toDigits 10 n, .inl rfl, Nat.toDigits_ne_nil,
    fun c hc => Nat.isDigit_of_mem_toDigits (by decide) (by decide) hc,
    Nat.ofDigitChars_toDigits (by decide) (by decide)⟩

end Text

/-! ### Positions -/

/-- **A field names a position** if it is the numeral of it and the position is in range. -/
theorem position?_eq_some_iff {field : String} {count position : Nat} :
    position? field count = some position ↔
      Text.WritesNumber field.toList position ∧ position < count := by
  rw [← Text.readUnsigned_eq_ok, position?]
  cases Text.readUnsigned count field.toList <;> simp [Except.toOption]

/-- A field that names a position has no blanks around it. -/
theorem trim_eq_of_position? {field : String} {count position : Nat}
    (h : position? field count = some position) : Text.trim field = field :=
  (position?_eq_some_iff.mp h).1.trim_eq

theorem ne_empty_of_position? {field : String} {count position : Nat}
    (h : position? field count = some position) : field ≠ "" := by
  rintro rfl
  cases h

/-- The numeral of a position names it. -/
theorem position?_positionField {count position : Nat} (h : position < count) :
    position? (positionField position) count = some position :=
  position?_eq_some_iff.mpr ⟨Text.writesNumber_repr position, h⟩

/-- Among how many nodes a field names its position depends on nothing but the range. -/
theorem position?_of_lt {field : String} {count count' position : Nat}
    (h : position? field count = some position) (hlt : position < count') :
    position? field count' = some position :=
  position?_eq_some_iff.mpr ⟨(position?_eq_some_iff.mp h).1, hlt⟩

theorem position?_eq_none_of_le {field : String} {count count' : Nat}
    (h : position? field count = none) (hle : count' ≤ count) : position? field count' = none := by
  cases h' : position? field count' with
  | none => rfl
  | some position =>
      have hlt : position < count := Nat.lt_of_lt_of_le (position?_eq_some_iff.mp h').2 hle
      rw [position?_of_lt h' hlt] at h
      cases h

theorem position?_eq_none_of_ge {field : String} {count count' position : Nat}
    (h : position? field count = some position) (hge : count' ≤ position) :
    position? field count' = none := by
  cases h' : position? field count' with
  | none => rfl
  | some position' =>
      have hlt : position' < count' := (position?_eq_some_iff.mp h').2
      have hposition : position < count := (position?_eq_some_iff.mp h).2
      rw [position?_of_lt h' (by omega)] at h
      cases h
      omega

end GraphQuery
