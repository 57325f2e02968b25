import GraphQuery.Query.Literal

/-!
# Proofs — the characters of numerals

What holds of the digits and of the marks that a numeral is written with holds of its characters
(`forall_mem_writePlain`, `forall_mem_writeScientific`).  So a number is written with digits, a
point, an exponent mark and signs, whatever the style, apart from the texts that the style itself
holds (`NumberStyle.mem_write`).
-/

namespace GraphQuery

/-- The characters of a numeral. -/
def isNumeral (c : Char) : Bool :=
  c.isDigit || c == '.' || c == 'e' || c == '-' || c == '+'

theorem isNumeral_of_isDigit {c : Char} (h : c.isDigit = true) : isNumeral c = true := by
  simp [isNumeral, h]

theorem isNumeral_of_mem_toDigits {c : Char} {n : Nat} (h : c ∈ Nat.toDigits 10 n) :
    isNumeral c = true :=
  isNumeral_of_isDigit (Nat.isDigit_of_mem_toDigits (by decide) (by decide) h)

/-- An integer is written with the characters of a numeral. -/
theorem Json.isNumeral_of_mem_writeInt {c : Char} {i : Int} (h : c ∈ Json.writeInt i) :
    isNumeral c = true := by
  rw [Json.writeInt] at h
  split at h
  · rcases List.mem_cons.mp h with rfl | h
    · rfl
    · exact isNumeral_of_mem_toDigits h
  · exact isNumeral_of_mem_toDigits h

namespace NumberStyle

variable {p : Char → Prop} {ds : List Char} {exponent : Int}

/-- Plainly written digits have a point only before fraction digits. -/
theorem forall_mem_writePlain {wholeEnd : List Char} (hds : ∀ c ∈ ds, p c) (hzero : p '0')
    (hpoint : exponent < 0 → p '.') (hend : ∀ c ∈ wholeEnd, p c) :
    ∀ c ∈ writePlain wholeEnd ds exponent, p c := by
  intro c h
  rw [writePlain] at h
  split at h
  · simp only [List.mem_append, List.mem_replicate] at h
    rcases h with (h | ⟨-, rfl⟩) | h
    · exact hds c h
    · exact hzero
    · exact hend c h
  · rename_i hnegative
    split at h
    · simp only [List.mem_cons, List.mem_append, List.mem_replicate] at h
      rcases h with rfl | rfl | ⟨-, rfl⟩ | h
      · exact hzero
      · exact hpoint (by omega)
      · exact hzero
      · exact hds c h
    · rcases List.mem_append.mp h with h | h
      · exact hds c (List.mem_of_mem_take h)
      · rcases List.mem_cons.mp h with rfl | h
        · exact hpoint (by omega)
        · exact hds c (List.mem_of_mem_drop h)

theorem forall_mem_writeExponent (hdigit : ∀ c, c.isDigit = true → p c) (hmark : p 'e')
    (hsign : p (if exponent < 0 then '-' else '+')) : ∀ c ∈ writeExponent exponent, p c := by
  intro c h
  rw [writeExponent] at h
  rcases List.mem_cons.mp h with rfl | h
  · exact hmark
  · rcases List.mem_cons.mp h with rfl | h
    · exact hsign
    · exact hdigit c (Nat.isDigit_of_mem_toDigits (by decide) (by decide) h)

theorem forall_mem_writeScientific (hds : ∀ c ∈ ds, p c)
    (hdigit : ∀ c, c.isDigit = true → p c) (hpoint : p '.') (hmark : p 'e')
    (hsign : p (if leadingExponent ds exponent < 0 then '-' else '+')) :
    ∀ c ∈ writeScientific ds exponent, p c := by
  intro c h
  rw [writeScientific, List.mem_append, List.mem_append] at h
  rcases h with (h | h) | h
  · exact hds c (List.mem_of_mem_take h)
  · split at h
    · cases h
    · rcases List.mem_cons.mp h with rfl | h
      · exact hpoint
      · exact hds c (List.mem_of_mem_drop h)
  · exact forall_mem_writeExponent hdigit hmark hsign c h

/-- A number is written with the characters of a numeral and the texts of its style. -/
theorem mem_write {style : NumberStyle} {x : Binary64} {c : Char} (h : c ∈ style.write x) :
    isNumeral c = true ∨ c ∈ style.wholeEnd ++ style.zero ++ style.negativeZero := by
  have hds : ∀ n, ∀ c ∈ Nat.toDigits 10 n, isNumeral c = true :=
    fun _ _ hc => isNumeral_of_mem_toDigits hc
  simp only [write, writeDigits] at h
  simp only [List.mem_append]
  split at h
  · split at h
    · exact .inr (.inr h)
    · exact .inr (.inl (.inr h))
  · rcases List.mem_append.mp h with h | h
    · split at h
      · rw [List.mem_singleton.mp h]
        exact .inl rfl
      · cases h
    · split at h
      · have hplain : isNumeral c = true ∨ c ∈ style.wholeEnd :=
          forall_mem_writePlain (p := fun c => isNumeral c = true ∨ c ∈ style.wholeEnd)
            (fun c hc => .inl (hds _ c hc)) (.inl rfl) (fun _ => .inl rfl) (fun _ => .inr) c h
        exact hplain.imp_right fun h => .inl (.inl h)
      · have hsign : ∀ n : Int, isNumeral (if n < 0 then '-' else '+') = true := by
          intro n
          split <;> rfl
        exact .inl (forall_mem_writeScientific (p := fun c => isNumeral c = true) (hds _)
          (fun _ => isNumeral_of_isDigit) rfl rfl (hsign _) c h)

end NumberStyle

/-- A number in a query is written with the characters of a numeral. -/
theorem isNumeral_of_mem_writeNumber {c : Char} {x : Binary64} (h : c ∈ writeNumber x) :
    isNumeral c = true := by
  rcases NumberStyle.mem_write h with h | h
  · exact h
  · have hzero : c = '0' := by simpa [queryStyle] using h
    rw [hzero]
    rfl

end GraphQuery
