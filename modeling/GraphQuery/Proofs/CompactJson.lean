import GraphQuery.Proofs.NumberText

/-!
# Proofs — the characters of compact JSON

In the text of a value stand no control characters: a string escapes its own
(`isPrintable_of_mem_escapeChar`), numbers have none, and between them stand marks only
(`Value.forall_mem_write`).  So the text of a value is one line, whatever its strings hold.
-/

namespace GraphQuery.Json

/-- The characters that are no control characters. -/
def isPrintable (c : Char) : Bool :=
  0x20 ≤ c.toNat

/-- Digits, points, exponent marks and signs are printable. -/
theorem isPrintable_of_isNumeral {c : Char} (h : isNumeral c = true) : isPrintable c = true := by
  simp only [isNumeral, Bool.or_eq_true, beq_iff_eq] at h
  rcases h with (((h | rfl) | rfl) | rfl) | rfl
  · simp only [Char.isDigit, Bool.and_eq_true, decide_eq_true_eq] at h
    have hle : '0'.toNat ≤ c.toNat := h.1
    exact decide_eq_true (Nat.le_trans (by decide) hle)
  · rfl
  · rfl
  · rfl
  · rfl

/-- What stands for a character is printable, whatever the character is. -/
theorem isPrintable_of_mem_escapeChar {c x : Char} (h : x ∈ escapeChar c) :
    isPrintable x = true := by
  have hdigit : ∀ d < 16, isPrintable (Nat.digitChar d) = true := by decide
  by_cases hletter : c ∈ ['"', '\\', '\n', '\r', '\t', '\x08', '\x0c']
  · simp only [List.mem_cons, List.not_mem_nil, or_false] at hletter
    rcases hletter with rfl | rfl | rfl | rfl | rfl | rfl | rfl <;>
      exact List.all_eq_true.mp rfl x h
  · -- without a letter of its own the character is a control character or stands for itself
    simp only [List.mem_cons, List.not_mem_nil, or_false, not_or] at hletter
    obtain ⟨hquote, hbackslash, hn, hr, ht, hb, hf⟩ := hletter
    rw [escapeChar, if_neg hquote, if_neg hbackslash, if_neg hn, if_neg hr, if_neg ht, if_neg hb,
      if_neg hf] at h
    by_cases hcontrol : c.toNat < 0x20
    · rw [if_pos hcontrol] at h
      simp only [List.mem_cons, List.not_mem_nil, or_false] at h
      rcases h with rfl | rfl | rfl | rfl | rfl | rfl
      · rfl
      · rfl
      · rfl
      · rfl
      · exact hdigit _ (by omega)
      · exact hdigit _ (by omega)
    · rw [if_neg hcontrol, List.mem_singleton] at h
      rw [h]
      exact decide_eq_true (Nat.le_of_not_lt hcontrol)

/-- A string is written in quotes, with every character escaped that needs it. -/
theorem isPrintable_of_mem_writeString {s : String} {x : Char} (h : x ∈ writeString s) :
    isPrintable x = true := by
  rw [writeString, List.mem_cons, List.mem_append, List.mem_singleton, List.mem_flatMap] at h
  rcases h with rfl | ⟨c, -, hc⟩ | rfl
  · rfl
  · exact isPrintable_of_mem_escapeChar hc
  · rfl

/-- A float may be written with the texts of its style, which hold no control character either. -/
theorem isPrintable_of_mem_writeNumber {n : Number} {x : Char} (h : x ∈ n.write) :
    isPrintable x = true := by
  cases n with
  | integer i => exact isPrintable_of_isNumeral (isNumeral_of_mem_writeInt h)
  | float y =>
      have hstyle : (floatStyle.wholeEnd ++ floatStyle.zero ++ floatStyle.negativeZero).all
          isPrintable = true := by decide
      rcases NumberStyle.mem_write h with h | h
      · exact isPrintable_of_isNumeral h
      · exact List.all_eq_true.mp hstyle x h

/-! ### Values -/

mutual

/-- **The text of a value holds no control characters.** -/
theorem Value.forall_mem_write : ∀ v : Value, ∀ c ∈ v.write, isPrintable c = true
  | .null => List.all_eq_true.mp rfl
  | .bool true => List.all_eq_true.mp rfl
  | .bool false => List.all_eq_true.mp rfl
  | .number _ => fun _ hc => isPrintable_of_mem_writeNumber hc
  | .string _ => fun _ hc => isPrintable_of_mem_writeString hc
  | .array [] => List.all_eq_true.mp rfl
  | .array (item :: items) => by
      rw [Value.write, List.forall_mem_cons, List.forall_mem_append]
      exact ⟨rfl, item.forall_mem_write, forall_mem_writeItems items⟩
  | .object [] => List.all_eq_true.mp rfl
  | .object ((name, value) :: members) => by
      rw [Value.write, List.forall_mem_cons, List.forall_mem_append, List.forall_mem_cons,
        List.forall_mem_append]
      exact ⟨rfl, fun _ hc => isPrintable_of_mem_writeString hc, rfl, value.forall_mem_write,
        forall_mem_writeMembers members⟩

theorem forall_mem_writeItems : ∀ items : List Value, ∀ c ∈ writeItems items, isPrintable c = true
  | [] => List.all_eq_true.mp rfl
  | item :: items => by
      rw [writeItems, List.forall_mem_cons, List.forall_mem_append]
      exact ⟨rfl, item.forall_mem_write, forall_mem_writeItems items⟩

theorem forall_mem_writeMembers :
    ∀ members : List (String × Value), ∀ c ∈ writeMembers members, isPrintable c = true
  | [] => List.all_eq_true.mp rfl
  | (name, value) :: members => by
      rw [writeMembers, List.forall_mem_cons, List.forall_mem_append, List.forall_mem_cons,
        List.forall_mem_append]
      exact ⟨rfl, fun _ hc => isPrintable_of_mem_writeString hc, rfl, value.forall_mem_write,
        forall_mem_writeMembers members⟩

end

end GraphQuery.Json
