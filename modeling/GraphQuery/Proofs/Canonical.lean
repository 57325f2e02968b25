import Mathlib.Algebra.Order.Field.Rat
import Mathlib.Data.Nat.Cast.Order.Ring
import GraphQuery.Proofs.Casts
import GraphQuery.Proofs.Positions

/-!
# Proofs — printed numbers are canonical

`Binary64.value` is the number that a binary64 number stands for, an exact dyadic rational.  Two
numbers have the same value exactly if they are the same apart from the sign of zero
(`value_eq_value_iff`), because a magnitude rounds to itself.

Blanks around a text without blanks are cut off again and nothing else is (`trimList_blanks`), and
every text is its trimmed self between blanks (`exists_blanks`).  A printed number has no blanks in
it.

**So a text is a number exactly if it prints one between blanks** (`printed_numbers_are_canonical`):
what is printed is read back, and different values are printed differently.
-/

namespace GraphQuery

/-! ### Blanks around a text -/

namespace Text

/-- A text of blanks only. -/
def Blanks (cs : List Char) : Prop :=
  ∀ c ∈ cs, isBlank c = true

instance : DecidablePred Blanks :=
  fun cs => decidable_of_iff (cs.all isBlank = true) List.all_eq_true

variable {before cs after : List Char}

theorem dropWhile_blanks (h : Blanks cs) : cs.dropWhile isBlank = [] := by
  rw [← List.append_nil cs, List.dropWhile_append_of_pos h, List.dropWhile_nil]

theorem blanks_reverse (h : Blanks cs) : Blanks cs.reverse :=
  fun c hc => h c (List.mem_reverse.mp hc)

theorem blanks_takeWhile (cs : List Char) : Blanks (cs.takeWhile isBlank) :=
  List.all_eq_true.mp List.all_takeWhile

/-- The blanks behind a text without blanks are cut off. -/
theorem trimEnd_blanks (hcs : ∀ c ∈ cs, isBlank c = false) (h : Blanks after) :
    trimEnd (cs ++ after) = cs := by
  have hreverse : ∀ c ∈ cs.reverse, isBlank c = false :=
    fun c hc => hcs c (List.mem_reverse.mp hc)
  rw [trimEnd, List.reverse_append, List.dropWhile_append_of_pos (blanks_reverse h),
    dropWhile_isBlank_eq_self hreverse, List.reverse_reverse]

/-- **The blanks around a text without blanks** are cut off. -/
theorem trimList_blanks (hbefore : Blanks before) (hcs : ∀ c ∈ cs, isBlank c = false)
    (hafter : Blanks after) : trimList (before ++ cs ++ after) = cs := by
  rw [trimList, List.append_assoc, List.dropWhile_append_of_pos hbefore]
  cases cs with
  | nil => rw [List.nil_append, dropWhile_blanks hafter]; rfl
  | cons c cs =>
      have hc : isBlank c = false := hcs c (List.mem_cons_self ..)
      rw [List.cons_append, List.dropWhile_cons_of_neg (by rw [hc]; exact Bool.false_ne_true),
        ← List.cons_append, trimEnd_blanks hcs hafter]

/-- Every text is its trimmed self between blanks. -/
theorem exists_blanks (cs : List Char) :
    ∃ before after, Blanks before ∧ Blanks after ∧ cs = before ++ trimList cs ++ after := by
  have hend : ∀ ds : List Char, ds = trimEnd ds ++ (ds.reverse.takeWhile isBlank).reverse := by
    intro ds
    rw [trimEnd, ← List.reverse_append, List.takeWhile_append_dropWhile, List.reverse_reverse]
  refine ⟨cs.takeWhile isBlank, ((cs.dropWhile isBlank).reverse.takeWhile isBlank).reverse,
    blanks_takeWhile cs, blanks_reverse (blanks_takeWhile _), ?_⟩
  rw [List.append_assoc, trimList, ← hend, List.takeWhile_append_dropWhile]

end Text

/-- No character of a numeral is a blank, so blanks around one are not part of it. -/
theorem isBlank_of_isNumeral {c : Char} (h : isNumeral c = true) : Text.isBlank c = false := by
  simp only [isNumeral, Bool.or_eq_true, beq_iff_eq] at h
  rcases h with (((h | rfl) | rfl) | rfl) | rfl
  · exact Text.not_isBlank_of_isDigit h
  all_goals rfl

/-- A printed number between blanks is trimmed to itself. -/
theorem trimList_writeNumber {before after : List Char} (hbefore : Text.Blanks before)
    (hafter : Text.Blanks after) (x : Binary64) :
    Text.trimList (before ++ writeNumber x ++ after) = writeNumber x :=
  Text.trimList_blanks hbefore (fun _ hc => isBlank_of_isNumeral (isNumeral_of_mem_writeNumber hc))
    hafter

/-! ### Values -/

namespace Binary64

variable {x y : Binary64}

/-- The value of a number. -/
def value (x : Binary64) : ℚ :=
  (if x.negative then -(units x.rank : ℚ) else units x.rank) / one

/-- Different ranks are different multiples of the least number. -/
theorem units_injective : Function.Injective units := by
  intro a b h
  have hread := nearestRank_units a Nat.one_pos
  rw [h, nearestRank_units b Nat.one_pos] at hread
  exact hread.symm

theorem units_eq_zero_iff {rank : Nat} : units rank = 0 ↔ rank = 0 :=
  ⟨fun h => units_injective (h.trans units_zero.symm), fun h => h ▸ units_zero⟩

/-- The sign of a zero does not count for its value. -/
theorem value_withoutZeroSign (x : Binary64) : x.withoutZeroSign.value = x.value := by
  rw [withoutZeroSign]
  split
  · rename_i hrank
    have hzero : (zero false).rank = 0 := rfl
    simp only [value, hrank, hzero, units_zero, Nat.cast_zero, neg_zero, ite_self]
  · rfl

theorem one_ne_zero : (one : ℚ) ≠ 0 := by
  obtain ⟨k, hk⟩ : ∃ k, k = 1074 := ⟨_, rfl⟩
  rw [one_eq hk, Nat.cast_ne_zero]
  exact (Nat.two_pow_pos k).ne'

theorem withoutZeroSign_of_eq_zero (h : x.rank = 0) : x.withoutZeroSign = .zero false :=
  if_pos h

/-- A number is its sign and its rank. -/
theorem eq_of_negative_of_rank (hnegative : x.negative = y.negative) (hrank : x.rank = y.rank) :
    x = y := by
  obtain ⟨_, _, _⟩ := x
  obtain ⟨_, _, _⟩ := y
  cases hnegative
  cases hrank
  rfl

/-- **Numbers of the same value** are the same apart from the sign of zero. -/
theorem value_eq_value_iff : x.value = y.value ↔ x.withoutZeroSign = y.withoutZeroSign := by
  constructor
  · intro h
    rw [value, value, div_left_inj' one_ne_zero] at h
    -- either both have the sign of the value, or the value is zero
    have hcases : (x.negative = y.negative ∧ units x.rank = units y.rank) ∨
        units x.rank + units y.rank = 0 := by
      cases hx : x.negative <;> cases hy : y.negative <;>
        simp only [hx, hy, Bool.false_eq_true, if_true, if_false] at h
      · exact .inl ⟨rfl, Nat.cast_inj.mp h⟩
      · exact .inr (by exact_mod_cast eq_neg_iff_add_eq_zero.mp h)
      · exact .inr (by exact_mod_cast neg_eq_iff_add_eq_zero.mp h)
      · exact .inl ⟨rfl, Nat.cast_inj.mp (neg_inj.mp h)⟩
    rcases hcases with ⟨hsign, hunits⟩ | hzero
    · rw [eq_of_negative_of_rank hsign (units_injective hunits)]
    · obtain ⟨hx, hy⟩ := Nat.add_eq_zero_iff.mp hzero
      rw [withoutZeroSign_of_eq_zero (units_eq_zero_iff.mp hx),
        withoutZeroSign_of_eq_zero (units_eq_zero_iff.mp hy)]
  · intro h
    rw [← value_withoutZeroSign x, h, value_withoutZeroSign]

end Binary64

/-! ### Numbers between blanks -/

/-- An operator that does not take texts compares with a canonical value as a number. -/
theorem literal_compare_of_number {operator value : String} {x : Binary64}
    (hoperator : OperatorKind.of operator ≠ .text) (hx : canonicalNumber? value.toList = some x)
    (name property : String) :
    (Predicate.compare name property operator value).literal = .number x := by
  rw [Predicate.compare, hx]
  cases hkind : OperatorKind.of operator with
  | order => rfl
  | text => exact absurd hkind hoperator
  | other => rfl

/-- **Numbers have the same text exactly if they have the same value.** -/
theorem writeNumber_eq_iff {x y : Binary64} :
    writeNumber x = writeNumber y ↔ x.value = y.value := by
  rw [Binary64.value_eq_value_iff]
  constructor
  · intro h
    have hread := read?_writeNumber x
    rw [h, read?_writeNumber y] at hread
    exact (Option.some.inj hread).symm
  · intro h
    rw [← writeNumber_withoutZeroSign x, h, writeNumber_withoutZeroSign]

/-- **Printed numbers are canonical.**  Between blanks a printed number is read as itself, zero
without its sign, which is the same value; numbers are printed alike exactly if their values are the
same; and a text is a number exactly if it is the printed form of it between blanks.  So the literal
that sets a property to a number is, between blanks, a value that the property can be compared with
as that number, and that is written the same. -/
theorem printed_numbers_are_canonical (x : Binary64) :
    (∀ before after, Text.Blanks before → Text.Blanks after →
        canonicalNumber? (before ++ writeNumber x ++ after) = some x.withoutZeroSign) ∧
      x.withoutZeroSign.value = x.value ∧
      (∀ y, writeNumber x = writeNumber y ↔ x.value = y.value) ∧
      (∀ cs, canonicalNumber? cs = some x ↔ x.withoutZeroSign = x ∧
        ∃ before after, Text.Blanks before ∧ Text.Blanks after ∧
          cs = before ++ writeNumber x ++ after) ∧
      (∀ before after name property operator, Text.Blanks before → Text.Blanks after →
        OperatorKind.of operator ≠ .text →
        let set := Literal.ofValue (.number (.float x))
        let compared := (Predicate.compare name property operator
          (String.ofList (before ++ set.write ++ after))).literal
        compared = .number x.withoutZeroSign ∧ compared.write = set.write) := by
  have hread : ∀ before after, Text.Blanks before → Text.Blanks after →
      canonicalNumber? (before ++ writeNumber x ++ after) = some x.withoutZeroSign :=
    fun _ _ hbefore hafter => canonicalNumber?_of_trimList (trimList_writeNumber hbefore hafter x)
  refine ⟨hread, x.value_withoutZeroSign, fun y => writeNumber_eq_iff, fun cs => ⟨?_, ?_⟩, ?_⟩
  · intro h
    obtain ⟨-, hwrite⟩ := canonicalNumber?_eq_some.mp h
    refine ⟨Option.some.inj ((canonicalNumber?_of_trimList hwrite.symm).symm.trans h), ?_⟩
    rw [hwrite]
    exact Text.exists_blanks cs
  · rintro ⟨hx, before, after, hbefore, hafter, rfl⟩
    rw [hread before after hbefore hafter, hx]
  · intro before after name property operator hbefore hafter hoperator set compared
    have hnumber : canonicalNumber? (String.ofList (before ++ set.write ++ after)).toList
        = some x.withoutZeroSign := by
      rw [String.toList_ofList]
      exact hread before after hbefore hafter
    have hcompared : compared = .number x.withoutZeroSign :=
      literal_compare_of_number hoperator hnumber name property
    refine ⟨hcompared, ?_⟩
    rw [hcompared]
    exact writeNumber_withoutZeroSign x

/-- The negative number next to zero, with a tab, an em space and a line feed around it. -/
theorem printed_numbers_are_canonical_of_least :
    let least : Binary64 := ⟨true, 1, by decide⟩
    Text.Blanks ['\t', '\u2003'] ∧ Text.Blanks ['\n'] ∧ OperatorKind.of ">" ≠ .text ∧
      canonicalNumber? "\t\u2003-5e-324\n".toList = some least ∧
      writeNumber least ≠ writeNumber (.zero true) ∧
      ((Predicate.compare "n" "charge" ">" "\t\u2003-5e-324\n").literal = .number least ∧
        (Literal.number least).write = "-5e-324".toList) := by
  intro least
  have hwrite : writeNumber least = "-5e-324".toList := by decide +kernel
  have hbefore : Text.Blanks ['\t', '\u2003'] := by decide
  have hafter : Text.Blanks ['\n'] := by decide
  have hoperator : OperatorKind.of ">" ≠ .text := by decide
  obtain ⟨hread, -, hinjective, -, hset⟩ := printed_numbers_are_canonical least
  have hnumber := hread _ _ hbefore hafter
  have hcompared := (hset _ _ "n" "charge" ">" hbefore hafter hoperator).1
  have hvalue : least.withoutZeroSign ≠ (Binary64.zero true).withoutZeroSign := by decide
  have hset' : (Literal.ofValue (.number (.float least))).write = "-5e-324".toList := hwrite
  rw [hwrite] at hnumber
  rw [hset'] at hcompared
  refine ⟨hbefore, hafter, hoperator, hnumber, fun h => hvalue ?_, hcompared, hwrite⟩
  exact Binary64.value_eq_value_iff.mp ((hinjective _).mp h)

end GraphQuery
