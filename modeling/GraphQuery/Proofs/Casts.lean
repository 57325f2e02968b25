import GraphQuery.Compile.Predicates
import GraphQuery.Proofs.NumberReading
import GraphQuery.Proofs.NumberText

/-!
# Proofs — the casts of compared numbers

A comparison by size casts the property to what the number is, an integer or not.  Which it is can
be told from the text of the number (`Cast.ofText_writeNumber`): without an exponent there is a
point exactly before fraction digits, a number with a positive exponent is too large for any, and
one with a negative exponent is less than one.

A value is taken for a number exactly if it is the printed form of one, blanks around it apart
(`isSome_canonicalNumber?_iff`).  **So the cast of a comparison is told from the text of the value**
(`comparison_casts_by_text`).
-/

namespace GraphQuery

/-- The text is the printed form of a number. -/
def IsCanonical (cs : List Char) : Prop :=
  ∃ x, writeNumber x = cs

/-- The cast for a comparison by size with a number, told from its text. -/
def Cast.ofText (cs : List Char) : Cast :=
  if ['e', '+'] <:+: cs ∨ '.' ∉ cs ∧ ¬ ['e', '-'] <:+: cs then .toInteger else .toFloat

/-! ### The number -/

namespace Binary64

open NumberStyle

variable {x : Binary64}

/-- The exponent of the leading digit of a number. -/
def leading (tie : TieRule) (x : Binary64) : Int :=
  leadingExponent (Nat.toDigits 10 (x.shortest tie).coefficient) (x.shortest tie).exponent

/-- A number is whole if it has no fraction digits or is large, and only then. -/
theorem isWhole_iff_leading (tie : TieRule) (h : x.rank ≠ 0) :
    x.isWhole = true ↔ 0 ≤ (x.shortest tie).exponent ∨ 21 ≤ x.leading tie := by
  constructor
  · exact fun hwhole => .inl (shortest_exponent_nonneg tie h hwhole)
  · rintro (hexponent | hleading)
    · exact isWhole_of_exponent_nonneg hexponent
    · by_cases hexponent : 0 ≤ (x.shortest tie).exponent
      · exact isWhole_of_exponent_nonneg hexponent
      · have hlength : ¬ (Nat.toDigits 10 (x.shortest tie).coefficient).length ≤
            21 + (x.shortest tie).exponent.natAbs := by
          rw [leading, leadingExponent] at hleading
          omega
        rw [Nat.length_toDigits_le_iff (by decide) (by omega), Nat.pow_add, Nat.not_lt] at hlength
        refine isWhole_of_large (by omega) (Nat.le_trans ?_ hlength)
        exact Nat.mul_le_mul_right _ (by decide)

end Binary64

/-! ### The text -/

namespace NumberStyle

variable {ds : List Char} {exponent : Int}

theorem ne_of_isDigit {mark : Char} (hds : ∀ c ∈ ds, c.isDigit = true)
    (hmark : mark.isDigit = false) : ∀ c ∈ ds, c ≠ mark := by
  rintro c hc rfl
  rw [hds c hc] at hmark
  cases hmark

/-- A plainly written number has no exponent. -/
theorem not_mem_writePlain (hds : ∀ c ∈ ds, c.isDigit = true) :
    'e' ∉ writePlain [] ds exponent := fun h =>
  forall_mem_writePlain (p := fun c => c ≠ 'e') (ne_of_isDigit hds rfl) (by decide)
    (fun _ => by decide) (List.forall_mem_nil _) 'e' h rfl

/-- A plainly written number has a point before its fraction digits. -/
theorem point_mem_writePlain (hds : ∀ c ∈ ds, c.isDigit = true) :
    '.' ∈ writePlain [] ds exponent ↔ exponent < 0 := by
  constructor
  · intro h
    by_contra hnonneg
    exact forall_mem_writePlain (p := fun c => c ≠ '.') (ne_of_isDigit hds rfl) (by decide)
      (fun hneg => absurd hneg hnonneg) (List.forall_mem_nil _) '.' h rfl
  · intro h
    rw [writePlain, if_neg (by omega)]
    split
    · exact List.mem_cons_of_mem _ (List.mem_cons_self ..)
    · exact List.mem_append_right _ (List.mem_cons_self ..)

/-- A number written with an exponent has its mark and its sign. -/
theorem infix_writeScientific (ds : List Char) (exponent : Int) :
    ['e', if leadingExponent ds exponent < 0 then '-' else '+'] <:+: writeScientific ds exponent :=
  ⟨_, Nat.toDigits 10 (leadingExponent ds exponent).natAbs, List.append_assoc ..⟩

/-- A negative exponent has no plus sign. -/
theorem not_mem_writeScientific (hds : ∀ c ∈ ds, c.isDigit = true)
    (h : leadingExponent ds exponent < 0) : '+' ∉ writeScientific ds exponent := by
  have hsign : (if leadingExponent ds exponent < 0 then '-' else '+') ≠ '+' := by
    rw [if_pos h]
    decide
  have hdigit : ∀ c : Char, c.isDigit = true → c ≠ '+' := by
    rintro c hc rfl
    cases hc
  exact fun hplus => forall_mem_writeScientific (p := fun c => c ≠ '+') (ne_of_isDigit hds rfl)
    hdigit (by decide) (by decide) hsign '+' hplus rfl

end NumberStyle

namespace Cast

open NumberStyle

variable {cs sign ds : List Char} {exponent : Int}

theorem ofText_of_not_mem (h : 'e' ∉ cs) :
    ofText cs = if '.' ∈ cs then .toFloat else .toInteger := by
  have hmarks : ∀ c, ¬ ['e', c] <:+: cs := fun c hc => h (hc.subset (List.mem_cons_self ..))
  rw [ofText]
  by_cases hpoint : '.' ∈ cs <;> simp [hmarks, hpoint]

theorem ofText_of_plus (h : ['e', '+'] <:+: cs) : ofText cs = .toInteger :=
  if_pos (.inl h)

theorem ofText_of_minus (h : ['e', '-'] <:+: cs) (hplus : '+' ∉ cs) : ofText cs = .toFloat := by
  refine if_neg ?_
  rintro (hmarks | ⟨-, hminus⟩)
  · exact hplus (hmarks.subset (List.mem_cons_of_mem _ (List.mem_cons_self ..)))
  · exact hminus h

/-- The cast told from digits that are written behind a minus sign or nothing. -/
theorem ofText_writeDigits (hsign : ∀ c ∈ sign, c = '-') (hds : ∀ c ∈ ds, c.isDigit = true)
    (hne : ds ≠ []) : ofText (sign ++ queryStyle.writeDigits ds exponent) =
      if 0 ≤ exponent ∨ 21 ≤ leadingExponent ds exponent then .toInteger else .toFloat := by
  have hmark : ∀ {c : Char} {cs : List Char}, c ≠ '-' → (c ∈ sign ++ cs ↔ c ∈ cs) := by
    intro c cs hc
    rw [List.mem_append, or_iff_right fun h => hc (hsign c h)]
  have hbehind : ∀ {as cs : List Char}, as <:+: cs → as <:+: sign ++ cs :=
    fun h => h.trans (List.suffix_append sign _).isInfix
  have hfrom : queryStyle.plainFrom = -6 := rfl
  have hbelow : queryStyle.plainBelow = 21 := rfl
  have hend : queryStyle.wholeEnd = [] := rfl
  simp only [writeDigits, hend]
  split
  · have he : 'e' ∉ sign ++ writePlain [] ds exponent := by
      rw [hmark (by decide)]
      exact not_mem_writePlain hds
    rw [ofText_of_not_mem he]
    simp only [hmark (show '.' ≠ '-' by decide), point_mem_writePlain hds]
    split
    · rw [if_neg (by omega)]
    · rw [if_pos (by omega)]
  · have hmarks := hbehind (infix_writeScientific ds exponent)
    rcases Int.lt_or_le (leadingExponent ds exponent) 0 with hneg | hnonneg
    · have hlength : 0 < ds.length := List.length_pos_of_ne_nil hne
      have hnegative : ¬ (0 ≤ exponent ∨ 21 ≤ leadingExponent ds exponent) := by
        rw [leadingExponent] at hneg ⊢
        omega
      rw [if_pos hneg] at hmarks
      rw [if_neg hnegative]
      refine ofText_of_minus hmarks ?_
      rw [hmark (by decide)]
      exact not_mem_writeScientific hds hneg
    · rw [if_neg (by omega)] at hmarks
      rw [if_pos (by omega), ofText_of_plus hmarks]

/-- **The cast is told from the text of the number.** -/
theorem ofText_writeNumber (x : Binary64) : ofText (writeNumber x) = ofNumber x := by
  rcases Decidable.em (x.rank = 0) with hrank | hrank
  · have hwhole : x.isWhole = true := by
      rw [Binary64.isWhole_iff, hrank]
      exact Nat.dvd_zero _
    rw [writeNumber_of_eq_zero hrank, ofNumber, if_pos hwhole]
    decide
  · have hds := Decimal.isDigit_toDigits (x.shortest queryStyle.tie).coefficient
    have hsign : ∀ c ∈ (if x.negative then ['-'] else []), c = '-' := by
      split <;> simp
    rw [writeNumber_of_ne_zero hrank, ofText_writeDigits hsign hds Nat.toDigits_ne_nil, ofNumber]
    exact (if_congr (Binary64.isWhole_iff_leading queryStyle.tie hrank) rfl rfl).symm

end Cast

/-! ### Comparisons by size -/

variable {operator : String}

theorem canonicalNumber?_eq_some {cs : List Char} {x : Binary64} :
    canonicalNumber? cs = some x ↔
      Binary64.read? (Text.trimList cs) = some x ∧ writeNumber x = Text.trimList cs := by
  rw [canonicalNumber?, Option.filter_eq_some_iff, decide_eq_true_iff]

/-- The number of a text is the one that the text without the blanks around it prints. -/
theorem canonicalNumber?_of_trimList {cs : List Char} {x : Binary64}
    (h : Text.trimList cs = writeNumber x) : canonicalNumber? cs = some x.withoutZeroSign :=
  canonicalNumber?_eq_some.mpr
    ⟨h ▸ read?_writeNumber x, (writeNumber_withoutZeroSign x).trans h.symm⟩

/-- **A canonical value is found to be a number**, and no other. -/
theorem isSome_canonicalNumber?_iff {cs : List Char} :
    (canonicalNumber? cs).isSome = true ↔ IsCanonical (Text.trimList cs) := by
  constructor
  · intro h
    obtain ⟨x, hx⟩ := Option.isSome_iff_exists.mp h
    exact ⟨x, (canonicalNumber?_eq_some.mp hx).2⟩
  · rintro ⟨x, hx⟩
    exact Option.isSome_iff_exists.mpr ⟨_, canonicalNumber?_of_trimList hx.symm⟩

theorem OperatorKind.of_order (h : operator ∈ [">", "<", ">=", "<="]) :
    OperatorKind.of operator = .order :=
  if_pos h

/-- **Numbers are cast by their text.**  A comparison by size casts the property exactly if the
value without the blanks around it is canonical.  Then the comparison is with that text as it
stands, which has no character too many, and the text tells the cast; otherwise it is with the
quoted value, blanks included. -/
theorem comparison_casts_by_text (h : operator ∈ [">", "<", ">=", "<="])
    (name property value : String) :
    ((Predicate.compare name property operator value).cast.isSome = true ↔
        IsCanonical (Text.trimList value.toList)) ∧
      (IsCanonical (Text.trimList value.toList) →
        Text.trimList value.toList ∈ Grammar.canonical ∧
          (Predicate.compare name property operator value).write =
            (Cast.ofText (Text.trimList value.toList)).text.toList
              ++ '(' :: (writeAccess name property ++ [')'])
              ++ ' ' :: (operator.toList ++ ' ' :: Text.trimList value.toList)) ∧
      (¬ IsCanonical (Text.trimList value.toList) →
        (Predicate.compare name property operator value).write =
          writeAccess name property
            ++ ' ' :: (operator.toList ++ ' ' :: Text.quoteList value.toList)) := by
  rw [Predicate.compare, OperatorKind.of_order h, ← isSome_canonicalNumber?_iff]
  cases hnumber : canonicalNumber? value.toList with
  | none => exact ⟨iff_of_false nofun nofun, nofun, fun _ => rfl⟩
  | some x =>
      refine ⟨iff_of_true rfl rfl, fun _ => ?_, fun hnone => absurd rfl hnone⟩
      rw [← (canonicalNumber?_eq_some.mp hnumber).2, Cast.ofText_writeNumber]
      exact ⟨writeNumber_mem_canonical x, rfl⟩

/-- A number with a positive exponent, a tab and a blank around it. -/
theorem comparison_casts_by_text_of_large :
    ">=" ∈ [">", "<", ">=", "<="] ∧
      (Predicate.compare "n" "mass" ">=" "\t1e+21 ").write =
        "toInteger(n.mass) >= 1e+21".toList := by
  have hcanonical : IsCanonical (Text.trimList "\t1e+21 ".toList) :=
    ⟨⟨false, 4921056587992461136, by decide⟩, by decide +kernel⟩
  have hoperator : ">=" ∈ [">", "<", ">=", "<="] := by decide
  obtain ⟨-, htext, -⟩ := comparison_casts_by_text hoperator "n" "mass" "\t1e+21 "
  exact ⟨hoperator, (htext hcanonical).2.trans (by decide)⟩

end GraphQuery
