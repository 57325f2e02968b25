import Mathlib.Data.List.InsertIdx
import GraphQuery.Proofs.ReturnItems

/-!
# Proofs — moves and how to take them back

A move takes a node out of its place and puts it in at another.  Where everything else goes is what
the same move does to the list of positions (`findIdx?_replay`), so the fields that name positions
are rewritten as that list says (`fieldAfterMove_eq_replay`).

Moving back restores the nodes.  A field that names a position comes back as the plain numeral of it
(`moveNode?_moveNode?`), which is the field itself if it was written without a plus sign and without
zeros in front (`Text.IsPlain`).  **So a move can be taken back, if the fields that name positions
are plain** (`move_taken_back`).
-/

namespace GraphQuery

namespace Text

/-! ### Plain numerals -/

/-- No plus sign, and no zero in front of anything. -/
def IsPlain (cs : List Char) : Prop :=
  cs.head? ≠ some '+' ∧ (cs.head? = some '0' → cs = ['0'])

instance (cs : List Char) : Decidable (IsPlain cs) :=
  inferInstanceAs (Decidable (_ ∧ _))

/-- A digit is the digit of its value. -/
theorem digitChar_toNat_sub {c : Char} (h : c.isDigit = true) :
    Nat.digitChar (c.toNat - '0'.toNat) = c ∧ c.toNat - '0'.toNat < 10 := by
  simp only [Char.isDigit, Bool.and_eq_true, decide_eq_true_eq, ge_iff_le,
    UInt32.le_iff_toNat_le] at h
  have hlow : 48 ≤ c.toNat := h.1
  have hhigh : c.toNat ≤ 57 := h.2
  have hall : ∀ n < 10, Nat.digitChar n = Char.ofNat (n + 48) := by decide
  have hzero : '0'.toNat = 48 := rfl
  rw [hzero, hall _ (by omega), Nat.sub_add_cancel hlow]
  exact ⟨Char.ofNat_toNat c, by omega⟩

/-- Digits behind a positive number stand behind its decimal text. -/
theorem toDigits_ofDigitChars {n : Nat} (hn : 0 < n) {cs : List Char}
    (hdigits : ∀ c ∈ cs, c.isDigit = true) :
    Nat.toDigits 10 (Nat.ofDigitChars 10 cs n) = Nat.toDigits 10 n ++ cs := by
  induction cs generalizing n with
  | nil => rw [Nat.ofDigitChars_nil, List.append_nil]
  | cons c cs ih =>
      obtain ⟨hc, hlt⟩ := digitChar_toNat_sub (hdigits c (List.mem_cons_self ..))
      rw [Nat.ofDigitChars_cons, ih (by omega) fun d hd => hdigits d (List.mem_cons_of_mem c hd),
        ← Nat.toDigits_append_toDigits (by decide) hn hlt, Nat.toDigits_of_lt_base hlt, hc,
        List.append_assoc, List.singleton_append]

/-- A plain numeral is the decimal text of its number. -/
theorem WritesNumber.eq_repr {s : String} {n : Nat} (h : WritesNumber s.toList n)
    (hplain : IsPlain s.toList) : s = n.repr := by
  obtain ⟨ds, hs | hs, hne, hdigits, rfl⟩ := h
  · rw [hs] at hplain
    rw [← String.toList_inj, Nat.toList_repr, hs]
    cases ds with
    | nil => exact absurd rfl hne
    | cons d ds =>
        obtain ⟨hd, hlt⟩ := digitChar_toNat_sub (hdigits d (List.mem_cons_self ..))
        by_cases hzero : d = '0'
        · rw [hplain.2 (congrArg some hzero)]
          rfl
        · -- the first digit has a positive value
          have hpos : 0 < d.toNat - '0'.toNat := by
            refine Nat.pos_of_ne_zero fun h => hzero ?_
            rw [← hd, h]
            rfl
          rw [Nat.ofDigitChars_cons, Nat.mul_zero, Nat.zero_add,
            toDigits_ofDigitChars hpos fun c hc => hdigits c (List.mem_cons_of_mem d hc),
            Nat.toDigits_of_lt_base hlt, hd, List.singleton_append]
  · rw [hs] at hplain
    exact absurd rfl hplain.1

end Text

namespace Diagram

/-! ### The replayed positions -/

/-- What a move makes of the list of all positions. -/
def replay (count source target : Nat) : List Nat :=
  ((List.range count).eraseIdx source).insertIdx target source

variable {count source target position : Nat}

theorem getElem?_replay (hsource : source < count) (htarget : target < count)
    (hposition : position < count) :
    (replay count source target)[positionAfterMove source target position]? = some position := by
  have hrange : ∀ i < count, (List.range count)[i]? = some i := fun i hi => by simp [hi]
  rw [replay, ReturnItem.getElem?_positionAfterMove (hrange source hsource) (by simpa)
    (by simpa), hrange position hposition]

/-- Each position is found where the move takes it, and nowhere else. -/
theorem findIdx?_replay (hsource : source < count) (htarget : target < count)
    (hposition : position < count) :
    (replay count source target).findIdx? (· = position)
      = some (positionAfterMove source target position) := by
  obtain ⟨hlt, hat⟩ :=
    List.getElem?_eq_some_iff.mp (getElem?_replay hsource htarget hposition)
  refine List.findIdx?_eq_some_iff_getElem.mpr ⟨hlt, decide_eq_true hat, fun j hj hfound => ?_⟩
  -- what stands at `j` is what moving back takes there
  have hjcount : j < count :=
    Nat.lt_trans hj (ReturnItem.positionAfterMove_lt hsource htarget hposition)
  have hback := getElem?_replay hsource htarget
    (ReturnItem.positionAfterMove_lt htarget hsource hjcount)
  rw [ReturnItem.positionAfterMove_positionAfterMove,
    List.getElem?_eq_getElem (Nat.lt_trans hj hlt), Option.some.injEq,
    of_decide_eq_true hfound] at hback
  rw [hback, ReturnItem.positionAfterMove_positionAfterMove] at hj
  exact Nat.lt_irrefl j hj

/-- A field that names a position is written anew as the replayed positions say. -/
theorem fieldAfterMove_eq_replay (hsource : source < count) (htarget : target < count)
    (field : String) :
    fieldAfterMove count source target field =
      match (position? field count).bind fun old =>
          (replay count source target).findIdx? (· = old) with
      | some new => positionField new
      | none => field := by
  rw [fieldAfterMove]
  cases hp : position? field count with
  | none => rfl
  | some position =>
      rw [Option.bind_some, findIdx?_replay hsource htarget (position?_eq_some_iff.mp hp).2]

/-! ### Moving back -/

/-- A field that names a position, written plainly. -/
def plainField (count : Nat) (field : String) : String :=
  match position? field count with
  | some position => positionField position
  | none => field

theorem plainField_eq_self {field : String}
    (h : (position? field count).isSome = true → Text.IsPlain field.toList) :
    plainField count field = field := by
  rw [plainField]
  cases hp : position? field count with
  | none => rfl
  | some position =>
      rw [hp] at h
      exact ((position?_eq_some_iff.mp hp).1.eq_repr (h rfl)).symm

theorem fieldAfterMove_fieldAfterMove (hsource : source < count) (htarget : target < count)
    (field : String) :
    fieldAfterMove count target source (fieldAfterMove count source target field)
      = plainField count field := by
  cases hp : position? field count with
  | none => simp only [fieldAfterMove, plainField, hp]
  | some position =>
      have hmoved : positionAfterMove source target position < count :=
        ReturnItem.positionAfterMove_lt hsource htarget (position?_eq_some_iff.mp hp).2
      simp only [fieldAfterMove, plainField, hp, position?_positionField hmoved,
        ReturnItem.positionAfterMove_positionAfterMove]

variable {d d' : Diagram}

/-- **Moving back** restores the nodes, and leaves the fields that name positions plain. -/
theorem moveNode?_moveNode? (h : d.moveNode? source target = some d') (hne : source ≠ target) :
    d'.moveNode? target source =
      some { d with returnFields := d.returnFields.map (plainField d.nodes.length) } := by
  obtain ⟨n, hn, htarget, rfl⟩ := moveNode?_eq_some h
  obtain ⟨hsource, rfl⟩ := List.getElem?_eq_some_iff.mp hn
  have hlength := ReturnItem.length_insertIdx_eraseIdx hsource htarget d.nodes[source]
  have hshorter : (d.nodes.eraseIdx source).length = d.nodes.length - 1 :=
    List.length_eraseIdx_of_lt hsource
  have hmoved : ((d.nodes.eraseIdx source).insertIdx target d.nodes[source])[target]?
      = some d.nodes[source] := by
    rw [List.getElem?_insertIdx_self, if_pos (by omega)]
  rw [if_neg hne, moveNode?]
  simp only [hlength, if_pos hsource, hmoved, Option.map_some, if_neg (Ne.symm hne),
    List.eraseIdx_insertIdx_self, List.insertIdx_eraseIdx_getElem hsource, List.map_map,
    Function.comp_def, fieldAfterMove_fieldAfterMove hsource htarget]

end Diagram

/-- **A move can be taken back.**  If the fields that name positions are written without a plus sign
and without zeros in front, moving the node back from where it has been moved to restores the
diagram.  A move changes nothing but the order of the nodes and the return fields. -/
theorem move_taken_back (d d' : Diagram) (source target : Nat)
    (hplain : ∀ field ∈ d.returnFields, (position? field d.nodes.length).isSome = true →
      Text.IsPlain field.toList)
    (h : d.moveNode? source target = some d') :
    d'.moveNode? target source = some d ∧ d'.relationships = d.relationships ∧
      d'.conditions = d.conditions ∧ d'.limit = d.limit ∧ d'.limitMode = d.limitMode := by
  by_cases hsame : source = target
  · obtain ⟨n, hn, htarget, rfl⟩ := Diagram.moveNode?_eq_some h
    subst hsame
    rw [if_pos rfl] at h ⊢
    exact ⟨h, rfl, rfl, rfl, rfl⟩
  · have hfields : d.returnFields.map (Diagram.plainField d.nodes.length) = d.returnFields := by
      rw [List.map_congr_left fun field hfield => Diagram.plainField_eq_self (hplain field hfield),
        List.map_id']
    refine ⟨?_, ?_⟩
    · rw [Diagram.moveNode?_moveNode? h hsame, hfields]
    · obtain ⟨n, hn, htarget, rfl⟩ := Diagram.moveNode?_eq_some h
      rw [if_neg hsame]
      exact ⟨rfl, rfl, rfl, rfl⟩

/-- A move over both ends of `trio` and back: positions in range are rewritten and come back, and a
padded one, a number out of range and a text stay as they are. -/
theorem move_of_trio_taken_back :
    (∀ field ∈ (trio ["2", "0", " 1", "007", "x"]).returnFields,
        (position? field 3).isSome = true → Text.IsPlain field.toList) ∧
      ∃ d', (trio ["2", "0", " 1", "007", "x"]).moveNode? 0 2 = some d' ∧
        d'.returnFields = ["1", "2", " 1", "007", "x"] ∧
        d'.moveNode? 2 0 = some (trio ["2", "0", " 1", "007", "x"]) := by
  have hplain : ∀ field ∈ (trio ["2", "0", " 1", "007", "x"]).returnFields,
      (position? field 3).isSome = true → Text.IsPlain field.toList := by decide
  exact ⟨hplain, _, rfl, by decide, (move_taken_back _ _ 0 2 hplain rfl).1⟩

end GraphQuery
