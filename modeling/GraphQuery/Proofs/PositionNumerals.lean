import GraphQuery.Proofs.ReturnItems

/-!
# Proofs — numerals of positions

A numeral has one value (`Text.WritesNumber.eq`), so a field that is a numeral names its value or
nothing, however long it is (`position?_of_writesNumber`), and a numeral that does not fit into a
word of 64 bits names no position among that many nodes (`position?_eq_filter`).  A removal and a
move leave a field as it is or write the numeral of a position that there is afterwards
(`rewrites_removeNode?`, `rewrites_moveNode?`).

**Fields name positions by their numerals** (`positions_named_by_numerals`).
-/

namespace GraphQuery

/-- A numeral has one value. -/
theorem Text.WritesNumber.eq {cs : List Char} {v w : Nat} (hv : Text.WritesNumber cs v)
    (hw : Text.WritesNumber cs w) : v = w := by
  -- both are what is read below a bound above them
  have hread : Text.readUnsigned (v + w + 1) cs = .ok v :=
    Text.readUnsigned_eq_ok.mpr ⟨hv, by omega⟩
  have hread' : Text.readUnsigned (v + w + 1) cs = .ok w :=
    Text.readUnsigned_eq_ok.mpr ⟨hw, by omega⟩
  exact Except.ok.inj (hread.symm.trans hread')

/-- A numeral names its value if that is in range, and nothing otherwise. -/
theorem position?_of_writesNumber {field : String} {v : Nat}
    (h : Text.WritesNumber field.toList v) (count : Nat) :
    position? field count = if v < count then some v else none := by
  by_cases hlt : v < count
  · rw [if_pos hlt]
    exact position?_eq_some_iff.mpr ⟨h, hlt⟩
  · rw [if_neg hlt, Option.eq_none_iff_forall_ne_some]
    intro p hp
    obtain ⟨hwrites, hp⟩ := position?_eq_some_iff.mp hp
    exact hlt (h.eq hwrites ▸ hp)

/-- To read a number below a bound and to compare it afterwards is the same as to read it below the
smaller bound. -/
theorem position?_eq_filter (field : String) {count bound : Nat} (h : count ≤ bound) :
    position? field count
      = (Text.readUnsigned bound field.toList).toOption.filter (· < count) := by
  show position? field count = (position? field bound).filter (· < count)
  cases hp : position? field bound with
  | none => exact position?_eq_none_of_le hp h
  | some p =>
      rw [position?_of_writesNumber (position?_eq_some_iff.mp hp).1]
      simp [Option.filter]

namespace Diagram

/-- Each field of the second diagram is a field of the first one, or else the numeral of where a node
is now that a field of the first one named, and names it. -/
def Rewrites (d d' : Diagram) : Prop :=
  ∀ field' ∈ d'.returnFields, ∃ field ∈ d.returnFields, field' = field ∨
    ∃ p q, position? field d.nodes.length = some p ∧ d'.nodes[q]? = d.nodes[p]? ∧
      field' = positionField q ∧ position? field' d'.nodes.length = some q

variable {d d' : Diagram}

theorem rewrites_removeNode? {id : String} (h : d.removeNode? id = some d') : d.Rewrites d' := by
  obtain ⟨index, n, -, hn, -, rfl⟩ := removeNode?_eq_some h
  obtain ⟨hindex, -⟩ := List.getElem?_eq_some_iff.mp hn
  intro field' hfield'
  obtain ⟨field, hfield, hafter⟩ := List.mem_filterMap.mp hfield'
  refine ⟨field, hfield, ?_⟩
  rw [fieldAfterRemoval] at hafter
  split at hafter
  · rename_i p hp
    split at hafter
    · cases hafter
    · split at hafter <;> obtain rfl := Option.some.inj hafter
      · -- the node at `p` has moved up by one
        have hlt : p < d.nodes.length := (position?_eq_some_iff.mp hp).2
        have hlt' : p - 1 < (d.nodes.eraseIdx index).length := by
          rw [List.length_eraseIdx_of_lt hindex]
          omega
        refine .inr ⟨p, p - 1, hp, ?_, rfl, position?_positionField hlt'⟩
        rw [List.getElem?_eraseIdx_of_ge (by omega), Nat.sub_add_cancel (by omega)]
      · exact .inl rfl
  · exact .inl (Option.some.inj hafter).symm

theorem rewrites_moveNode? {source target : Nat} (h : d.moveNode? source target = some d') :
    d.Rewrites d' := by
  obtain ⟨n, hn, htarget, rfl⟩ := moveNode?_eq_some h
  obtain ⟨hsource, -⟩ := List.getElem?_eq_some_iff.mp hn
  split
  · exact fun field hfield => ⟨field, hfield, .inl rfl⟩
  · intro field' hfield'
    obtain ⟨field, hfield, rfl⟩ := List.mem_map.mp hfield'
    refine ⟨field, hfield, ?_⟩
    rw [fieldAfterMove]
    split
    · rename_i p hp
      have hlt : p < d.nodes.length := (position?_eq_some_iff.mp hp).2
      have hlt' : positionAfterMove source target p
          < ((d.nodes.eraseIdx source).insertIdx target n).length := by
        rw [ReturnItem.length_insertIdx_eraseIdx hsource htarget]
        exact ReturnItem.positionAfterMove_lt hsource htarget hlt
      exact .inr ⟨p, _, hp, ReturnItem.getElem?_positionAfterMove hn htarget hlt, rfl,
        position?_positionField hlt'⟩
    · exact .inl rfl

end Diagram

/-- **Fields name positions by their numerals.**

* A field names a position exactly if it is an optional plus sign and one or more digits with that
  value, and the position is in range.  Its length does not matter.
* So a numeral with a value out of range names nothing, and a field may as well be read as a number
  of 64 bits that is compared with the number of nodes afterwards: no value is wrapped into range.
* The decimal text of a position in range names that position.  When a node is removed or moved, a
  field is left as it is, or becomes the decimal text of the position where the node is now that it
  has named, and names that position. -/
theorem positions_named_by_numerals :
    (∀ field count p, position? field count = some p ↔
      Text.WritesNumber field.toList p ∧ p < count) ∧
    (∀ field count v, Text.WritesNumber field.toList v → count ≤ v →
      position? field count = none) ∧
    (∀ field count, count ≤ UInt64.size →
      position? field count
        = (Text.readUnsigned UInt64.size field.toList).toOption.filter (· < count)) ∧
    (∀ count p, p < count → position? (positionField p) count = some p) ∧
    (∀ (d d' : Diagram) id, d.removeNode? id = some d' → d.Rewrites d') ∧
    ∀ (d d' : Diagram) source target, d.moveNode? source target = some d' → d.Rewrites d' := by
  refine ⟨fun _ _ _ => position?_eq_some_iff, fun field count v hv hle => ?_,
    fun field _ h => position?_eq_filter field h, fun _ _ => position?_positionField,
    fun _ _ _ => Diagram.rewrites_removeNode?, fun _ _ _ _ => Diagram.rewrites_moveNode?⟩
  rw [position?_of_writesNumber hv, if_neg (Nat.not_lt.mpr hle)]

/-- Of three nodes `+002` names the last one, and a number that is larger by `2 ^ 64` names none.
After another node is removed or moved behind, the field is the numeral of the second position. -/
theorem numerals_of_trio :
    position? "+002" 3 = some 2 ∧ position? "18446744073709551618" 3 = none ∧
      position? "1" 3 = some 1 ∧
      (Text.readUnsigned UInt64.size "+002".toList).toOption.filter (· < 3) = some 2 ∧
      (∃ d', (trio ["+002", "18446744073709551618"]).removeNode? "1" = some d' ∧
        d'.returnFields = ["1", "18446744073709551618"] ∧
        (trio ["+002", "18446744073709551618"]).Rewrites d') ∧
      ∃ d', (trio ["+002", "18446744073709551618"]).moveNode? 0 2 = some d' ∧
        d'.returnFields = ["1", "18446744073709551618"] ∧
        (trio ["+002", "18446744073709551618"]).Rewrites d' := by
  obtain ⟨hreads, hbeyond, hword, hback, hremove, hmove⟩ := positions_named_by_numerals
  have hdigits : Text.WritesNumber "+002".toList 2 :=
    ⟨['0', '0', '2'], .inr rfl, by decide, List.all_eq_true.mp rfl, by decide⟩
  have hlarge : Text.WritesNumber "18446744073709551618".toList (UInt64.size + 2) :=
    ⟨_, .inl rfl, by decide, List.all_eq_true.mp rfl, by decide +kernel⟩
  have hthird : position? "+002" 3 = some 2 := (hreads _ _ _).mpr ⟨hdigits, by decide⟩
  exact ⟨hthird, hbeyond _ _ _ hlarge (by decide), hback 3 1 (by decide),
    (hword "+002" 3 (by decide)).symm.trans hthird, ⟨_, rfl, by decide +kernel, hremove _ _ "1" rfl⟩,
    ⟨_, rfl, by decide +kernel, hmove _ _ 0 2 rfl⟩⟩

end GraphQuery
