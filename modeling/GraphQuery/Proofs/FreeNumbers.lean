import Mathlib.Order.Interval.Finset.Nat
import GraphQuery.Proofs.Uniqueness

/-!
# Proofs — the least free number

A relationship whose name is taken tries `r1`, `r2`, … until one of them is free.  `StopsAt used n m`
says that the trying, once it has come to the number `n`, passes over names in use and stops at `m`;
there is no bound on how far it goes.  Where it stops is the least number from `n` on with a free
name (`stopsAt_iff`), and `freeName?` finds the name at which the trying from one on stops
(`exists_stopsAt_of_freeName?`).  The names that are passed over are all in use, so there are no more
of them than names in use (`StopsAt.le_card`).

**The trying ends at the least free number** (`numbers_tried_end_at_least_free`).
-/

namespace GraphQuery

/-- From a number on, the numbers whose names are in use are passed over up to the first one whose
name is not. -/
inductive StopsAt (used : List String) : Nat → Nat → Prop
  /-- The name is free. -/
  | free {n : Nat} (h : numberedName n ∉ used) : StopsAt used n n
  /-- The name is in use, and the next number is tried. -/
  | taken {n m : Nat} (h : numberedName n ∈ used) (hnext : StopsAt used (n + 1) m) :
      StopsAt used n m

variable {used : List String} {n m : Nat}

/-- **The trying stops** at the least number with a free name. -/
theorem stopsAt_iff :
    StopsAt used n m ↔
      n ≤ m ∧ numberedName m ∉ used ∧ ∀ k, n ≤ k → k < m → numberedName k ∈ used := by
  constructor
  · intro h
    induction h with
    | free h => exact ⟨le_rfl, h, fun k hle hlt => absurd hlt (Nat.not_lt.mpr hle)⟩
    | taken h _ ih =>
        obtain ⟨hle, hfree, hused⟩ := ih
        refine ⟨Nat.le_of_succ_le hle, hfree, fun k hk hlt => ?_⟩
        rcases Nat.eq_or_lt_of_le hk with rfl | hk
        · exact h
        · exact hused k hk hlt
  · rintro ⟨hle, hfree, hused⟩
    -- back from `m`, where the trying stops, to `n`
    exact Nat.decreasingInduction' (fun k hlt hk hnext => .taken (hused k hk hlt) hnext) hle
      (.free hfree)

/-- It stops at one number only. -/
theorem StopsAt.eq {m' : Nat} (h : StopsAt used n m) (h' : StopsAt used n m') : m' = m := by
  induction h with
  | free h =>
      cases h' with
      | free => rfl
      | taken h'' => exact absurd h'' h
  | taken h _ ih =>
      cases h' with
      | free h'' => exact absurd h h''
      | taken _ hnext => exact ih hnext

/-- The names of the numbers that are passed over are different names in use. -/
theorem StopsAt.le_card (h : StopsAt used 1 m) : m ≤ used.toFinset.card + 1 := by
  obtain ⟨hle, -, hused⟩ := stopsAt_iff.mp h
  have hsubset : (Finset.Ico 1 m).image numberedName ⊆ used.toFinset := by
    intro name hname
    obtain ⟨k, hk, rfl⟩ := Finset.mem_image.mp hname
    obtain ⟨hk, hlt⟩ := Finset.mem_Ico.mp hk
    exact List.mem_toFinset.mpr (hused k hk hlt)
  have hcard : m - 1 ≤ used.toFinset.card := by
    calc m - 1 = (Finset.Ico 1 m).card := (Nat.card_Ico 1 m).symm
      _ = ((Finset.Ico 1 m).image numberedName).card :=
          (Finset.card_image_of_injective _ numberedName_injective).symm
      _ ≤ used.toFinset.card := Finset.card_le_card hsubset
  omega

/-- The free name that is found is the one at which the trying stops. -/
theorem exists_stopsAt_of_freeName? {name : String} (h : freeName? used = some name) :
    ∃ m, StopsAt used 1 m ∧ name = numberedName m := by
  rw [freeName?, List.find?_map] at h
  obtain ⟨m, hm, rfl⟩ := Option.map_eq_some_iff.mp h
  obtain ⟨hfree, hmem, hleast⟩ := List.find?_range'_eq_some.mp hm
  have hle : 1 ≤ m := (List.mem_range'_1.mp hmem).1
  refine ⟨m, stopsAt_iff.mpr ⟨hle, by simpa using hfree, fun k hk hlt => ?_⟩, rfl⟩
  simpa using hleast k hk hlt

namespace Names

/-- **The trying ends at the least free number.**  Let the name that a relationship prefers be in
use, whatever names have been settled so far.  Then the trying of `r1`, `r2`, … stops, at one number
`n` only.  It is the least one from one on whose name is free, and at most one more than the names
in use.  Its name is found, so that the relationship never falls back on the name that is in use,
and becomes the name of the relationship. -/
theorem numbers_tried_end_at_least_free (names : Names) (a : ActiveRelationship)
    (h : preferredName a ∈ names.used) :
    ∃ n, StopsAt names.used 1 n ∧ (∀ m, StopsAt names.used 1 m → m = n) ∧
      1 ≤ n ∧ numberedName n ∉ names.used ∧
      (∀ k, 1 ≤ k → k < n → numberedName k ∈ names.used) ∧
      n ≤ names.used.toFinset.card + 1 ∧
      freeName? names.used = some (numberedName n) ∧
      (names.bindRelationship a).relationship? a.relationship.id = some (numberedName n) ∧
      numberedName n ≠ preferredName a := by
  obtain ⟨name, hname, -⟩ := exists_freeName? names.used
  obtain ⟨n, hstops, rfl⟩ := exists_stopsAt_of_freeName? hname
  obtain ⟨hpos, hfree, hused⟩ := stopsAt_iff.mp hstops
  refine ⟨n, hstops, fun m hm => hstops.eq hm, hpos, hfree, hused, hstops.le_card, hname, ?_, ?_⟩
  · have hgets : relationshipName names.used a = numberedName n := by
      rw [relationshipName, if_pos h, hname]
      rfl
    rw [bindRelationship, relationship?_cons, if_pos rfl, hgets]
  · exact fun heq => hfree (heq ▸ h)

/-- The names of three nodes, two of which share the name that nothing follows, and of a
relationship. -/
def crowded : Names :=
  [.node ⟨"1", Option.none, ""⟩, .node ⟨"2", Option.none, ""⟩, .node ⟨"3", Option.none, "r1"⟩,
    .relationship ⟨1, .ofEnds "x" "1" "2" Option.none⟩].foldl (bind 26) Names.none

/-- A relationship that asks for the name of another one. -/
def latecomer : ActiveRelationship :=
  ⟨2, { Relationship.ofEnds "y" "2" "3" Option.none with name := some "r2" }⟩

/-- Among the names of `crowded`, `latecomer` is named `r3`: numbers up to two are taken. -/
theorem numbers_tried_of_crowded :
    preferredName latecomer ∈ crowded.used ∧ StopsAt crowded.used 1 3 ∧
      3 ≤ crowded.used.toFinset.card + 1 ∧
      (crowded.bindRelationship latecomer).relationship? "y" = some "r3" := by
  have htaken : preferredName latecomer ∈ crowded.used := by decide
  have hthree : StopsAt crowded.used 1 3 :=
    .taken (by decide) (.taken (by decide) (.free (by decide)))
  obtain ⟨n, hstops, honly, -, -, -, hle, -, hname, -⟩ :=
    numbers_tried_end_at_least_free crowded latecomer htaken
  obtain rfl := honly 3 hthree
  exact ⟨htaken, hstops, hle, hname⟩

end Names

end GraphQuery
