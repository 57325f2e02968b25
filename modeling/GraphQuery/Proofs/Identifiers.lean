import Mathlib.Logic.Function.Iterate
import GraphQuery.Proofs.NumberText
import GraphQuery.Proofs.Snapshot

/-!
# Proofs — names that are identifiers

An identifier is a letter or an underscore, followed by letters, digits and underscores, all of them
ASCII.  A relationship gets its own name or a numbered one, so that its name is an identifier if
those that are asked for are.

A node whose name is taken gets one with a later first character (`probe_eq_iterate`).  Bumping an
identifier leaves everything behind the first character alone, and the probes that settings allow do
not lead far (`bump_iterate`), but they lead past the letters.  So the name of a node is an
identifier exactly if its first character is still a letter or an underscore
(`identifiers_kept_iff_in_alphabet`), and two nodes that ask for `z` are enough to leave the alphabet
(`identifier_lost_behind_z`).
-/

namespace GraphQuery

/-! ### Identifiers -/

/-- Whether an identifier may start with a character. -/
def isIdentifierStart (c : Char) : Bool :=
  c.isAlpha || c == '_'

/-- Whether an identifier may go on with a character. -/
def isIdentifierRest (c : Char) : Bool :=
  c.isAlphanum || c == '_'

/-- Whether a name is an identifier. -/
def isIdentifier (name : String) : Bool :=
  match name.toList with
  | [] => false
  | c :: cs => isIdentifierStart c && cs.all isIdentifierRest

theorem isIdentifier_iff {name : String} :
    isIdentifier name = true ↔ ∃ c cs, name = String.ofList (c :: cs) ∧
      isIdentifierStart c = true ∧ ∀ x ∈ cs, isIdentifierRest x = true := by
  rw [isIdentifier]
  cases hname : name.toList with
  | nil =>
      refine iff_of_false Bool.false_ne_true ?_
      rintro ⟨c, cs, rfl, -⟩
      cases hname.symm.trans String.toList_ofList
  | cons c cs =>
      obtain rfl : name = String.ofList (c :: cs) := by rw [← hname, String.ofList_toList]
      rw [Bool.and_eq_true, List.all_eq_true]
      refine ⟨fun h => ⟨c, cs, rfl, h⟩, ?_⟩
      rintro ⟨c', cs', heq, h⟩
      cases String.ofList_injective heq
      exact h

/-- A numbered name is an identifier. -/
theorem isIdentifier_numberedName (n : Nat) : isIdentifier (numberedName n) = true := by
  refine isIdentifier_iff.mpr ⟨'r', n.repr.toList, ?_, rfl, fun x hx => ?_⟩
  · rw [← String.toList_inj]
    simp [numberedName]
  · rw [Nat.toList_repr] at hx
    have hdigit : x.isDigit = true := Nat.isDigit_of_mem_toDigits (by decide) (by decide) hx
    simp [isIdentifierRest, Char.isAlphanum, hdigit]

theorem toNat_le_of_isIdentifierStart {c : Char} (h : isIdentifierStart c = true) :
    c.toNat ≤ 122 := by
  rw [isIdentifierStart, Bool.or_eq_true, beq_iff_eq] at h
  rcases h with h | rfl
  · rcases Bool.or_eq_true_iff.mp h with hupper | hlower
    · exact Nat.le_trans (UInt32.le_iff_toNat_le.mp (of_decide_eq_true hupper).2) (by decide)
    · exact UInt32.le_iff_toNat_le.mp (of_decide_eq_true (Bool.and_eq_true_iff.mp hlower).2)
  · decide

/-! ### Bumping -/

theorem toNat_ofNat_of_isValidChar {n : Nat} (h : n.isValidChar) : (Char.ofNat n).toNat = n := by
  rw [Char.ofNat, dif_pos h]
  rfl

/-- Bumping a name changes its first character only, and by one each time as long as there is a
character with that number. -/
theorem bump_iterate_of_isValidChar {c : Char} {k : Nat} (cs : List Char)
    (h : ∀ j ≤ k, (c.toNat + j).isValidChar) :
    bump^[k] (String.ofList (c :: cs)) = String.ofList (Char.ofNat (c.toNat + k) :: cs) := by
  induction k with
  | zero => rw [Function.iterate_zero_apply, Nat.add_zero, Char.ofNat_toNat]
  | succ k ih =>
      have hchar : (Char.ofNat (c.toNat + k)).toNat = c.toNat + k :=
        toNat_ofNat_of_isValidChar (h k (Nat.le_succ k))
      have hnext : (c.toNat + k + 1).isValidChar := h (k + 1) (Nat.le_refl _)
      rw [Function.iterate_succ_apply', ih fun j hj => h j (Nat.le_succ_of_le hj), bump,
        String.toList_ofList]
      simp only [nextChar, hchar, if_pos hnext]
      rw [Nat.add_assoc]

theorem bump_iterate {c : Char} {k : Nat} (cs : List Char) (h : c.toNat + k < 0xD800) :
    bump^[k] (String.ofList (c :: cs)) = String.ofList (Char.ofNat (c.toNat + k) :: cs) :=
  bump_iterate_of_isValidChar cs fun _ _ => .inl (by omega)

/-- An identifier that is bumped no further than settings allow is still one exactly if its first
character is a letter or an underscore. -/
theorem isIdentifier_iterate_bump {name : String} {k : Nat} (hname : isIdentifier name = true)
    (hk : k ≤ 26) :
    isIdentifier (bump^[k] name) = true ↔
      ∃ c ∈ name.toList.head?, isIdentifierStart (Char.ofNat (c.toNat + k)) = true := by
  obtain ⟨c, cs, rfl, hc, hcs⟩ := isIdentifier_iff.mp hname
  have hlow := toNat_le_of_isIdentifierStart hc
  rw [bump_iterate cs (by omega), isIdentifier, String.toList_ofList, String.toList_ofList]
  simp [List.all_eq_true.mpr hcs]

/-- Probing bumps a name over names in use, and stops before the probes run out only at one that is
not in use or that bumping does not change. -/
theorem probe_eq_iterate (used : List String) :
    ∀ (probes : Nat) (name : String), ∃ k ≤ probes, probe used probes name = bump^[k] name ∧
      (∀ j < k, bump^[j] name ∈ used) ∧
      (k < probes → bump^[k] name ∈ used → bump (bump^[k] name) = bump^[k] name)
  | 0, name => ⟨0, Nat.le_refl 0, rfl, nofun, nofun⟩
  | probes + 1, name => by
      rw [probe]
      split
      · rename_i hname
        obtain ⟨k, hk, hprobe, hused, hend⟩ := probe_eq_iterate used probes (bump name)
        refine ⟨k + 1, Nat.succ_le_succ hk, hprobe, fun j hj => ?_,
          fun hlt => hend (Nat.lt_of_succ_lt_succ hlt)⟩
        cases j with
        | zero => exact hname.1
        | succ j => exact hused j (Nat.lt_of_succ_lt_succ hj)
      · rename_i hname
        refine ⟨0, Nat.zero_le _, rfl, nofun, fun _ hused => ?_⟩
        by_contra hne
        exact hname ⟨hused, hne⟩

/-- Bumping changes an identifier as far as settings allow. -/
theorem bump_iterate_ne {name : String} {k : Nat} (hname : isIdentifier name = true) (hk : k ≤ 26) :
    bump (bump^[k] name) ≠ bump^[k] name := by
  obtain ⟨c, cs, rfl, hc, -⟩ := isIdentifier_iff.mp hname
  have hlow := toNat_le_of_isIdentifierStart hc
  rw [← Function.iterate_succ_apply' bump, bump_iterate cs (by omega), bump_iterate cs (by omega)]
  intro heq
  -- the two first characters have different numbers
  have hchar := congrArg Char.toNat (List.cons.inj (String.ofList_injective heq)).1
  rw [toNat_ofNat_of_isValidChar (.inl (by omega)),
    toNat_ofNat_of_isValidChar (.inl (by omega))] at hchar
  omega

/-! ### The names of a query -/

section Query

variable {settings : Settings} {d : Diagram}

/-- Settings that keep their ranges allow at most 26 probes. -/
theorem maxProbes_le_of_violations (h : settings.violations = []) : settings.maxProbes ≤ 26 := by
  rw [Settings.violations, List.append_eq_nil_iff] at h
  have hprobes := h.2
  split at hprobes
  · rename_i hrange
    exact hrange.2
  · cases hprobes

/-- The name of a relationship is an identifier if the one that it asks for is. -/
theorem isIdentifier_relationshipName {used : List String} {a : ActiveRelationship}
    (h : ∀ name ∈ a.relationship.name, name ≠ "" → isIdentifier name = true) :
    isIdentifier (Names.relationshipName used a) = true := by
  have hpreferred : isIdentifier (preferredName a) = true := by
    rw [preferredName]
    cases hname : a.relationship.name.filter (· ≠ "") with
    | none => exact isIdentifier_numberedName _
    | some name =>
        obtain ⟨hmem, hne⟩ := Option.filter_eq_some_iff.mp hname
        exact h name hmem (of_decide_eq_true hne)
  rw [Names.relationshipName]
  split
  · cases hfree : freeName? used with
    | none => exact hpreferred
    | some name =>
        obtain ⟨n, -, rfl⟩ := List.mem_map.mp (List.mem_of_find?_eq_some hfree)
        exact isIdentifier_numberedName n
  · exact hpreferred

/-- The name of an active relationship is one that some active relationship could get. -/
theorem Snapshot.exists_relationshipName_eq {a : ActiveRelationship}
    (h : a ∈ d.activeRelationships) (settings : Settings) :
    ∃ b ∈ d.activeRelationships, ∃ used,
      (d.snapshot settings).relationshipName a.relationship = Names.relationshipName used b := by
  obtain ⟨name, hname⟩ := Option.isSome_iff_exists.mp
    (Names.isSome_relationship?_resolve h d.nodes settings.maxProbes)
  obtain ⟨b, hb, used, rfl⟩ := Names.exists_relationshipName_of_relationship?_resolve hname
  exact ⟨b, hb, used, congrArg (·.getD a.relationship.id) hname⟩

end Query

/-- **Names that are identifiers** stay identifiers as long as they stay in the alphabet.  Let the
settings keep their ranges, and let all names that nodes and relationships ask for be identifiers.
Then the name of every active relationship is an identifier.  The name of a node is bumped over as
many names in use as it takes to find one that is not, or as probes allow; and it is an identifier
exactly if so many characters behind the first one of the name that was asked for there is a letter
or an underscore. -/
theorem identifiers_kept_iff_in_alphabet (settings : Settings) (d : Diagram)
    (hsettings : settings.violations = []) (hnodes : ∀ n ∈ d.nodes, isIdentifier n.name = true)
    (hrelationships : ∀ r ∈ d.relationships, ∀ name ∈ r.name, name ≠ "" →
      isIdentifier name = true) :
    (∀ a ∈ d.activeRelationships,
      isIdentifier ((d.snapshot settings).relationshipName a.relationship) = true) ∧
    ∀ n ∈ d.nodes, ∃ m ∈ d.nodes, m.id = n.id ∧
      ∃ k ≤ settings.maxProbes, ∃ used ⊆ (d.snapshot settings).names.used,
        (d.snapshot settings).nodeName n.id = bump^[k] m.name ∧
        (∀ j < k, bump^[j] m.name ∈ used) ∧
        (k < settings.maxProbes → bump^[k] m.name ∉ used) ∧
        (isIdentifier ((d.snapshot settings).nodeName n.id) = true ↔
          ∃ c ∈ m.name.toList.head?, isIdentifierStart (Char.ofNat (c.toNat + k)) = true) := by
  have hprobes := maxProbes_le_of_violations hsettings
  refine ⟨fun a ha => ?_, fun n hn => ?_⟩
  · obtain ⟨b, hb, used, hname⟩ := Snapshot.exists_relationshipName_eq ha settings
    rw [hname]
    exact isIdentifier_relationshipName
      (hrelationships b.relationship (Diagram.relationship_mem_of_mem_active hb))
  · have hnamed : (d.snapshot settings).names.node? n.id = some _ :=
      Snapshot.node?_eq_some_nodeName hn
    obtain ⟨m, hm, hid, used, hused, hprobe⟩ := Names.exists_probe_of_node?_resolve hnamed
    obtain ⟨k, hk, hbump, htaken, hend⟩ := probe_eq_iterate used settings.maxProbes m.name
    have hk26 : k ≤ 26 := Nat.le_trans hk hprobes
    have hname := hprobe.trans hbump
    refine ⟨m, hm, hid, k, hk, used, hused, hname, htaken, fun hlt hmem => ?_, ?_⟩
    · exact bump_iterate_ne (hnodes m hm) hk26 (hend hlt hmem)
    · rw [hname]
      exact isIdentifier_iterate_bump (hnodes m hm) hk26

/-- Two nodes that ask for the same name, and a relationship between them. -/
def namesakes (name : String) : Diagram where
  nodes := [⟨"1", some "Person", name⟩, ⟨"2", none, name⟩]
  relationships := [.ofEnds "x" "1" "2" none]
  conditions := []
  returnFields := []
  limit := ""
  limitMode := .rows

/-- The second of two nodes that ask for `y` is named `z`, which is bumped but not too far. -/
theorem identifiers_of_namesakes :
    Settings.default.violations = [] ∧
      (∀ n ∈ (namesakes "y").nodes, isIdentifier n.name = true) ∧
      (∀ r ∈ (namesakes "y").relationships, ∀ name ∈ r.name, name ≠ "" →
        isIdentifier name = true) ∧
      (∀ a ∈ (namesakes "y").activeRelationships,
        isIdentifier (((namesakes "y").snapshot .default).relationshipName a.relationship)
          = true) ∧
      ((namesakes "y").snapshot .default).nodeName "2" = "z" ∧
      ∃ k ≤ 26, "z" = bump^[k] "y" ∧ isIdentifierStart (Char.ofNat ('y'.toNat + k)) = true := by
  have hsettings : Settings.default.violations = [] := by decide
  have hnodes : ∀ n ∈ (namesakes "y").nodes, isIdentifier n.name = true := by decide
  have hrelationships : ∀ r ∈ (namesakes "y").relationships, ∀ name ∈ r.name, name ≠ "" →
      isIdentifier name = true := by decide
  have hz : ((namesakes "y").snapshot .default).nodeName "2" = "z" := by decide
  obtain ⟨hactive, hall⟩ :=
    identifiers_kept_iff_in_alphabet .default (namesakes "y") hsettings hnodes hrelationships
  obtain ⟨m, hm, hid, k, hk, -, -, hname, -, -, hiff⟩ := hall ⟨"2", none, "y"⟩ (by decide)
  have hy : ∀ m ∈ (namesakes "y").nodes, m.name = "y" := by decide
  rw [hy m hm, hz] at hname hiff
  obtain ⟨c, hc, hstart⟩ := hiff.mp (by decide)
  cases hc
  exact ⟨hsettings, hnodes, hrelationships, hactive, hz, k, hk, hname, hstart⟩

/-- **Not every identifier stays one.**  The character behind `z` is a brace.  So the second of two
nodes that ask for `z` has a name that is no identifier, and a pattern that is not well formed. -/
theorem identifier_lost_behind_z :
    Settings.default.violations = [] ∧
      (∀ n ∈ (namesakes "z").nodes, isIdentifier n.name = true) ∧
      (∀ r ∈ (namesakes "z").relationships, ∀ name ∈ r.name, name ≠ "" →
        isIdentifier name = true) ∧
      ((namesakes "z").snapshot .default).nodeName "2" = "\x7b" ∧
      isIdentifier (((namesakes "z").snapshot .default).nodeName "2") = false ∧
      compile .default (namesakes "z") = "MATCH (z:Person)-[r1]->(\x7b) RETURN z, \x7b" := by
  refine ⟨by decide, by decide, by decide, by decide, by decide, ?_⟩
  decide

end GraphQuery
