import GraphQuery.Diagram.Wire
import GraphQuery.Proofs.ReadBack
import GraphQuery.Proofs.Records

/-!
# Proofs — the JSON form of a diagram

Every part of a diagram is decoded from what it is written as (`Node.decodes`,
`Relationship.decodes`, `Condition.decodes`, `Diagram.decodes`): the fields are found by their names,
an optional one that was left out is absent again, and the names of the variants tell them apart.
What is written holds no numbers apart from the counter of a source of ids, so its text is read back
too, and **the wire form loses nothing** (`wire_round_trip`).
-/

namespace GraphQuery

open Json

/-! ### Members -/

/-- A field that is missing has no member. -/
@[simp]
theorem get?_optionalMember (name : String) (field : Option String) (key : String) :
    Members.get? (optionalMember name field) key
      = if name = key then field.map Value.string else none := by
  cases field with
  | none => exact (ite_self none).symm
  | some text => exact Members.get?_cons ..

/-- A member that may be left out has its own name. -/
theorem map_fst_optionalMember_sublist (name : String) (field : Option String) :
    ((optionalMember name field).map (·.1)).Sublist [name] := by
  cases field with
  | none => exact List.nil_sublist _
  | some text => exact .refl _

theorem integral_optionalMember (name : String) (field : Option String) :
    ∀ m ∈ optionalMember name field, m.2.Integral := by
  cases field with
  | none => nofun
  | some text => exact List.forall_mem_singleton.mpr (.string text)

theorem string_decodes (s : String) :
    Decoder.string.Decodes (.string s) s ∧ Value.string s ≠ .null :=
  ⟨Decoder.decodes_string s, nofun⟩

/-! ### Variants -/

/-- The name of a value in a table stands there with the value. -/
theorem nameIn_mem {α : Type} [DecidableEq α] {names : List (String × α)} {a : α}
    (h : a ∈ names.map (·.2)) : (nameIn names a, a) ∈ names := by
  obtain ⟨entry, hentry, rfl⟩ := List.mem_map.mp h
  have hsome : (names.find? (·.2 = entry.2)).isSome :=
    List.find?_isSome.mpr ⟨entry, hentry, decide_eq_true rfl⟩
  obtain ⟨found, hfound⟩ := Option.isSome_iff_exists.mp hsome
  have hmem := List.mem_of_find?_eq_some hfound
  have hvalue := List.find?_some hfound
  rw [nameIn, hfound, ← of_decide_eq_true hvalue]
  exact hmem

/-- The ways to join have texts of their own. -/
theorem MatchType.decodes (m : MatchType) : MatchType.decoder.Decodes (.string m.text) m :=
  Decoder.decodes_variant (by decide) (nameIn_mem (by cases m <;> decide))

theorem ConditionType.decodes (t : ConditionType) :
    ConditionType.decoder.Decodes (.string t.text) t :=
  Decoder.decodes_variant (by decide) (nameIn_mem (by cases t <;> decide))

theorem LimitMode.decodes (m : LimitMode) : LimitMode.decoder.Decodes (.string m.text) m :=
  Decoder.decodes_variant (by decide) (nameIn_mem (by cases m <;> decide))

/-! ### Parts of a diagram -/

/-- A node is decoded from what it is written as. -/
theorem Node.decodes (n : Node) : Node.decoder.Decodes n.toValue n := by
  refine Record.decodes_object _ (by decide) ?nodup fun origin => ?reads
  case nodup =>
    simp only [List.map_append]
    exact (((List.Sublist.refl ["id"]).append (map_fst_optionalMember_sublist "label" _)).append
      (.refl ["alias"])).nodup (by decide)
  case reads =>
    exact (((Record.reads_done Node.mk).field (by simp) (Decoder.decodes_string n.id)).optional
      (by simp) string_decodes).field (by simp) (Decoder.decodes_string n.name)

theorem Node.integral (n : Node) : n.toValue.Integral := by
  refine .object ?_
  simp only [List.forall_mem_append, List.forall_mem_singleton]
  exact ⟨⟨.string _, integral_optionalMember _ _⟩, .string _⟩

/-- A relationship is decoded from what it is written as. -/
theorem Relationship.decodes (r : Relationship) :
    Relationship.decoder.Decodes r.toValue r := by
  refine Record.decodes_object _ (by decide) ?nodup fun origin => ?reads
  case nodup =>
    simp only [List.map_append]
    exact ((((((List.Sublist.refl ["id"]).append (map_fst_optionalMember_sublist "type" _)).append
      (.refl ["from", "to"])).append (map_fst_optionalMember_sublist "alias" _)).append
      (map_fst_optionalMember_sublist "matchType" _)).append (.refl ["enabled"])).nodup (by decide)
  case reads =>
    have hmatch (m : MatchType) :
        MatchType.decoder.Decodes (.string m.text) m ∧ Value.string m.text ≠ .null :=
      ⟨m.decodes, nofun⟩
    exact (((((((Record.reads_done Relationship.mk).field (by simp)
      (Decoder.decodes_string r.id)).optional (by simp) string_decodes).field (by simp)
      (Decoder.decodes_string r.source)).field (by simp) (Decoder.decodes_string r.target)).optional
      (by simp) string_decodes).optional (by simp [Function.comp_def]) hmatch).field (by simp)
      (Decoder.decodes_bool r.enabled)

theorem Relationship.integral (r : Relationship) : r.toValue.Integral := by
  refine .object ?_
  simp only [List.forall_mem_append, List.forall_mem_cons]
  exact ⟨⟨⟨⟨⟨⟨.string _, nofun⟩, integral_optionalMember _ _⟩, .string _, .string _, nofun⟩,
    integral_optionalMember _ _⟩, integral_optionalMember _ _⟩, .bool _, nofun⟩

/-- A condition is decoded from what it is written as. -/
theorem Condition.decodes (c : Condition) : Condition.decoder.Decodes c.toValue c := by
  refine Record.decodes_object _ (by decide) ?nodup fun origin => ?reads
  case nodup =>
    simp only [List.map_append]
    exact (((((List.Sublist.refl ["id", "type"]).append
      (map_fst_optionalMember_sublist "nodeId" _)).append
      (map_fst_optionalMember_sublist "property" _)).append
      (map_fst_optionalMember_sublist "operator" _)).append
      (map_fst_optionalMember_sublist "value" _)).nodup (by decide)
  case reads =>
    exact ((((((Record.reads_done Condition.mk).field (by simp)
      (Decoder.decodes_string c.id)).field (by simp) c.type.decodes).optional (by simp)
      string_decodes).optional (by simp) string_decodes).optional (by simp)
      string_decodes).optional (by simp) string_decodes

theorem Condition.integral (c : Condition) : c.toValue.Integral := by
  refine .object ?_
  simp only [List.forall_mem_append, List.forall_mem_cons]
  exact ⟨⟨⟨⟨⟨.string _, .string _, nofun⟩, integral_optionalMember _ _⟩,
    integral_optionalMember _ _⟩, integral_optionalMember _ _⟩, integral_optionalMember _ _⟩

/-! ### Diagrams and sources of ids -/

/-- A diagram is decoded from what it is written as. -/
theorem Diagram.decodes (d : Diagram) : Diagram.decoder.Decodes d.toValue d := by
  refine Record.decodes_object _ (by decide) (by simp) fun origin => ?_
  exact ((((((Record.reads_done Diagram.mk).field (by simp)
    (Decoder.decodes_list fun n _ => n.decodes)).field (by simp)
    (Decoder.decodes_list fun r _ => r.decodes)).field (by simp)
    (Decoder.decodes_list fun c _ => c.decodes)).field (by simp)
    (Decoder.decodes_list fun s _ => Decoder.decodes_string s)).field (by simp)
    (Decoder.decodes_string d.limit)).field (by simp) d.limitMode.decodes

theorem Diagram.integral (d : Diagram) : d.toValue.Integral := by
  refine .object ?_
  simp only [List.forall_mem_cons]
  exact ⟨.array (List.forall_mem_map.mpr fun n _ => n.integral),
    .array (List.forall_mem_map.mpr fun r _ => r.integral),
    .array (List.forall_mem_map.mpr fun c _ => c.integral),
    .array (List.forall_mem_map.mpr fun s _ => .string s), .string _, .string _, nofun⟩

/-- A source of ids is decoded from what it is written as, if its counter has at most 64 bits. -/
theorem IdSequence.decodes {ids : IdSequence} (h : ids.issued < UInt64.size) :
    IdSequence.decoder.Decodes ids.toValue ids := by
  refine Record.decodes_object _ (by decide) (by simp) fun origin => ?_
  exact (Record.reads_done IdSequence.mk).field (by simp) (Decoder.decodes_natural h "u64")

/-- The count of ids is written as an integer of 64 bits. -/
theorem IdSequence.integral {ids : IdSequence} (h : ids.issued < UInt64.size) :
    ids.toValue.Integral := by
  have hword : Number.isWord ids.issued = true := by
    have hsize : UInt64.size = 18446744073709551616 := rfl
    simp only [Number.isWord, Bool.and_eq_true, decide_eq_true_eq]
    omega
  exact .object (List.forall_mem_singleton.mpr (.integer hword))

/-- What is decoded from the document of a value is decoded from the value. -/
theorem Json.Decoder.Decodes.ofValue {α : Type} {read : Decoder α} {v : Value} {a : α}
    (h : read.Decodes v a) : read.ofValue v = .ok a :=
  h .value

/-- What a decoder reads out of a value it reads out of the text of the value. -/
theorem Json.Decoder.Decodes.ofText {α : Type} {read : Decoder α} {v : Value} {a : α}
    (h : read.Decodes v a) (hv : v.Integral) : read.ofText v.toText.toList = .ok a := by
  rw [Value.toText, String.toList_ofList, Decoder.ofText_write read hv]
  exact h .text

/-- **The wire form loses nothing**: every diagram, and every source of ids with a counter of 64
bits, comes back from its compact JSON text and from its JSON value. -/
theorem wire_round_trip :
    (∀ d : Diagram, Diagram.decoder.ofText d.toValue.toText.toList = .ok d ∧
        Diagram.decoder.ofValue d.toValue = .ok d) ∧
      ∀ counter : UInt64,
        IdSequence.decoder.ofText (IdSequence.mk counter.toNat).toValue.toText.toList
            = .ok ⟨counter.toNat⟩ ∧
          IdSequence.decoder.ofValue (IdSequence.mk counter.toNat).toValue
            = .ok ⟨counter.toNat⟩ := by
  refine ⟨fun d => ⟨d.decodes.ofText d.integral, d.decodes.ofValue⟩, fun counter => ?_⟩
  have hcounter : (IdSequence.mk counter.toNat).issued < UInt64.size := counter.toNat_lt_size
  exact ⟨(IdSequence.decodes hcounter).ofText (IdSequence.integral hcounter),
    (IdSequence.decodes hcounter).ofValue⟩

end GraphQuery
