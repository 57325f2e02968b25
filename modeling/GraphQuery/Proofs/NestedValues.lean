import GraphQuery.Compile.Update
import GraphQuery.Proofs.ReadBack

/-!
# Proofs — nested values in an update

A list or an object stands in a query as the text of its JSON, quoted like any other text.  What is
read from the document of a value is the value, with its members in their order, if no two members
of an object in it have the same name and it nests no deeper than the reader goes; a value that
nests deeper is refused (`toValue_ofValue`).

**So a nested value survives the two encodings** (`nested_value_survives`): the literal that it is
assigned as is closed where it ends, and without its escapes it is a text that is read as the value.
-/

namespace GraphQuery

namespace Json

/-! ### How deep a value nests -/

mutual

/-- How many lists and objects of a value are nested. -/
def Value.depth : Value → Nat
  | .array items => itemsDepth items + 1
  | .object members => membersDepth members + 1
  | _ => 0

/-- How many lists and objects are nested in the items of a list. -/
def itemsDepth : List Value → Nat
  | [] => 0
  | item :: items => max item.depth (itemsDepth items)

/-- How many lists and objects are nested in the members of an object. -/
def membersDepth : List (String × Value) → Nat
  | [] => 0
  | (_, value) :: members => max value.depth (membersDepth members)

end

/-- No two members of an object in the value have the same name. -/
inductive Value.DistinctNames : Value → Prop where
  /-- There is no object in it. -/
  | null : DistinctNames .null
  /-- There is no object in it. -/
  | bool (b : Bool) : DistinctNames (.bool b)
  /-- There is no object in it. -/
  | number (n : Number) : DistinctNames (.number n)
  /-- There is no object in it. -/
  | string (s : String) : DistinctNames (.string s)
  /-- All items are such values. -/
  | array {items : List Value} (h : ∀ v ∈ items, v.DistinctNames) : DistinctNames (.array items)
  /-- The names differ, and all members have such values. -/
  | object {members : Members} (hnames : (members.map (·.1)).Nodup)
      (h : ∀ m ∈ members, m.2.DistinctNames) : DistinctNames (.object members)

/-! ### Values of documents -/

/-- A value comes out of its document if it nests no deeper than it may. -/
def Value.ComesOut (v : Value) : Prop :=
  ∀ depth, (Document.ofValue v).toValue depth
    = if v.depth ≤ depth then .ok v else .error .malformed

/-- A member with a new name is put behind the others. -/
theorem Members.put_of_notMem {name : String} {members : Members}
    (h : name ∉ members.map (·.1)) (v : Value) :
    members.put name v = members ++ [(name, v)] := by
  induction members with
  | nil => rfl
  | cons member members ih =>
      obtain ⟨hmember, hmembers⟩ := not_or.mp (mt List.mem_cons.mpr h)
      rw [put, if_neg fun heq => hmember heq.symm, ih hmembers]
      rfl

theorem toItems_ofItems {items : List Value} (h : ∀ v ∈ items, v.ComesOut) (depth : Nat) :
    Document.toItems depth (Document.ofItems items)
      = if itemsDepth items ≤ depth then .ok items else .error .malformed := by
  induction items with
  | nil => rfl
  | cons item items ih =>
      obtain ⟨hitem, hitems⟩ := List.forall_mem_cons.mp h
      rw [Document.ofItems, Document.toItems, hitem depth, ih hitems, itemsDepth]
      by_cases hle : item.depth ≤ depth
      · by_cases hrest : itemsDepth items ≤ depth
        · rw [if_pos hle, if_pos hrest, if_pos (Nat.max_le.mpr ⟨hle, hrest⟩)]
          rfl
        · rw [if_pos hle, if_neg hrest, if_neg fun hmax => hrest (Nat.max_le.mp hmax).2]
          rfl
      · rw [if_neg hle, if_neg fun hmax => hle (Nat.max_le.mp hmax).1]
        rfl

/-- The members of an object come out behind those read before, none of which has one of their
names. -/
theorem toMembers_ofMembers {members sofar : Members} (h : ∀ m ∈ members, m.2.ComesOut)
    (hnames : ((sofar ++ members).map (·.1)).Nodup) (depth : Nat) :
    Document.toMembers depth sofar (Document.ofMembers members)
      = if membersDepth members ≤ depth then .ok (sofar ++ members) else .error .malformed := by
  induction members generalizing sofar with
  | nil => rw [List.append_nil]; rfl
  | cons member members ih =>
      obtain ⟨name, value⟩ := member
      obtain ⟨hvalue, hmembers⟩ := List.forall_mem_cons.mp h
      have hmem : (name, value) ∈ (name, value) :: members := List.mem_cons_self ..
      have hnew : name ∉ sofar.map (·.1) := by
        rw [List.map_append, List.nodup_append] at hnames
        exact fun hname => hnames.2.2 name hname name (List.mem_map_of_mem hmem) rfl
      have happend : sofar ++ (name, value) :: members = sofar ++ [(name, value)] ++ members := by
        rw [List.append_assoc, List.singleton_append]
      rw [happend] at hnames ⊢
      have hcons : Document.toMembers depth sofar (Document.ofMembers ((name, value) :: members))
          = (Document.ofValue value).toValue depth >>= fun value =>
            Document.toMembers depth (sofar.put name value) (Document.ofMembers members) := rfl
      rw [hcons, hvalue depth, membersDepth]
      by_cases hle : value.depth ≤ depth
      · have hput : sofar.put name value = sofar ++ [(name, value)] :=
          Members.put_of_notMem hnew value
        rw [if_pos hle]
        show Document.toMembers depth (sofar.put name value) _ = _
        simp only [hput, ih hmembers hnames, Nat.max_le, and_iff_right hle]
      · rw [if_neg hle, if_neg fun hmax => hle (Nat.max_le.mp hmax).1]
        rfl

/-- **A value comes out of its document**, the members of its objects in their order, if it nests no
deeper than it may. -/
theorem toValue_ofValue {v : Value} (h : v.DistinctNames) : v.ComesOut := by
  induction h with
  | null => exact fun depth => (if_pos (Nat.zero_le depth)).symm
  | bool b => exact fun depth => (if_pos (Nat.zero_le depth)).symm
  | number n => exact fun depth => (if_pos (Nat.zero_le depth)).symm
  | string s => exact fun depth => (if_pos (Nat.zero_le depth)).symm
  | @array items _ ih =>
      rintro (_ | depth)
      · rfl
      · rw [Document.ofValue, Document.toValue]
        simp only [toItems_ofItems ih depth, Value.depth, Nat.add_le_add_iff_right]
        split <;> rfl
  | @object members hnames _ ih =>
      rintro (_ | depth)
      · rfl
      · have hnames' : (([] ++ members : Members).map (·.1)).Nodup := hnames
        have hmembers : Document.toMembers depth [] (Document.ofMembers members)
            = if membersDepth members ≤ depth then .ok members else .error .malformed :=
          toMembers_ofMembers ih hnames' depth
        rw [Document.ofValue, Document.toValue]
        simp only [hmembers, Value.depth, Nat.add_le_add_iff_right]
        split <;> rfl

/-- **The text of a value is read as the value**, or refused if it nests too deep. -/
theorem parse_write {v : Value} (hintegral : v.Integral) (hnames : v.DistinctNames) :
    parse v.write = if v.depth ≤ maxDepth then .ok v else .error .malformed := by
  rw [parse, readDocument_write hintegral]
  simp only [toValue_ofValue hnames maxDepth]
  split <;> rfl

end Json

/-! ### The literal of a nested value -/

/-- A list or an object stands as the text of its JSON. -/
theorem Literal.ofValue_of_depth_pos {v : Json.Value} (h : 0 < v.depth) :
    Literal.ofValue v = .text v.toText := by
  cases v with
  | array items => rfl
  | object members => rfl
  | _ => cases h

/-- **A nested value survives the two encodings.**  A property is assigned a list or an object as a
literal between quotes.  Behind its opening quote the literal ends with its closing quote, whatever
follows, and without its escapes it is a text that is read as the value. -/
theorem nested_value_survives {v : Json.Value} (hintegral : v.Integral)
    (hnames : v.DistinctNames) (hnested : 0 < v.depth) (hdepth : v.depth ≤ Json.maxDepth)
    (target property : String) :
    ∃ text : String,
      assignClause target [(property, v)] = [.assign target [(property, .text text)]] ∧
        (∃ quoted, (Literal.text text).write = '"' :: quoted ∧
          ∀ rest, Text.unescape? (quoted ++ rest) = some (text.toList, rest)) ∧
        Json.parse text.toList = .ok v := by
  refine ⟨v.toText, ?_, ⟨Text.escape v.toText.toList ++ ['"'], rfl, fun rest => ?_⟩, ?_⟩
  · rw [← Literal.ofValue_of_depth_pos hnested]
    rfl
  · rw [List.append_assoc, List.singleton_append]
    exact Text.unescape?_escape v.toText.toList rest
  · rw [Json.Value.toText, String.toList_ofList, Json.parse_write hintegral hnames, if_pos hdepth]

/-- A list in an object whose names are not in the order of the alphabet, with quotes, a backslash,
a control character and the largest integer. -/
def escapedTags : Json.Value :=
  .object [("z\"", .array [.string "\\ \x01\n", .integer 18446744073709551615]), ("a", .null)]

theorem escapedTags_survive :
    escapedTags.Integral ∧ escapedTags.DistinctNames ∧ 0 < escapedTags.depth ∧
      escapedTags.depth ≤ Json.maxDepth ∧
      ∃ text : String, assignClause "n" [("tags", escapedTags)]
          = [.assign "n" [("tags", .text text)]] ∧ Json.parse text.toList = .ok escapedTags := by
  have hpair : ∀ {α : Type} {p : α → Prop} {a b : α}, p a → p b → ∀ c ∈ [a, b], p c :=
    fun ha hb => List.forall_mem_cons.mpr ⟨ha, List.forall_mem_singleton.mpr hb⟩
  have hintegral : escapedTags.Integral :=
    .object (hpair (.array (hpair (.string _) (.integer (by decide)))) .null)
  have hdistinct : escapedTags.DistinctNames :=
    .object (by decide) (hpair (.array (hpair (.string _) (.number _))) .null)
  have hnested : 0 < escapedTags.depth := by decide
  have hdepth : escapedTags.depth ≤ Json.maxDepth := by decide
  obtain ⟨text, hassign, -, hparse⟩ :=
    nested_value_survives hintegral hdistinct hnested hdepth "n" "tags"
  exact ⟨hintegral, hdistinct, hnested, hdepth, text, hassign, hparse⟩

end GraphQuery
