import Mathlib.Data.List.Forall2
import Mathlib.Logic.Relation
import GraphQuery.Proofs.Records

/-!
# Proofs — writing a record in other ways

A `Spelling` says how a kind of record can be written, and `s.Respelled v w` is one change to how it
is written: the members of an object change places, a member that is no field comes or goes, so does
a field that says what its absence says, an object becomes the list of its fields, or the value of a
field changes in turn.

What a record is decoded to depends on what each field is read as.  `record.Admits origin name o o'`
says that a field with the name is read alike with the member `o'` as with the member `o`, where
`none` stands for no member.  If a spelling fits a record, each change only replaces members with
others that the fields admit, or only moves them.

**So no change to how a record is written changes what it is decoded to**
(`Spelling.Fits.decodes_respelled`).
-/

namespace GraphQuery

namespace Json

/-! ### Spellings -/

/-- How a kind of record can be written: the names of its fields in declaration order, members that
say what is said without them, and what a value in a field may be replaced with. -/
structure Spelling where
  /-- The names of the fields. -/
  names : List String
  /-- Members that an object may have or lack. -/
  idle : Members
  /-- Values in a field that say the same. -/
  part : String → Value → Value → Prop

/-- One change to how a record is written. -/
inductive Spelling.Respelled (s : Spelling) : Value → Value → Prop where
  /-- The members of an object change places. -/
  | reorder {members members' : Members} (h : members.Perm members') :
      s.Respelled (.object members) (.object members')
  /-- A member that is no field comes into an object. -/
  | addForeign {members : Members} {key : String} (v : Value) (h : key ∉ s.names) :
      s.Respelled (.object members) (.object ((key, v) :: members))
  /-- A member that is no field goes out of an object. -/
  | dropForeign {members : Members} {key : String} (v : Value) (h : key ∉ s.names) :
      s.Respelled (.object ((key, v) :: members)) (.object members)
  /-- A field of an object is written out that says what its absence says. -/
  | addIdle {members : Members} {key : String} {v : Value} (h : (key, v) ∈ s.idle)
      (hkey : key ∉ members.map (·.1)) :
      s.Respelled (.object members) (.object ((key, v) :: members))
  /-- A field of an object is left out that says what its absence says. -/
  | dropIdle {members : Members} {key : String} {v : Value} (h : (key, v) ∈ s.idle)
      (hkey : key ∉ members.map (·.1)) :
      s.Respelled (.object ((key, v) :: members)) (.object members)
  /-- An object becomes the list of all its fields in declaration order. -/
  | asList {members : Members} {row : List Value}
      (h : List.Forall₂ (fun name v => members.get? name = some v ∨
        name ∉ members.map (·.1) ∧ (name, v) ∈ s.idle) s.names row) :
      s.Respelled (.object members) (.array row)
  /-- The value of a field changes in an object. -/
  | inObject {members : Members} {key : String} {v w : Value} (h : s.part key v w) :
      s.Respelled (.object ((key, v) :: members)) (.object ((key, w) :: members))
  /-- The value of a field changes in a list of fields. -/
  | inList {before after : List Value} {key : String} {v w : Value}
      (hkey : s.names[before.length]? = some key) (h : s.part key v w) :
      s.Respelled (.array (before ++ v :: after)) (.array (before ++ w :: after))

/-! ### What a field is read as -/

/-- A field is read as `b` with this member, or without one. -/
def Decoder.Yields {β : Type} (read : Decoder β) (origin : Origin) (fallback : Option β) :
    Option Value → β → Prop
  | some v, b => read origin (.ofValue v) = .ok b
  | none, b => fallback = some b

namespace Record

variable {origin : Origin} {members members' : Members} {name : String} {v w : Value}
  {o o' : Option Value}

/-- What a field with the name is read as with one member it is read as with the other. -/
def Admits {α : Type} (origin : Origin) (name : String) (o o' : Option Value) :
    Record α → Prop
  | .done _ => True
  | .field fields n read fallback _ =>
    fields.Admits origin name o o' ∧
      (n = name → ∀ b, read.Yields origin fallback o b → read.Yields origin fallback o' b)

/-- A field with the name falls back on what it reads out of the value. -/
def FallsBackOn {α : Type} (name : String) (v : Value) : Record α → Prop
  | .done _ => True
  | .field fields n read fallback _ =>
    fields.FallsBackOn name v ∧
      (n = name → ∃ b, fallback = some b ∧ ∀ origin, read origin (.ofValue v) = .ok b)

theorem admits_refl {α : Type} : ∀ record : Record α, record.Admits origin name o o
  | .done _ => trivial
  | .field fields _ _ _ _ => ⟨fields.admits_refl, fun _ _ => id⟩

/-- What the value says in a field is what its absence says. -/
theorem FallsBackOn.admits {α : Type} :
    ∀ {record : Record α}, record.FallsBackOn name v →
      record.Admits origin name none (some v) ∧ record.Admits origin name (some v) none
  | .done _, _ => ⟨trivial, trivial⟩
  | .field fields n read fallback value, h => by
    obtain ⟨hfields, hfield⟩ := h
    obtain ⟨hin, hout⟩ := hfields.admits
    refine ⟨⟨hin, fun hn b hb => ?_⟩, ⟨hout, fun hn b hb => ?_⟩⟩
    · obtain ⟨c, rfl, hread⟩ := hfield hn
      cases hb
      exact hread origin
    · obtain ⟨c, rfl, hread⟩ := hfield hn
      exact congrArg some (Except.ok.inj ((hread origin).symm.trans hb))

theorem reads_field_iff {α β : Type} {fields : Record (β → α)} {read : Decoder β}
    {fallback : Option β} {a : α} :
    (Record.field fields name read fallback none).Reads origin members a ↔
      ∃ f b, fields.Reads origin members f ∧ a = f b ∧
        read.Yields origin fallback (members.get? name) b := by
  simp only [Reads]
  cases members.get? name <;> simp [Decoder.Yields]

/-- What a record is read as with some members it is read as with others that its fields admit in
their place. -/
theorem reads_of_admits {α : Type} :
    ∀ {record : Record α} {a : α}, record.Fresh →
      (∀ name ∈ record.names,
        record.Admits origin name (members.get? name) (members'.get? name)) →
      record.Reads origin members a → record.Reads origin members' a
  | .done _, _, _, _, h => h
  | .field fields name read fallback value, a, hfresh, hadmits, h => by
    obtain ⟨hfields, rfl⟩ := hfresh
    obtain ⟨hname, hothers⟩ := List.forall_mem_cons.mp hadmits
    rw [reads_field_iff] at h ⊢
    obtain ⟨f, b, hf, rfl, hb⟩ := h
    exact ⟨f, b, reads_of_admits hfields (fun n hn => (hothers n hn).1) hf, rfl,
      hname.2 rfl b hb⟩

end Record

/-! ### Steps -/

namespace Members

theorem get?_zip_of_forall₂ {r : String → Value → Prop} {names : List String} {row : List Value}
    (h : List.Forall₂ r names row) {name : String} (hname : name ∈ names) :
    ∃ v, get? (names.zip row) name = some v ∧ r name v := by
  induction h with
  | nil => cases hname
  | @cons n v names row hv _ ih =>
    rw [List.zip_cons_cons, get?_cons]
    by_cases heq : n = name
    · subst heq
      exact ⟨v, if_pos rfl, hv⟩
    · rw [if_neg heq]
      exact ih ((List.mem_cons.mp hname).resolve_left (Ne.symm heq))

/-- An item comes to its name, whatever the item is. -/
theorem exists_zip_eq {names : List String} {before : List Value} {key : String}
    (h : names[before.length]? = some key) (after : List Value) :
    ∃ front back : Members, ∀ v, names.zip (before ++ v :: after) = front ++ (key, v) :: back := by
  induction before generalizing names with
  | nil =>
    cases names with
    | nil => cases h
    | cons n names =>
      cases h
      exact ⟨[], names.zip after, fun v => rfl⟩
  | cons first before ih =>
    cases names with
    | nil => cases h
    | cons n names =>
      obtain ⟨front, back, hzip⟩ := ih h
      exact ⟨(n, first) :: front, back, fun v => congrArg ((n, first) :: ·) (hzip v)⟩

end Members

/-- The spelling says of the record what is so. -/
structure Spelling.Fits {α : Type} (s : Spelling) (record : Record α) : Prop where
  /-- No field has been read. -/
  fresh : record.Fresh
  /-- The fields have the names of the spelling. -/
  names : record.names = s.names.reverse
  /-- No two fields have the same name. -/
  nodup : record.names.Nodup
  /-- An idle member says what its absence says. -/
  idle : ∀ m ∈ s.idle, record.FallsBackOn m.1 m.2
  /-- A value that replaces another is read alike. -/
  part : ∀ {key v w}, s.part key v w → ∀ origin, record.Admits origin key (some v) (some w)

namespace Spelling.Fits

variable {α : Type} {s : Spelling} {record : Record α} {origin : Origin} {a : α} {wanted : String}
  {members members' : Members} {key : String} {v w : Value}

/-- An object with other members is decoded alike if the fields admit them. -/
theorem decodes_object (hfits : s.Fits record)
    (h : members.Once record.names → members'.Once record.names ∧ ∀ name ∈ record.names,
      record.Admits origin name (members.get? name) (members'.get? name))
    (hread : record.decoder wanted origin (.ofValue (.object members)) = .ok a) :
    record.decoder wanted origin (.ofValue (.object members')) = .ok a := by
  rw [Record.decoder_object_eq_ok_iff wanted hfits.nodup] at hread ⊢
  obtain ⟨honce, hreads⟩ := hread
  obtain ⟨honce', hadmits⟩ := h honce
  exact ⟨honce', Record.reads_of_admits hfits.fresh hadmits hreads⟩

/-- The order of the members does not matter. -/
theorem decodes_reorder (hfits : s.Fits record) (h : members.Perm members') :
    record.decoder wanted origin (.ofValue (.object members)) = .ok a →
      record.decoder wanted origin (.ofValue (.object members')) = .ok a := by
  refine hfits.decodes_object fun honce => ?_
  have honce' : members'.Once record.names :=
    fun name hname => (h.map _).count_eq name ▸ honce name hname
  refine ⟨honce', fun name hname => ?_⟩
  have hget : members.get? name = members'.get? name := by
    refine Option.ext fun v => ?_
    rw [Members.get?_eq_some_iff (honce name hname), Members.get?_eq_some_iff (honce' name hname),
      h.mem_iff]
  rw [hget]
  exact record.admits_refl

/-- What says the same in the place of the first member. -/
theorem decodes_first (hfits : s.Fits record) (h : s.part key v w) :
    record.decoder wanted origin (.ofValue (.object ((key, v) :: members))) = .ok a →
      record.decoder wanted origin (.ofValue (.object ((key, w) :: members))) = .ok a := by
  refine hfits.decodes_object fun honce => ⟨Members.once_cons.mpr (Members.once_cons.mp honce),
    fun name _ => ?_⟩
  rw [Members.get?_cons, Members.get?_cons]
  by_cases heq : key = name
  · subst heq
    rw [if_pos rfl, if_pos rfl]
    exact hfits.part h origin
  · rw [if_neg heq, if_neg heq]
    exact record.admits_refl

/-- A member that says what its absence says, or is no field, comes and goes. -/
theorem decodes_extra_iff (hfits : s.Fits record)
    (h : key ∈ record.names → key ∉ members.map (·.1) ∧ record.FallsBackOn key v) :
    record.decoder wanted origin (.ofValue (.object ((key, v) :: members))) = .ok a ↔
      record.decoder wanted origin (.ofValue (.object members)) = .ok a := by
  have hadmits : ∀ name ∈ record.names,
      record.Admits origin name (if key = name then some v else members.get? name)
          (members.get? name) ∧
        record.Admits origin name (members.get? name)
          (if key = name then some v else members.get? name) := by
    intro name hname
    by_cases heq : key = name
    · subst heq
      obtain ⟨hkey, hback⟩ := h hname
      rw [if_pos rfl, Members.get?_eq_none_iff.mpr hkey]
      exact hback.admits.symm
    · rw [if_neg heq]
      exact ⟨record.admits_refl, record.admits_refl⟩
  simp only [← Members.get?_cons] at hadmits
  constructor
  · exact hfits.decodes_object fun honce =>
      ⟨(Members.once_cons.mp honce).2, fun name hname => (hadmits name hname).1⟩
  · exact hfits.decodes_object fun honce =>
      ⟨Members.once_cons.mpr ⟨fun hkey => (h hkey).1, honce⟩, fun name hname =>
        (hadmits name hname).2⟩

/-- An object and the list of its fields, absent ones filled in. -/
theorem decodes_asList (hfits : s.Fits record) {row : List Value}
    (h : List.Forall₂ (fun name v => members.get? name = some v ∨
      name ∉ members.map (·.1) ∧ (name, v) ∈ s.idle) record.names.reverse row)
    (hread : record.decoder wanted origin (.ofValue (.object members)) = .ok a) :
    record.decoder wanted origin (.ofValue (.array row)) = .ok a := by
  have hlength : row.length = record.size := by
    rw [← h.length_eq, List.length_reverse, Record.length_names]
  have hnodup : record.names.reverse.Nodup := (List.reverse_perm _).nodup_iff.mpr hfits.nodup
  refine (Record.decoder_array_eq_ok_iff wanted hfits.fresh hfits.nodup).mpr
    ⟨Nat.le_of_eq hlength, hfits.decodes_object (fun _ => ?_) hread⟩
  refine ⟨Members.once_zip hnodup row record.names, fun name hname => ?_⟩
  obtain ⟨v, hv, hcases⟩ := Members.get?_zip_of_forall₂ h (List.mem_reverse.mpr hname)
  rw [hv]
  rcases hcases with hget | ⟨hkey, hidle⟩
  · rw [hget]
    exact record.admits_refl
  · rw [Members.get?_eq_none_iff.mpr hkey]
    exact (hfits.idle _ hidle).admits.1

/-- What says the same in the place of an item of a list of fields. -/
theorem decodes_inList (hfits : s.Fits record) {before after : List Value}
    (hkey : record.names.reverse[before.length]? = some key) (h : s.part key v w)
    (hread : record.decoder wanted origin (.ofValue (.array (before ++ v :: after))) = .ok a) :
    record.decoder wanted origin (.ofValue (.array (before ++ w :: after))) = .ok a := by
  obtain ⟨front, back, hzip⟩ := Members.exists_zip_eq hkey after
  rw [Record.decoder_array_eq_ok_iff wanted hfits.fresh hfits.nodup, hzip] at hread ⊢
  obtain ⟨hlength, hread⟩ := hread
  refine ⟨by simpa using hlength, ?_⟩
  have hfirst := hfits.decodes_first h (hfits.decodes_reorder List.perm_middle hread)
  exact hfits.decodes_reorder List.perm_middle.symm hfirst

/-- **A step of respelling keeps what is decoded.** -/
theorem decodes_respelled (hfits : s.Fits record) (h : s.Respelled v w) :
    record.decoder wanted origin (.ofValue v) = .ok a →
      record.decoder wanted origin (.ofValue w) = .ok a := by
  have hnames : s.names = record.names.reverse := by rw [hfits.names, List.reverse_reverse]
  have hforeign : ∀ {key : String} {p : Prop}, key ∉ s.names → key ∈ record.names → p := by
    intro key p hkey hmem
    exact absurd (hnames ▸ List.mem_reverse.mpr hmem) hkey
  cases h with
  | reorder h => exact hfits.decodes_reorder h
  | addForeign v h => exact (hfits.decodes_extra_iff (hforeign h)).mpr
  | dropForeign v h => exact (hfits.decodes_extra_iff (hforeign h)).mp
  | addIdle h hkey => exact (hfits.decodes_extra_iff fun _ => ⟨hkey, hfits.idle _ h⟩).mpr
  | dropIdle h hkey => exact (hfits.decodes_extra_iff fun _ => ⟨hkey, hfits.idle _ h⟩).mp
  | asList h => exact hfits.decodes_asList (hnames ▸ h)
  | inObject h => exact hfits.decodes_first h
  | inList hkey h => exact hfits.decodes_inList (hnames ▸ hkey) h

end Spelling.Fits

/-! ### Lists of parts -/

/-- Two lists that are the same but for one item, which is respelled. -/
def Spelling.InItem (s : Spelling) (v w : Value) : Prop :=
  ∃ before item item' after, v = .array (before ++ item :: after) ∧
    w = .array (before ++ item' :: after) ∧ s.Respelled item item'

namespace Decoder

variable {α : Type} {read : Decoder α} {origin : Origin}

theorem items_cons_eq_ok_iff {doc : Document} {docs : List Document} {as : List α} :
    items read origin (doc :: docs) = .ok as ↔
      ∃ a rest, read origin doc = .ok a ∧ items read origin docs = .ok rest ∧ as = a :: rest := by
  rw [items]
  cases read origin doc with
  | error e => exact iff_of_false (by rintro ⟨⟩) (by simp)
  | ok a =>
      cases items read origin docs with
      | error e => exact iff_of_false (by rintro ⟨⟩) (by simp)
      | ok rest =>
          refine ⟨fun h => ⟨a, rest, rfl, rfl, (Except.ok.inj h).symm⟩, ?_⟩
          rintro ⟨_, _, ⟨⟩, ⟨⟩, rfl⟩
          rfl

theorem items_of_item {item item' : Value}
    (h : ∀ a, read origin (.ofValue item) = .ok a → read origin (.ofValue item') = .ok a)
    (before after : List Value) {as : List α}
    (hread : items read origin (Document.ofItems (before ++ item :: after)) = .ok as) :
    items read origin (Document.ofItems (before ++ item' :: after)) = .ok as := by
  induction before generalizing as with
  | nil =>
      rw [List.nil_append, Document.ofItems, items_cons_eq_ok_iff] at hread ⊢
      obtain ⟨a, rest, ha, hrest, rfl⟩ := hread
      exact ⟨a, rest, h a ha, hrest, rfl⟩
  | cons first before ih =>
      rw [List.cons_append, Document.ofItems, items_cons_eq_ok_iff] at hread ⊢
      obtain ⟨a, rest, ha, hrest, rfl⟩ := hread
      exact ⟨a, rest, ha, ih hrest, rfl⟩

theorem list_eq_ok_iff {items : List Value} {as : List α} :
    list read origin (.ofValue (.array items)) = .ok as ↔
      Decoder.items read origin (Document.ofItems items) = .ok as := by
  rw [Document.ofValue, list]
  cases Decoder.items read origin (Document.ofItems items) <;> exact Iff.rfl

theorem list_nil : list read origin (.ofValue (.array [])) = .ok [] := rfl

end Decoder

/-- Where the items of a list are records, a list with one item respelled is read alike. -/
theorem Spelling.Fits.list_of_inItem {α : Type} {s : Spelling} {record : Record α}
    (hfits : s.Fits record) {wanted : String} {origin : Origin} {v w : Value} {as : List α}
    (h : s.InItem v w) (hread : Decoder.list (record.decoder wanted) origin (.ofValue v) = .ok as) :
    Decoder.list (record.decoder wanted) origin (.ofValue w) = .ok as := by
  obtain ⟨before, item, item', after, rfl, rfl, hitem⟩ := h
  rw [Decoder.list_eq_ok_iff] at hread ⊢
  exact Decoder.items_of_item (fun _ => hfits.decodes_respelled hitem) before after hread

end Json

end GraphQuery
