import GraphQuery.Json.Record

/-!
# Proofs — decoding a value

`read.Decodes v a` says that a decoder reads `a` out of a value, wherever the value comes from.
Every way to build a decoder has a lemma for what it decodes.

A record is read out of an object member by member, in the order of the members.  What comes out
depends on the member of each field only: `record.Reads origin members a` looks the fields up by
their names, and each reading keeps it (`Record.exists_put_iff`).  So the whole object is read as it
says if no field has two members, and only then (`Record.ofMembers_eq_ok_iff`).  Members that are no
fields and the order of the members do not matter.  A list of the fields is read like the object
that has its items under their names (`Record.decoder_array_eq_ok_iff`).
-/

namespace GraphQuery.Json

/-! ### Members -/

namespace Members

variable {members : Members}

@[simp]
theorem get?_nil (name : String) : get? [] name = none := rfl

@[simp]
theorem get?_cons (key : String) (value : Value) (name : String) :
    get? ((key, value) :: members) name
      = if key = name then some value else members.get? name := by
  by_cases h : key = name <;> simp [get?, h]

/-- The first member with a name counts. -/
@[simp]
theorem get?_append (before after : Members) (name : String) :
    get? (before ++ after) name = (before.get? name).or (after.get? name) := by
  rw [get?, List.find?_append, Option.map_or]
  rfl

theorem get?_eq_none_iff {name : String} :
    members.get? name = none ↔ name ∉ members.map (·.1) := by
  rw [get?, Option.map_eq_none_iff, List.find?_eq_none, List.mem_map]
  constructor
  · rintro h ⟨m, hm, rfl⟩
    exact h m hm (decide_eq_true rfl)
  · exact fun h m hm heq => h ⟨m, hm, of_decide_eq_true heq⟩

/-- A name that comes once is looked up where it comes. -/
theorem get?_eq_some_iff {members : Members} {name : String} {v : Value}
    (h : (members.map (·.1)).count name ≤ 1) :
    members.get? name = some v ↔ (name, v) ∈ members := by
  induction members with
  | nil => simp
  | cons member members ih =>
    obtain ⟨key, w⟩ := member
    rw [get?_cons, List.mem_cons, Prod.mk.injEq]
    rw [List.map_cons] at h
    by_cases heq : key = name
    · subst heq
      have hmem : (key, v) ∉ members := by
        rw [List.count_cons_self] at h
        have hcount : (members.map (·.1)).count key = 0 := by omega
        exact fun hmem => List.count_eq_zero.mp hcount (List.mem_map_of_mem hmem)
      simp [hmem, eq_comm]
    · rw [List.count_cons_of_ne heq] at h
      rw [if_neg heq, ih h]
      simp [Ne.symm heq]

/-- The member with a further name is the item that has come to that name. -/
theorem get?_zip_concat (names : List String) (name other : String) (row : List Value) :
    get? ((names ++ [name]).zip row) other
      = (get? (names.zip row) other).or (if name = other then row[names.length]? else none) := by
  induction names generalizing row with
  | nil => cases row <;> by_cases h : name = other <;> simp [h]
  | cons n names ih =>
    cases row with
    | nil => simp
    | cons v row =>
      rw [List.cons_append, List.zip_cons_cons, List.zip_cons_cons, get?_cons, get?_cons, ih]
      by_cases h : n = other <;> simp [h]

/-- No two members have the same one of the names. -/
def Once (members : Members) (names : List String) : Prop :=
  ∀ name ∈ names, (members.map (·.1)).count name ≤ 1

/-- Members without repetitions have every name at most once. -/
theorem once_of_nodup (h : (members.map (·.1)).Nodup) (names : List String) :
    members.Once names :=
  fun name _ => List.nodup_iff_count.mp h name

theorem once_cons {key : String} {v : Value} {names : List String} :
    Once ((key, v) :: members) names ↔
      (key ∈ names → key ∉ members.map (·.1)) ∧ members.Once names := by
  constructor
  · refine fun h => ⟨fun hkey => ?_, fun name hname => ?_⟩
    · have hcount := h key hkey
      rw [List.map_cons, List.count_cons_self] at hcount
      exact List.count_eq_zero.mp (by omega)
    · exact Nat.le_trans List.count_le_count_cons (h name hname)
  · rintro ⟨hkey, h⟩ name hname
    rw [List.map_cons]
    by_cases heq : key = name
    · subst heq
      refine Nat.le_of_eq ?_
      rw [List.count_cons_self, List.count_eq_zero.mpr (hkey hname)]
    · rw [List.count_cons_of_ne heq]
      exact h name hname

theorem once_zip {keys : List String} (h : keys.Nodup) (row : List Value) (names : List String) :
    Once (keys.zip row) names := by
  induction keys generalizing row with
  | nil => exact fun _ _ => Nat.zero_le 1
  | cons key keys ih =>
    cases row with
    | nil => exact fun _ _ => Nat.zero_le 1
    | cons v row =>
      obtain ⟨hkey, hkeys⟩ := List.nodup_cons.mp h
      refine once_cons.mpr ⟨fun _ hmem => hkey ?_, ih hkeys row⟩
      obtain ⟨⟨_, _⟩, hm, rfl⟩ := List.mem_map.mp hmem
      exact (List.of_mem_zip hm).1

end Members

/-! ### Documents of values -/

mutual

/-- A value can always be passed over. -/
theorem skip_ofValue : ∀ v : Value, (Document.ofValue v).skip = .ok ()
  | .null => rfl
  | .bool _ => rfl
  | .number _ => rfl
  | .string _ => rfl
  | .array items => by
    rw [Document.ofValue, Document.skip, skipItems_ofItems items]
    rfl
  | .object members => by
    rw [Document.ofValue, Document.skip, skipMembers_ofMembers members]
    rfl

theorem skipItems_ofItems : ∀ items : List Value,
    Document.skipItems (Document.ofItems items) = .ok ()
  | [] => rfl
  | item :: items => by
    rw [Document.ofItems, Document.skipItems, skip_ofValue item, skipItems_ofItems items]
    rfl

theorem skipMembers_ofMembers : ∀ members : List (String × Value),
    Document.skipMembers (Document.ofMembers members) = .ok ()
  | [] => rfl
  | (_, value) :: members => by
    rw [Document.ofMembers, Document.skipMembers, skip_ofValue value,
      skipMembers_ofMembers members]
    rfl

end

/-! ### Decoders -/

namespace Decoder

variable {α : Type}

/-- The decoder reads `a` out of the value. -/
def Decodes (read : Decoder α) (v : Value) (a : α) : Prop :=
  ∀ origin, read origin (.ofValue v) = .ok a

theorem decodes_string (s : String) : string.Decodes (.string s) s :=
  fun _ => rfl

theorem decodes_bool (b : Bool) : bool.Decodes (.bool b) b :=
  fun _ => rfl

/-- A natural number is decoded from an integer below its bound. -/
theorem decodes_natural {bound n : Nat} (h : n < bound) (wanted : String) :
    (natural bound wanted).Decodes (.integer n) n := by
  intro origin
  show (if (0 : Int) ≤ n ∧ (n : Int) < bound then _ else _) = _
  rw [if_pos ⟨Int.natCast_nonneg n, Int.ofNat_lt.mpr h⟩, Int.toNat_natCast]

/-- What may be null is read like what may not, if it is not null. -/
theorem Decodes.nullable {read : Decoder α} {v : Value} {a : α} (h : read.Decodes v a)
    (hv : v ≠ .null) : read.nullable.Decodes v (some a) := by
  intro origin
  have hread := h origin
  cases v with
  | null => exact absurd rfl hv
  | _ =>
    show (read origin _).map some = _
    rw [hread]
    rfl

theorem decodes_list {read : Decoder α} {write : α → Value} {as : List α}
    (h : ∀ a ∈ as, read.Decodes (write a) a) : (list read).Decodes (.array (as.map write)) as := by
  intro origin
  have hitems : items read origin (Document.ofItems (as.map write)) = .ok as := by
    induction as with
    | nil => rfl
    | cons a as ih =>
      obtain ⟨ha, has⟩ := List.forall_mem_cons.mp h
      rw [List.map_cons, Document.ofItems, items, ha origin, ih has]
      rfl
  show (do let values ← items read origin (Document.ofItems (as.map write)); _) = _
  rw [hitems]
  rfl

/-- A name in a table of different names stands for its value. -/
theorem lookup_eq_ok {names : List (String × α)} (hnames : (names.map (·.1)).Nodup) {name : String}
    {a : α} (h : (name, a) ∈ names) : lookup names name = .ok a := by
  have hfind : names.find? (·.1 = name) = some (name, a) := by
    induction names with
    | nil => cases h
    | cons entry names ih =>
      obtain ⟨hentry, hnames⟩ := List.nodup_cons.mp hnames
      rcases List.mem_cons.mp h with rfl | h
      · exact List.find?_cons_of_pos (decide_eq_true rfl)
      · have hname : name ∈ names.map (·.1) := List.mem_map.mpr ⟨_, h, rfl⟩
        have hne : entry.1 ≠ name := by
          rintro rfl
          exact hentry hname
        rw [List.find?_cons_of_neg (by simpa using hne)]
        exact ih hnames h
  rw [lookup, hfind]

/-- A variant is decoded from its name, if no other one has it. -/
theorem decodes_variant {names : List (String × α)} (hnames : (names.map (·.1)).Nodup)
    {name : String} {a : α} (h : (name, a) ∈ names) : (variant names).Decodes (.string name) a :=
  fun _ => lookup_eq_ok hnames h

end Decoder

/-! ### Records -/

namespace Record

/-- The names of the fields, the last one first. -/
def names {α : Type} : Record α → List String
  | .done _ => []
  | .field fields name _ _ _ => name :: fields.names

/-- The record is read as `a` with these members to come: a field takes its member, which must not
have been read already, or else the value that was read or that it falls back on. -/
def Reads {α : Type} (origin : Origin) (members : Members) : Record α → α → Prop
  | .done a, b => b = a
  | .field fields name read fallback value, b =>
    ∃ f c, fields.Reads origin members f ∧ b = f c ∧
      match members.get? name with
      | some v => value = none ∧ read origin (.ofValue v) = .ok c
      | none => value.or fallback = some c

variable {origin : Origin} {members : Members} {key : String} {v : Value}

/-- Only the members of the fields are looked up. -/
theorem reads_congr {α : Type} {members' : Members} :
    ∀ {record : Record α} {a : α},
      (∀ name ∈ record.names, members.get? name = members'.get? name) →
        (record.Reads origin members a ↔ record.Reads origin members' a)
  | .done _, _, _ => .rfl
  | .field fields name read fallback value, a, h => by
    obtain ⟨hname, hfields⟩ := List.forall_mem_cons.mp h
    simp only [Reads, hname, reads_congr hfields]

/-- A member that is no field makes no difference. -/
theorem reads_cons_of_notMem {α : Type} {record : Record α} {a : α} (h : key ∉ record.names) :
    record.Reads origin ((key, v) :: members) a ↔ record.Reads origin members a := by
  refine reads_congr fun name hname => ?_
  have hne : key ≠ name := fun heq => h (heq ▸ hname)
  rw [Members.get?_cons, if_neg hne]

section Put

variable {α β : Type} {fields : Record (β → α)} {name : String} {read : Decoder β}
  {fallback value : Option β} {doc : Document} {record' : Record α}

/-- A field is read once. -/
theorem put_self_eq_some :
    (Record.field fields name read fallback value).put origin name doc = .ok (some record') ↔
      value = none ∧ ∃ b, read origin doc = .ok b ∧
        .field fields name read fallback (some b) = record' := by
  rw [put.eq_def]
  cases value <;> cases hread : read origin doc <;> simp [hread]

/-- A member with another name goes to the fields before. -/
theorem put_of_ne_eq_some (h : key ≠ name) :
    (Record.field fields name read fallback value).put origin key doc = .ok (some record') ↔
      ∃ fields', fields.put origin key doc = .ok (some fields') ∧
        .field fields' name read fallback value = record' := by
  rw [put.eq_def]
  rcases hput : fields.put origin key doc with e | (_ | fields') <;> simp [h, hput]

end Put

/-- A member that is no field goes nowhere, and no other. -/
theorem put_eq_none_iff {α : Type} {doc : Document} :
    ∀ {record : Record α}, record.put origin key doc = .ok none ↔ key ∉ record.names
  | .done _ => iff_of_true rfl (List.not_mem_nil)
  | .field fields name read fallback value => by
    have ih : fields.put origin key doc = .ok none ↔ _ := put_eq_none_iff
    rw [put.eq_def, names, List.mem_cons, not_or, ← ih]
    by_cases heq : key = name
    · cases value <;> cases hread : read origin doc <;> simp [heq, hread]
    · rcases hput : fields.put origin key doc with e | (_ | fields') <;> simp [heq, hput]

/-- Putting a member fills a field in; the fields stay what they are. -/
theorem names_of_put {α : Type} {doc : Document} :
    ∀ {record record' : Record α}, record.put origin key doc = .ok (some record') →
      record'.names = record.names
  | .done _, _, h => nomatch h
  | .field fields name read fallback value, _, h => by
    by_cases heq : key = name
    · subst heq
      obtain ⟨-, b, -, rfl⟩ := put_self_eq_some.mp h
      rfl
    · obtain ⟨fields', hput, rfl⟩ := (put_of_ne_eq_some heq).mp h
      exact congrArg (name :: ·) (names_of_put hput)

/-- Reading the next member keeps what the record is read as.  The member goes into the field that
it names, which no other member may name. -/
theorem exists_put_iff {α : Type} :
    ∀ {record : Record α} {a : α}, record.names.Nodup → key ∈ record.names →
      ((∃ record' : Record α, record.put origin key (.ofValue v) = .ok (some record') ∧
          record'.Reads origin members a) ↔
        key ∉ members.map (·.1) ∧ record.Reads origin ((key, v) :: members) a)
  | .done _, _, _, hkey => nomatch hkey
  | .field fields name read fallback value, a, hnames, hkey => by
    obtain ⟨hname, hfields⟩ := List.nodup_cons.mp hnames
    by_cases heq : key = name
    · -- the fields before this one never look for the member
      subst heq
      simp only [put_self_eq_some, Reads, reads_cons_of_notMem hname, Members.get?_cons, if_pos]
      constructor
      · rintro ⟨_, ⟨rfl, b, hread, rfl⟩, f, c, hf, rfl, hc⟩
        split at hc
        · cases hc.1
        · rename_i hnone
          cases hc
          exact ⟨Members.get?_eq_none_iff.mp hnone, f, b, hf, rfl, rfl, hread⟩
      · rintro ⟨hmembers, f, c, hf, rfl, rfl, hread⟩
        refine ⟨_, ⟨rfl, c, hread, rfl⟩, f, c, hf, rfl, ?_⟩
        rw [Members.get?_eq_none_iff.mpr hmembers]
        rfl
    · have hkey' : key ∈ fields.names := (List.mem_cons.mp hkey).resolve_left heq
      have ih (f : _ → α) : _ ↔ key ∉ members.map (·.1) ∧
          fields.Reads origin ((key, v) :: members) f := exists_put_iff hfields hkey'
      simp only [put_of_ne_eq_some heq, Reads, Members.get?_cons, if_neg heq]
      constructor
      · rintro ⟨_, ⟨fields', hput, rfl⟩, f, c, hf, rfl, hc⟩
        obtain ⟨hmembers, hf⟩ := (ih f).mp ⟨fields', hput, hf⟩
        exact ⟨hmembers, f, c, hf, rfl, hc⟩
      · rintro ⟨hmembers, f, c, hf, rfl, hc⟩
        obtain ⟨fields', hput, hf'⟩ := (ih f).mpr ⟨hmembers, hf⟩
        exact ⟨_, ⟨fields', hput, rfl⟩, f, c, hf', rfl, hc⟩

/-- What is left to read at the end is what the fields fall back on. -/
theorem finish_eq_ok_iff {α : Type} :
    ∀ {record : Record α} {a : α}, record.finish = .ok a ↔ record.Reads origin [] a
  | .done _, _ => by rw [finish, Except.ok.injEq, Reads, eq_comm]
  | .field fields name read fallback value, a => by
    have ih (f : _ → α) : fields.finish = .ok f ↔ fields.Reads origin [] f := finish_eq_ok_iff
    simp only [finish, Reads, Members.get?_nil, ← ih]
    cases fields.finish <;> cases value.or fallback <;> simp [eq_comm]

/-- **An object is read by looking its fields up**, none of which has two members. -/
theorem ofMembers_eq_ok_iff {α : Type} {record : Record α} {a : α} (hnames : record.names.Nodup) :
    record.ofMembers origin none (Document.ofMembers members) = .ok a ↔
      members.Once record.names ∧ record.Reads origin members a := by
  induction members generalizing record with
  | nil =>
    have honce : Members.Once [] record.names := fun _ _ => Nat.zero_le 1
    rw [and_iff_right honce]
    exact finish_eq_ok_iff
  | cons member members ih =>
    obtain ⟨key, v⟩ := member
    rw [Document.ofMembers, ofMembers, Members.once_cons]
    by_cases hkey : key ∈ record.names
    · have hread : _ ↔ key ∉ members.map (·.1) ∧ record.Reads origin ((key, v) :: members) a :=
        exists_put_iff hnames hkey
      rw [forall_prop_of_true hkey, and_right_comm, ← hread, and_comm]
      rcases hput : record.put origin key (.ofValue v) with e | (_ | record')
      · simp
      · exact absurd hkey (put_eq_none_iff.mp hput)
      · have hnames' := names_of_put hput
        rw [← hnames']
        simpa using ih (hnames' ▸ hnames)
    · rw [put_eq_none_iff.mpr hkey, skip_ofValue, reads_cons_of_notMem hkey,
        and_iff_right fun h => absurd h hkey]
      exact ih hnames

theorem decodes_object {α : Type} {record : Record α} {a : α} (wanted : String)
    (hnames : record.names.Nodup) (hmembers : (members.map (·.1)).Nodup)
    (h : ∀ origin, record.Reads origin members a) :
    (record.decoder wanted).Decodes (.object members) a :=
  fun origin => (ofMembers_eq_ok_iff hnames).mpr ⟨Members.once_of_nodup hmembers _, h origin⟩

/-! ### Lists of the fields -/

/-- No field has been read yet. -/
def Fresh {α : Type} : Record α → Prop
  | .done _ => True
  | .field fields _ _ _ value => fields.Fresh ∧ value = none

theorem length_names {α : Type} : ∀ record : Record α, record.names.length = record.size
  | .done _ => rfl
  | .field fields _ _ _ _ => congrArg (· + 1) fields.length_names

/-- The items of a list are read like members with the names of the fields in declaration order. -/
theorem ofItems_eq_ok_iff {α : Type} (wanted : String) (row : List Value) :
    ∀ {record : Record α} {a : α} {docs : List Document}, record.Fresh → record.names.Nodup →
      (record.ofItems origin wanted none (Document.ofItems row) = .ok (a, docs) ↔
        docs = Document.ofItems (row.drop record.size) ∧
          record.Reads origin (record.names.reverse.zip row) a)
  | .done _, a, docs, _, _ => by
    simp [ofItems, Reads, size, eq_comm, and_comm]
  | .field fields name read fallback value, a, docs, hfresh, hnames => by
    obtain ⟨hfields, rfl⟩ := hfresh
    obtain ⟨hname, hnames⟩ := List.nodup_cons.mp hnames
    have ih {f : _ → α} {docs : List Document} :
        fields.ofItems origin wanted none (Document.ofItems row) = .ok (f, docs) ↔ _ :=
      ofItems_eq_ok_iff wanted row hfields hnames
    have hreads (f : _ → α) : fields.Reads origin ((fields.names.reverse ++ [name]).zip row) f ↔
        fields.ofItems origin wanted none (Document.ofItems row)
          = .ok (f, Document.ofItems (row.drop fields.size)) := by
      rw [ih, and_iff_right rfl]
      refine reads_congr fun other hother => ?_
      have hne : name ≠ other := fun h => hname (h ▸ hother)
      rw [Members.get?_zip_concat, if_neg hne, Option.or_none]
    have hget : Members.get? ((fields.names.reverse ++ [name]).zip row) name
        = row[fields.size]? := by
      have hnone : Members.get? (fields.names.reverse.zip row) name = none := by
        rw [Members.get?_eq_none_iff, List.mem_map]
        rintro ⟨⟨_, v⟩, hm, rfl⟩
        exact hname (List.mem_reverse.mp (List.of_mem_zip hm).1)
      rw [Members.get?_zip_concat, hnone, if_pos rfl, Option.none_or, List.length_reverse,
        length_names]
    rw [ofItems, names, List.reverse_cons, size, ← List.tail_drop]
    simp only [Reads, hreads, hget, ← List.head?_drop]
    rcases hresult : fields.ofItems origin wanted none (Document.ofItems row) with e | ⟨f, left⟩
    · simp
    · obtain ⟨rfl, -⟩ := ih.mp hresult
      cases row.drop fields.size with
      | nil => cases fallback <;> simp [Document.ofItems, Document.close, eq_comm, and_comm]
      | cons v row =>
        cases hread : read origin (.ofValue v) <;>
          simp [Document.ofItems, hread, eq_comm, and_comm]

/-- **An object is decoded by its fields.** -/
theorem decoder_object_eq_ok_iff {α : Type} {record : Record α} {a : α} (wanted : String)
    (hnames : record.names.Nodup) :
    record.decoder wanted origin (.ofValue (.object members)) = .ok a ↔
      members.Once record.names ∧ record.Reads origin members a :=
  ofMembers_eq_ok_iff hnames

/-- **A list is decoded like the object** with its items under the names of the fields, if it has no
more items than there are fields. -/
theorem decoder_array_eq_ok_iff {α : Type} {record : Record α} {a : α} (wanted : String)
    (hfresh : record.Fresh) (hnames : record.names.Nodup) {row : List Value} :
    record.decoder wanted origin (.ofValue (.array row)) = .ok a ↔ row.length ≤ record.size ∧
      record.decoder wanted origin (.ofValue (.object (record.names.reverse.zip row))) = .ok a := by
  have hitems {b : α} {docs : List Document} : record.ofItems origin
      (wanted ++ " with " ++ count record.size) none (Document.ofItems row) = .ok (b, docs) ↔ _ :=
    ofItems_eq_ok_iff _ row hfresh hnames
  have hreads : record.Reads origin (record.names.reverse.zip row) a ↔ record.ofItems origin
      (wanted ++ " with " ++ count record.size) none (Document.ofItems row)
        = .ok (a, Document.ofItems (row.drop record.size)) := by
    rw [hitems, and_iff_right rfl]
  have honce := Members.once_zip ((List.reverse_perm _).nodup_iff.mpr hnames) row record.names
  rw [decoder_object_eq_ok_iff wanted hnames, and_iff_right honce, hreads, ← List.drop_eq_nil_iff,
    Document.ofValue]
  simp only [decoder]
  rcases hresult : record.ofItems origin (wanted ++ " with " ++ count record.size) none
    (Document.ofItems row) with e | ⟨b, left⟩
  · simp
  · obtain ⟨rfl, -⟩ := hitems.mp hresult
    cases row.drop record.size with
    | nil =>
      show Except.ok b = Except.ok a ↔ _
      simp [Document.ofItems]
    | cons v rest => cases origin <;> simp [Document.ofItems]

/-! ### Reading the fields -/

variable {α β : Type} {fields : Record (β → α)} {f : β → α} {name : String} {read : Decoder β}
  {b : β}

theorem reads_done (a : α) : (Record.done a).Reads origin members a := rfl

/-- A field with a member is read as what its member decodes to. -/
theorem Reads.field {fallback : Option β} (h : fields.Reads origin members f)
    (hname : members.get? name = some v) (hread : read.Decodes v b) :
    (Record.field fields name read fallback none).Reads origin members (f b) := by
  refine ⟨f, b, h, rfl, ?_⟩
  rw [hname]
  exact ⟨rfl, hread origin⟩

/-- An optional field is read as what was written, or is absent. -/
theorem Reads.optional {fields : Record (Option β → α)} {f : Option β → α} {write : β → Value}
    {o : Option β} (h : fields.Reads origin members f)
    (hname : members.get? name = o.map write)
    (hread : ∀ b, read.Decodes (write b) b ∧ write b ≠ .null) :
    (fields.optional name read).Reads origin members (f o) := by
  cases o with
  | none =>
    refine ⟨f, none, h, rfl, ?_⟩
    rw [hname]
    rfl
  | some b => exact h.field hname ((hread b).1.nullable (hread b).2)

end Record

end GraphQuery.Json
