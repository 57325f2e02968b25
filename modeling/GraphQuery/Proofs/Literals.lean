import GraphQuery.Proofs.NumberText
import GraphQuery.Proofs.Scan

/-!
# Proofs — the literals in the text of a query

`Clause.texts` are the text literals of a clause in order, and `Clause.blank` is the clause with
each of them emptied.  If nothing but the literals of a query holds a double quote, a scan of its
text ends outside a literal, the literals that it reads are the text literals of the query, and
what it leaves outside is the text of the blank query (`Query.reads`).
-/

namespace GraphQuery

namespace Literal

/-- The literal without its text. -/
def blank : Literal → Literal
  | .text _ => .text ""
  | l => l

/-- The text of a literal that is one. -/
def texts : Literal → List String
  | .text s => [s]
  | _ => []

/-- Only the text of a text literal is inside quotes. -/
theorem reads (l : Literal) : Reads l.write l.blank.write l.texts := by
  have hnumeral : ∀ {cs : List Char}, (∀ c ∈ cs, isNumeral c = true) → '"' ∉ cs :=
    fun h hmem => by cases h _ hmem
  cases l with
  | null => exact .plain (by decide)
  | bool b => cases b <;> exact .plain (by decide)
  | integer i => exact .plain (hnumeral fun c hc => Json.isNumeral_of_mem_writeInt hc)
  | number x => exact .plain (hnumeral fun c hc => isNumeral_of_mem_writeNumber hc)
  | text s => exact .quote s

end Literal

namespace Predicate

/-- The predicate with a text that it compares with emptied. -/
def blank (p : Predicate) : Predicate :=
  { p with literal := p.literal.blank }

/-- Apart from its literal a predicate holds no double quote. -/
structure QuoteFree (p : Predicate) : Prop where
  name : '"' ∉ p.name.toList
  property : '"' ∉ p.property.toList
  operator : '"' ∉ p.operator.toList

theorem reads {p : Predicate} (h : p.QuoteFree) : Reads p.write p.blank.write p.literal.texts := by
  have haccess : '"' ∉ writeAccess p.name p.property := by
    simp [writeAccess, h.name, h.property]
  cases hcast : p.cast with
  | none =>
      have hplain : '"' ∉ writeAccess p.name p.property ++ ' ' :: (p.operator.toList ++ [' ']) := by
        simp [haccess, h.operator]
      simpa [write, blank, hcast] using (Reads.plain hplain).append p.literal.reads
  | some cast =>
      have htext : '"' ∉ cast.text.toList := by cases cast <;> decide
      have hplain : '"' ∉ cast.text.toList ++ '(' :: (writeAccess p.name p.property
          ++ ')' :: ' ' :: (p.operator.toList ++ [' '])) := by
        simp [htext, haccess, h.operator]
      simpa [write, blank, hcast] using (Reads.plain hplain).append p.literal.reads

end Predicate

/-- Whether the filter compares with the text of its value: its operator takes texts, or the value
is not the printed form of a number. -/
def PropertyFilter.isText (f : PropertyFilter) : Bool :=
  OperatorKind.of f.operator = .text || (canonicalNumber? f.value.toList).isNone

namespace Predicate

variable {name : String} {f : PropertyFilter}

/-- A comparison with a text: its operator takes texts, or the value is no number. -/
theorem compare_of_isText (h : f.isText = true) :
    compare name f.property f.operator f.value =
      ⟨if OperatorKind.of f.operator = .text then some .toText else none, name, f.property,
        f.operator, .text f.value⟩ := by
  rw [PropertyFilter.isText, Bool.or_eq_true, decide_eq_true_eq, Option.isNone_iff_eq_none] at h
  cases hkind : OperatorKind.of f.operator <;> cases hnumber : canonicalNumber? f.value.toList <;>
    simp_all [compare]

/-- Any other comparison is one with a number. -/
theorem compare_of_not_isText (name : String) (h : f.isText = false) :
    ∃ cast x, compare name f.property f.operator f.value =
      ⟨cast, name, f.property, f.operator, .number x⟩ := by
  cases hkind : OperatorKind.of f.operator <;> cases hnumber : canonicalNumber? f.value.toList <;>
    simp_all [PropertyFilter.isText, compare]

theorem texts_compare :
    (compare name f.property f.operator f.value).literal.texts =
      if f.isText then [f.value] else [] := by
  cases h : f.isText with
  | true => rw [compare_of_isText h]; rfl
  | false =>
      obtain ⟨cast, x, hcompare⟩ := compare_of_not_isText name h
      rw [hcompare]
      rfl

end Predicate

/-- Assignments of values, each to its property. -/
theorem writeAssignment_reads {name : String} {v : String × Literal} (hname : '"' ∉ name.toList)
    (hproperty : '"' ∉ v.1.toList) :
    Reads (writeAssignment name v) (writeAssignment name (v.1, v.2.blank)) v.2.texts := by
  have hplain : '"' ∉ writeAccess name v.1 ++ [' ', '=', ' '] := by
    simp [writeAccess, hname, hproperty]
  simpa [writeAssignment] using (Reads.plain hplain).append v.2.reads

namespace Clause

/-- The clause with each of its text literals emptied. -/
def blank : Clause → Clause
  | .filter predicates => .filter (predicates.map Predicate.blank)
  | .assign name values => .assign name (values.map fun v => (v.1, v.2.blank))
  | c => c

/-- The texts of the text literals of a clause. -/
def texts : Clause → List String
  | .filter predicates => predicates.flatMap (·.literal.texts)
  | .assign _ values => values.flatMap (·.2.texts)
  | _ => []

/-- Apart from its literals a clause holds no double quote. -/
def QuoteFree : Clause → Prop
  | .filter predicates => ∀ p ∈ predicates, p.QuoteFree
  | .assign name values => '"' ∉ name.toList ∧ ∀ v ∈ values, '"' ∉ v.1.toList
  | c => '"' ∉ c.write

/-- A clause without literals is outside of literals. -/
theorem reads_of_blank_eq {c : Clause} (hblank : c.blank = c) (htexts : c.texts = [])
    (h : '"' ∉ c.write) : Reads c.write c.blank.write c.texts := by
  rw [hblank, htexts]
  exact .plain h

/-- Predicates are read one after the other, each with the literal that it compares with. -/
theorem reads_filter {predicates : List Predicate} (h : ∀ p ∈ predicates, p.QuoteFree) :
    Reads (Clause.filter predicates).write (Clause.filter predicates).blank.write
      (Clause.filter predicates).texts := by
  have hkeyword : '"' ∉ "WHERE ".toList := by decide
  have hitems : Reads (conjunction.intercalate (predicates.map Predicate.write))
      (conjunction.intercalate ((predicates.map Predicate.blank).map Predicate.write))
      (predicates.flatMap (·.literal.texts)) := by
    rw [List.map_map]
    exact Reads.intercalate (by decide) fun p hp => Predicate.reads (h p hp)
  exact (Reads.plain hkeyword).append hitems

theorem reads_assign {name : String} {values : List (String × Literal)} (hname : '"' ∉ name.toList)
    (hvalues : ∀ v ∈ values, '"' ∉ v.1.toList) :
    Reads (Clause.assign name values).write (Clause.assign name values).blank.write
      (Clause.assign name values).texts := by
  have hkeyword : '"' ∉ "SET ".toList := by decide
  have hitems : Reads (comma.intercalate (values.map (writeAssignment name)))
      (comma.intercalate ((values.map fun v => (v.1, v.2.blank)).map (writeAssignment name)))
      (values.flatMap (·.2.texts)) := by
    rw [List.map_map]
    exact Reads.intercalate (by decide) fun v hv => writeAssignment_reads hname (hvalues v hv)
  exact (Reads.plain hkeyword).append hitems

/-- The text literals of a clause are read back from its text. -/
theorem reads {c : Clause} (h : c.QuoteFree) : Reads c.write c.blank.write c.texts := by
  cases c with
  | filter predicates => exact reads_filter h
  | assign name values => exact reads_assign h.1 h.2
  | mandatoryMatch patterns => exact reads_of_blank_eq rfl rfl h
  | optionalMatch patterns => exact reads_of_blank_eq rfl rfl h
  | handOff names rows => exact reads_of_blank_eq rfl rfl h
  | project items => exact reads_of_blank_eq rfl rfl h
  | limit count => exact reads_of_blank_eq rfl rfl h

/-- What stands between quotes is not what keeps a clause from holding stray ones. -/
theorem quoteFree_blank {c : Clause} : c.blank.QuoteFree ↔ c.QuoteFree := by
  cases c with
  | filter predicates =>
      refine List.forall_mem_map.trans (forall₂_congr fun p _ => ?_)
      exact ⟨fun h => ⟨h.name, h.property, h.operator⟩, fun h => ⟨h.name, h.property, h.operator⟩⟩
  | assign name values => exact and_congr_right fun _ => List.forall_mem_map
  | _ => exact Iff.rfl

end Clause

namespace Query

variable {layout : Layout} {q q' : Query}

theorem reads (h : ∀ c ∈ q, c.QuoteFree) :
    Reads (Query.write layout q) (Query.write layout (q.map Clause.blank))
      (q.flatMap Clause.texts) := by
  have hsep : '"' ∉ layout.separator := by cases layout <;> decide
  have hclauses := Reads.intercalate hsep fun c hc => Clause.reads (h c hc)
  simpa [Query.write, Function.comp_def] using hclauses

/-- **The literals of a query are read back from its text.** -/
theorem scan_toText (h : ∀ c ∈ q, c.QuoteFree) :
    Scan.of (q.toText layout).toList
      = ⟨Query.write layout (q.map Clause.blank), q.flatMap Clause.texts, .outside⟩ := by
  rw [Query.toText, String.toList_ofList]
  exact (reads h).scan_of

/-- What a scan leaves outside of literals is the same for queries that are the same apart from
them. -/
theorem outside_toText (h : ∀ c ∈ q, c.QuoteFree)
    (hblank : q.map Clause.blank = q'.map Clause.blank) :
    (Scan.of (q'.toText layout).toList).outside = Query.write layout (q.map Clause.blank) := by
  -- `q'` has no stray quotes either, because the blank clauses are the same
  have h' : ∀ c ∈ q', c.QuoteFree := by
    intro c hc
    have hmem : c.blank ∈ q.map Clause.blank := by
      rw [hblank]
      exact List.mem_map_of_mem hc
    obtain ⟨b, hb, hbc⟩ := List.mem_map.mp hmem
    rw [← Clause.quoteFree_blank, ← hbc, Clause.quoteFree_blank]
    exact h b hb
  rw [scan_toText h', hblank]

end Query

end GraphQuery
