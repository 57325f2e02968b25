import GraphQuery.Proofs.Clauses
import GraphQuery.Proofs.Literals

/-!
# Proofs — the characters of a query

Outside of literals a query is written with keywords, casts and marks (`isSyntax`) and with the
texts of the diagram.  `Snapshot.Lacks x` says that no name, label, type, property, operator, return
field or limit that a query may write holds the character `x`; it says nothing of the values that
conditions compare with.  If `x` is none of the syntax either, then nothing but the literals of a
query holds it (`Clause.Lacks`), in each shape of the limit and in an update.
-/

namespace GraphQuery

/-- The characters of keywords, casts and marks. -/
def isSyntax (c : Char) : Bool :=
  c.isAlpha || c ∈ [' ', ',', ':', '.', '=', '-', '>', '(', ')', '[', ']']

/-- Nothing that a query writes outside of its literals holds the character. -/
structure Snapshot.Lacks (x : Char) (s : Snapshot) : Prop where
  node : ∀ n ∈ s.diagram.nodes, x ∉ (s.nodeName n.id).toList
  relationship : ∀ a ∈ s.active, x ∉ (s.relationshipName a.relationship).toList
  fallback : x ∉ s.settings.fallback.toList
  label : ∀ n ∈ s.diagram.nodes, ∀ label ∈ n.label, x ∉ label.toList
  type : ∀ a ∈ s.active, ∀ type ∈ a.relationship.type, x ∉ type.toList
  property : ∀ f ∈ s.diagram.filters, x ∉ f.property.toList
  operator : ∀ f ∈ s.diagram.filters, x ∉ f.operator.toList
  returnField : ∀ field ∈ s.diagram.returnFields, x ∉ field.toList
  limit : x ∉ s.diagram.limit.toList

/-- Apart from its literal the predicate does not hold the character. -/
structure Predicate.Lacks (x : Char) (p : Predicate) : Prop where
  name : x ∉ p.name.toList
  property : x ∉ p.property.toList
  operator : x ∉ p.operator.toList

/-- Apart from its literals the clause does not hold the character. -/
def Clause.Lacks (x : Char) : Clause → Prop
  | .filter predicates => ∀ p ∈ predicates, p.Lacks x
  | .assign name values => x ∉ name.toList ∧ ∀ v ∈ values, x ∉ v.1.toList
  | c => x ∉ c.write

variable {x : Char}

/-! ### Text -/

theorem ne_of_isSyntax (hx : isSyntax x = false) (c : Char) (hc : isSyntax c = true) : x ≠ c := by
  rintro rfl
  rw [hx] at hc
  cases hc

/-- A character that is no syntax stands in no keyword and in no separator. -/
theorem notMem_of_isSyntax (hx : isSyntax x = false) {cs : List Char}
    (hcs : cs.all isSyntax = true) : x ∉ cs :=
  fun hmem => ne_of_isSyntax hx x (List.all_eq_true.mp hcs x hmem) rfl

/-- A joined text holds what its parts and the separator hold, and nothing else. -/
theorem notMem_intercalate {sep : List Char} (hsep : x ∉ sep) :
    ∀ {xss : List (List Char)}, (∀ xs ∈ xss, x ∉ xs) → x ∉ sep.intercalate xss
  | [], _ => List.not_mem_nil
  | [xs], h => by simpa using h xs (List.mem_cons_self ..)
  | xs :: ys :: xss, h => by
      have hxs : x ∉ xs := h xs (List.mem_cons_self ..)
      have hrest := notMem_intercalate hsep fun zs hzs => h zs (List.mem_cons_of_mem xs hzs)
      rw [List.intercalate_cons_cons]
      simp [hxs, hsep, hrest]

/-- A name has its label or its type behind a colon, if there is one. -/
theorem notMem_writeTagged {name : String} {tag : Option String} (hx : x ≠ ':')
    (hname : x ∉ name.toList) (htag : ∀ t ∈ tag, x ∉ t.toList) : x ∉ writeTagged name tag := by
  rw [writeTagged]
  split
  · rename_i t ht
    have ht' : x ∉ t.toList := htag t (Option.filter_eq_some_iff.mp ht).1
    simp [hname, hx, ht']
  · exact hname

/-- Trimming adds no characters to a text. -/
theorem mem_of_mem_trim {s : String} (h : x ∈ (Text.trim s).toList) : x ∈ s.toList := by
  rw [Text.trim, String.toList_ofList, Text.trimList, Text.trimEnd, List.mem_reverse] at h
  have hmem := (List.dropWhile_subset Text.isBlank) h
  exact (List.dropWhile_subset Text.isBlank) (List.mem_reverse.mp hmem)

theorem notMem_writeNodePattern (hx : isSyntax x = false) {name : String} {label : Option String}
    (hname : x ∉ name.toList) (hlabel : ∀ t ∈ label, x ∉ t.toList) :
    x ∉ writeNodePattern name label := by
  have htag : x ∉ writeTagged name label :=
    notMem_writeTagged (ne_of_isSyntax hx ':' rfl) hname hlabel
  simp [writeNodePattern, htag, ne_of_isSyntax hx '(' rfl, ne_of_isSyntax hx ')' rfl]

theorem notMem_writeRelationshipBody (hx : isSyntax x = false) {name : String}
    {type : Option String} (hname : x ∉ name.toList) (htype : ∀ t ∈ type, x ∉ t.toList) :
    x ∉ writeRelationshipBody name type := by
  have htag : x ∉ writeTagged name type :=
    notMem_writeTagged (ne_of_isSyntax hx ':' rfl) hname htype
  simp [writeRelationshipBody, htag, ne_of_isSyntax hx '[' rfl, ne_of_isSyntax hx ']' rfl]

/-- Texts behind a keyword, separated by commas. -/
theorem notMem_list {α : Type} {keyword : List Char} {f : α → List Char} {ys : List α}
    (hx : isSyntax x = false) (hkeyword : keyword.all isSyntax = true)
    (h : ∀ y ∈ ys, x ∉ f y) : x ∉ keyword ++ comma.intercalate (ys.map f) := by
  have hcomma : x ∉ comma := notMem_of_isSyntax hx (by decide)
  have hitems : x ∉ comma.intercalate (ys.map f) := by
    refine notMem_intercalate hcomma fun cs hcs => ?_
    obtain ⟨y, hy, rfl⟩ := List.mem_map.mp hcs
    exact h y hy
  rw [List.mem_append]
  exact not_or.mpr ⟨notMem_of_isSyntax hx hkeyword, hitems⟩

/-- The comparison of a filter, whatever it compares with. -/
theorem Predicate.lacks_compare {name : String} {f : PropertyFilter} (hname : x ∉ name.toList)
    (hproperty : x ∉ f.property.toList) (hoperator : x ∉ f.operator.toList) :
    (compare name f.property f.operator f.value).Lacks x := by
  cases h : f.isText with
  | true =>
      rw [compare_of_isText h]
      exact ⟨hname, hproperty, hoperator⟩
  | false =>
      obtain ⟨cast, y, hcompare⟩ := compare_of_not_isText name h
      rw [hcompare]
      exact ⟨hname, hproperty, hoperator⟩

theorem lacks_project (hx : isSyntax x = false) {items : List String}
    (h : ∀ item ∈ items, x ∉ item.toList) : (Clause.project items).Lacks x :=
  notMem_list hx (by decide) h

/-- A hand-off writes its names and its limit as they are. -/
theorem lacks_handOff (hx : isSyntax x = false) {names : List String} {limit : Option String}
    (hnames : ∀ name ∈ names, x ∉ name.toList) (hlimit : ∀ l ∈ limit, x ∉ l.toList) :
    (Clause.handOff names limit).Lacks x := by
  have hlist : x ∉ "WITH ".toList ++ comma.intercalate (names.map String.toList) :=
    notMem_list hx (by decide) hnames
  intro hmem
  rcases List.mem_append.mp hmem with hmem | hmem
  · exact hlist hmem
  · cases limit with
    | none => cases hmem
    | some l =>
        rcases List.mem_append.mp hmem with hmem | hmem
        · exact notMem_of_isSyntax hx (by decide) hmem
        · exact hlimit l rfl hmem

namespace Snapshot

variable {s : Snapshot}

/-! ### Patterns -/

namespace Lacks

theorem notMem_nodePattern (h : s.Lacks x) (hx : isSyntax x = false) {p : NodePattern}
    (hp : s.DrawsNode p) : x ∉ p.write := by
  obtain ⟨n, hn, label, hlabel, rfl⟩ := hp
  refine notMem_writeNodePattern hx (h.node n hn) ?_
  rcases hlabel with rfl | rfl
  · intro t ht
    cases ht
  · exact h.label n hn

/-- Nothing that the diagram draws holds the character. -/
theorem notMem_pattern (h : s.Lacks x) (hx : isSyntax x = false) {p : Pattern} (hp : s.Draws p) :
    x ∉ p.write := by
  cases hp with
  | fallback => exact notMem_writeNodePattern hx h.fallback fun _ ht => by cases ht
  | node hp => exact h.notMem_nodePattern hx hp
  | relationship ha hsource htarget =>
      have hbody := notMem_writeRelationshipBody hx (h.relationship _ ha) (h.type _ ha)
      simp [Pattern.write, RelationshipPattern.write, hbody, h.notMem_nodePattern hx hsource,
        h.notMem_nodePattern hx htarget, ne_of_isSyntax hx '-' rfl, ne_of_isSyntax hx '>' rfl]

/-- No name of the diagram holds the character. -/
theorem notMem_hasName (h : s.Lacks x) {name : String} (hname : s.HasName name) :
    x ∉ name.toList := by
  rcases hname with ⟨n, hn, rfl⟩ | ⟨a, ha, rfl⟩
  · exact h.node n hn
  · exact h.relationship a ha

/-- A limit is a part of what was typed, so it does not hold the character. -/
theorem notMem_limit (h : s.Lacks x) {limit : String} (hlimit : s.limit? = some limit) :
    x ∉ limit.toList := by
  rw [eq_trim_of_limit? hlimit]
  exact fun hmem => h.limit (mem_of_mem_trim hmem)

end Lacks

/-! ### Clauses -/

/-- A clause that matches what the diagram draws, or hands its names on, has no literals and does
not hold the character at all. -/
theorem Matches.lacks (h : s.Lacks x) (hx : isSyntax x = false) {c : Clause} (hc : s.Matches c) :
    c.Lacks x := by
  cases hc with
  | mandatoryMatch hps =>
      exact notMem_list hx (by decide) fun p hp => h.notMem_pattern hx (hps p hp)
  | optionalMatch hps =>
      exact notMem_list hx (by decide) fun p hp => h.notMem_pattern hx (hps p hp)
  | handOff hnames =>
      exact lacks_handOff hx (fun name hname => h.notMem_hasName (hnames name hname)) fun _ hl => by
        cases hl

/-- An update writes its target and the properties outside of literals; the values are literals. -/
theorem lacks_assignClause {target : String} (htarget : x ∉ target.toList)
    {values : List (String × Json.Value)} (hvalues : ∀ v ∈ values, x ∉ v.1.toList) :
    ∀ c ∈ assignClause target values, c.Lacks x := by
  intro c hc
  cases values with
  | nil => cases hc
  | cons v vs =>
      rw [List.mem_singleton.mp hc]
      refine ⟨htarget, fun w hw => ?_⟩
      obtain ⟨u, hu, rfl⟩ := List.mem_map.mp hw
      exact hvalues u hu

namespace Lacks

variable {settings : Settings} {d : Diagram}

/-- A node has a name without the character, also one that the diagram does not have. -/
theorem notMem_nodeName (h : (d.snapshot settings).Lacks x) (id : String) :
    x ∉ ((d.snapshot settings).nodeName id).toList := by
  rcases nodeName_cases settings d id with ⟨n, hn, rfl⟩ | hid
  · exact h.node n hn
  · rw [hid]
    exact h.fallback

/-- Filters write names, properties and operators outside of literals. -/
theorem filterClause (h : (d.snapshot settings).Lacks x) {fs : List PropertyFilter}
    (hfs : fs ⊆ d.filters) : ∀ c ∈ (d.snapshot settings).filterClause fs, c.Lacks x := by
  intro c hc
  cases fs with
  | nil => cases hc
  | cons f fs =>
      rw [List.mem_singleton.mp hc]
      intro p hp
      obtain ⟨g, hg, rfl⟩ := List.mem_map.mp hp
      exact Predicate.lacks_compare (h.notMem_nodeName g.node) (h.property g (hfs hg))
        (h.operator g (hfs hg))

/-- Return fields do not hold the character, and neither do the names that stand for them. -/
theorem notMem_returnedItems (h : (d.snapshot settings).Lacks x) {fallback : String}
    (hfallback : x ∉ fallback.toList) :
    ∀ item ∈ (d.snapshot settings).returnedItems fallback, x ∉ item.toList := by
  intro item hitem
  rcases mem_returnedItems_cases hitem with ⟨id, rfl⟩ | htext | rfl
  · exact h.notMem_nodeName id
  · -- a field is returned without the blanks around it
    obtain ⟨field, hfield, rfl⟩ := Diagram.exists_field_of_mem_returnItems htext
    exact fun hmem => h.returnField field hfield (mem_of_mem_trim hmem)
  · exact hfallback

/-! ### Queries -/

/-- The clauses of a query that limits rows, one after the other. -/
theorem rowsQuery (h : (d.snapshot settings).Lacks x) (hx : isSyntax x = false) :
    ∀ c ∈ (d.snapshot settings).rowsQuery (d.snapshot settings).limit?, c.Lacks x := by
  intro c hc
  simp only [Snapshot.rowsQuery, List.mem_append, or_assoc] at hc
  rcases hc with hc | hc | hc | hc
  · exact (matches_matchClauses (endsDrawn settings d) hc).lacks h hx
  · exact h.filterClause (fun _ hf => hf) c hc
  · rw [List.mem_singleton.mp hc]
    exact lacks_project hx (h.notMem_returnedItems h.fallback)
  · obtain ⟨limit, hlimit, rfl⟩ := Option.map_eq_some_iff.mp (Option.mem_toList.mp hc)
    have hkeyword : x ∉ "LIMIT ".toList := notMem_of_isSyntax hx (by decide)
    exact fun hmem => (List.mem_append.mp hmem).elim hkeyword (h.notMem_limit hlimit)

/-- The clauses of a query that limits nodes, whose limit is handed on with the primary node. -/
theorem nodesQuery (h : (d.snapshot settings).Lacks x) (hx : isSyntax x = false) {primary : Node}
    (hprimary : primary ∈ d.nodes) {limit : String} (hlimit : x ∉ limit.toList) :
    ∀ c ∈ (d.snapshot settings).nodesQuery primary limit, c.Lacks x := by
  have hs := endsDrawn settings d
  intro c hc
  rw [nodesQuery_eq] at hc
  simp only [List.cons_append, List.mem_cons, List.mem_append, List.not_mem_nil, or_false] at hc
  rcases hc with rfl | hc | rfl | hc | hc | rfl
  · exact (matches_primaryMatch hprimary).lacks h hx
  · exact h.filterClause (fun f hf => (List.mem_filter.mp hf).1) c hc
  · refine lacks_handOff hx (fun name hname => ?_) fun l hl => ?_
    · rw [List.mem_singleton.mp hname]
      exact h.notMem_nodeName primary.id
    · cases hl
      exact hlimit
  · exact (matches_expansion hs hc).lacks h hx
  · exact h.filterClause (fun f hf => (List.mem_filter.mp hf).1) c hc
  · exact lacks_project hx (h.notMem_returnedItems (h.notMem_nodeName primary.id))

/-- **Nothing but the literals of a query** holds the character. -/
theorem readQuery (h : (d.snapshot settings).Lacks x) (hx : isSyntax x = false) :
    ∀ c ∈ (d.snapshot settings).readQuery, c.Lacks x := by
  rcases limitShape_cases (d.snapshot settings) with hshape | ⟨primary, limit, hshape, hp, hl⟩
  · rw [Snapshot.readQuery, hshape]
    exact h.rowsQuery hx
  · rw [Snapshot.readQuery, hshape]
    exact h.nodesQuery hx (mem_nodes_of_primary? hp) (h.notMem_limit hl)

/-- **Nothing but the literals of an update** holds the character. -/
theorem updateQuery (h : (d.snapshot settings).Lacks x) (hx : isSyntax x = false) {target : String}
    (htarget : x ∉ target.toList) {values : List (String × Json.Value)}
    (hvalues : ∀ v ∈ values, x ∉ v.1.toList) :
    ∀ c ∈ (d.snapshot settings).updateQuery target values, c.Lacks x := by
  intro c hc
  simp only [Snapshot.updateQuery, List.mem_append, or_assoc] at hc
  rcases hc with hc | hc | hc | hc
  · exact (matches_matchClauses (endsDrawn settings d) hc).lacks h hx
  · exact h.filterClause (fun _ hf => hf) c hc
  · exact lacks_assignClause htarget hvalues c hc
  · rw [List.mem_singleton.mp hc]
    refine lacks_project hx fun item hitem => ?_
    rw [List.mem_singleton.mp hitem]
    exact htarget

end Lacks

end Snapshot

end GraphQuery
