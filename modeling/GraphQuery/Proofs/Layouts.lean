import GraphQuery.Proofs.Characters
import GraphQuery.Proofs.CompactJson
import GraphQuery.Proofs.Idle
import GraphQuery.Proofs.QuotedValues

/-!
# Proofs — the layout of a query

What a diagram stands for does not depend on the layout (`compileQuery_laidOut`,
`compileUpdateQuery_laidOut`).  The layout only puts line feeds for blanks between clauses, so a
query none of whose clauses holds a line feed has its clauses for lines, and is laid out on one line
when its line feeds are replaced (`Query.lines_toText`, `Query.joinLines_toText`).

A clause holds a line feed only in a text of the diagram or in a text literal
(`Clause.Lacks.newline_notMem_write`).  A list or an object stands as the text of its JSON, which
holds no line feed however deep a text with one is nested (`Json.Value.newline_notMem_quoted`).

**So the layouts differ in separators only** (`layouts_differ_in_separators`).
-/

namespace GraphQuery

/-! ### Clauses without line feeds -/

/-- The text that a value stands as has no line feed if the value is no text with one. -/
theorem Json.Value.newline_notMem_quoted {v : Json.Value}
    (h : ∀ s, v = .string s → '\n' ∉ s.toList) : ∀ t ∈ v.quoted?, '\n' ∉ t.toList := by
  have hnested : ∀ w : Json.Value, '\n' ∉ w.toText.toList := by
    intro w hmem
    rw [toText, String.toList_ofList] at hmem
    cases w.forall_mem_write '\n' hmem
  intro t ht
  cases v with
  | string s =>
      have hs : s = t := Option.some.inj ht
      rw [← hs]
      exact h s rfl
  | array items =>
      cases ht
      exact hnested _
  | object members =>
      cases ht
      exact hnested _
  | null => cases ht
  | bool b => cases ht
  | number n => cases ht

/-- Escaping adds backslashes and nothing else. -/
theorem Text.mem_escape {x : Char} {cs : List Char} (h : x ∈ escape cs) : x = '\\' ∨ x ∈ cs := by
  induction cs with
  | nil => exact .inr h
  | cons c cs ih =>
      rw [escape] at h
      by_cases hc : needsEscape c = true
      · rw [if_pos hc, List.mem_cons, List.mem_cons] at h
        rcases h with h | h | h
        · exact .inl h
        · exact .inr (h ▸ List.mem_cons_self ..)
        · exact (ih h).imp_right (List.mem_cons_of_mem c)
      · rw [if_neg hc, List.mem_cons] at h
        rcases h with h | h
        · exact .inr (h ▸ List.mem_cons_self ..)
        · exact (ih h).imp_right (List.mem_cons_of_mem c)

/-- A literal holds a line feed only inside its quotes. -/
theorem Literal.newline_notMem_write {l : Literal} (h : ∀ t ∈ l.texts, '\n' ∉ t.toList) :
    '\n' ∉ l.write := by
  cases l with
  | null => decide
  | bool b => cases b <;> decide
  | integer i => exact fun hmem => nomatch Json.isNumeral_of_mem_writeInt hmem
  | number y => exact fun hmem => nomatch isNumeral_of_mem_writeNumber hmem
  | text s =>
      intro hmem
      rw [write, Text.quoteList, List.mem_cons, List.mem_append, List.mem_singleton] at hmem
      rcases hmem with hmem | hmem | hmem
      · cases hmem
      · rcases Text.mem_escape hmem with hmem | hmem
        · cases hmem
        · exact h s (List.mem_cons_self ..) hmem
      · cases hmem

theorem Predicate.Lacks.newline_notMem_write {p : Predicate} (h : p.Lacks '\n')
    (htexts : ∀ t ∈ p.literal.texts, '\n' ∉ t.toList) : '\n' ∉ p.write := by
  have hliteral := Literal.newline_notMem_write htexts
  have haccess : '\n' ∉ writeAccess p.name p.property := by
    simp [writeAccess, h.name, h.property]
  have hcast : ∀ cast : Cast, '\n' ∉ cast.text.toList := by
    intro cast
    cases cast <;> decide
  cases hp : p.cast with
  | none => simp [Predicate.write, hp, haccess, h.operator, hliteral]
  | some cast => simp [Predicate.write, hp, haccess, h.operator, hliteral, hcast cast]

theorem newline_notMem_writeAssignment {name : String} {v : String × Literal}
    (hname : '\n' ∉ name.toList) (hproperty : '\n' ∉ v.1.toList)
    (htexts : ∀ t ∈ v.2.texts, '\n' ∉ t.toList) : '\n' ∉ writeAssignment name v := by
  simp [writeAssignment, writeAccess, hname, hproperty, Literal.newline_notMem_write htexts]

/-- **A clause holds no line feed** if neither its text literals nor anything else in it does. -/
theorem Clause.Lacks.newline_notMem_write {c : Clause} (h : c.Lacks '\n')
    (htexts : ∀ t ∈ c.texts, '\n' ∉ t.toList) : '\n' ∉ c.write := by
  cases c with
  | filter predicates =>
      have hitems : '\n' ∉ conjunction.intercalate (predicates.map Predicate.write) := by
        refine notMem_intercalate (by decide) fun cs hcs => ?_
        obtain ⟨p, hp, rfl⟩ := List.mem_map.mp hcs
        exact (h p hp).newline_notMem_write fun t ht =>
          htexts t (List.mem_flatMap.mpr ⟨p, hp, ht⟩)
      intro hmem
      rcases List.mem_append.mp hmem with hmem | hmem
      · exact notMem_of_isSyntax (by decide) (by decide) hmem
      · exact hitems hmem
  | assign name values =>
      refine notMem_list (by decide) (by decide) fun v hv => ?_
      exact newline_notMem_writeAssignment h.1 (h.2 v hv) fun t ht =>
        htexts t (List.mem_flatMap.mpr ⟨v, hv, ht⟩)
  | mandatoryMatch patterns => exact h
  | optionalMatch patterns => exact h
  | handOff names rows => exact h
  | project items => exact h
  | limit count => exact h

/-! ### Lines -/

/-- The text with a blank for every line feed. -/
def Text.joinLines (s : String) : String :=
  s.map fun c => if c = '\n' then ' ' else c

/-- The lines of a text. -/
def Text.lines (s : String) : List String :=
  (s.toList.splitOn '\n').map String.ofList

namespace Clause

/-- The text of a clause as a string. -/
def text (c : Clause) : String :=
  String.ofList c.write

/-- The words that a clause may begin with. -/
def keywords : List String :=
  ["MATCH", "OPTIONAL MATCH", "WITH", "WHERE", "SET", "RETURN", "LIMIT"]

/-- A line that begins with the keyword of a clause. -/
def Begins (line : String) : Prop :=
  ∃ keyword ∈ keywords, keyword.toList ++ [' '] <+: line.toList

theorem begins_of_write_eq {c : Clause} (keyword : String) (hkeyword : keyword ∈ keywords)
    {rest : List Char} (h : c.write = keyword.toList ++ [' '] ++ rest) : Begins c.text := by
  refine ⟨keyword, hkeyword, ?_⟩
  rw [text, String.toList_ofList, h]
  exact List.prefix_append _ rest

/-- Every clause stands behind its keyword. -/
theorem begins_text (c : Clause) : Begins c.text := by
  cases c with
  | mandatoryMatch patterns => exact begins_of_write_eq "MATCH" (by decide) rfl
  | optionalMatch patterns => exact begins_of_write_eq "OPTIONAL MATCH" (by decide) rfl
  | handOff names rows =>
      exact begins_of_write_eq "WITH" (by decide) (List.append_assoc ..)
  | filter predicates => exact begins_of_write_eq "WHERE" (by decide) rfl
  | assign name values => exact begins_of_write_eq "SET" (by decide) rfl
  | project items => exact begins_of_write_eq "RETURN" (by decide) rfl
  | limit count => exact begins_of_write_eq "LIMIT" (by decide) rfl

end Clause

/-- Replacing characters of a joined text replaces them in the parts and in what is put between. -/
theorem map_intercalate {α β : Type} (f : α → β) (sep : List α) :
    ∀ xss : List (List α),
      (sep.intercalate xss).map f = (sep.map f).intercalate (xss.map (List.map f))
  | [] => rfl
  | [xs] => by simp
  | xs :: ys :: xss => by
      have hrest := map_intercalate f sep (ys :: xss)
      rw [List.map_cons] at hrest
      rw [List.intercalate_cons_cons, List.map_cons, List.map_cons, List.intercalate_cons_cons,
        List.map_append, List.map_append, hrest]

namespace Query

variable {q : Query}

/-- The clauses of a query are the lines of its text. -/
theorem lines_toText (hq : q ≠ []) (h : ∀ c ∈ q, '\n' ∉ c.write) :
    Text.lines (q.toText .multiline) = q.map Clause.text := by
  have hsplit : (Query.write .multiline q).splitOn '\n' = q.map Clause.write :=
    List.splitOn_intercalate '\n' (List.forall_mem_map.mpr h) fun hnil =>
      hq (List.map_eq_nil_iff.mp hnil)
  rw [Text.lines, Query.toText, String.toList_ofList, hsplit, List.map_map]
  rfl

/-- With blanks for line feeds a query stands on one line. -/
theorem joinLines_toText (h : ∀ c ∈ q, '\n' ∉ c.write) :
    Text.joinLines (q.toText .multiline) = q.toText .singleLine := by
  have hkeep : ∀ cs : List Char, '\n' ∉ cs →
      cs.map (fun c => if c = '\n' then ' ' else c) = cs := by
    intro cs hcs
    refine (List.map_congr_left fun c hc => if_neg ?_).trans (List.map_id cs)
    rintro rfl
    exact hcs hc
  have hclauses : (q.map Clause.write).map (List.map fun c => if c = '\n' then ' ' else c)
      = q.map Clause.write := by
    rw [List.map_map]
    exact List.map_congr_left fun c hc => hkeep c.write (h c hc)
  rw [← String.toList_inj, Text.joinLines, String.toList_map, Query.toText, Query.toText,
    String.toList_ofList, String.toList_ofList, Query.write, Query.write, map_intercalate, hclauses]
  rfl

end Query

/-! ### Layouts -/

/-- The settings with another layout. -/
def Settings.laidOut (settings : Settings) (multiline : Bool) : Settings :=
  { settings with multiline }

section Layouts

variable (settings : Settings) (multiline : Bool) (d : Diagram)

/-- The layout is nothing that a query depends on. -/
theorem sameReading_laidOut :
    (d.snapshot (settings.laidOut multiline)).SameReading (d.snapshot settings) where
  nodes := rfl
  fallback := rfl
  active := rfl
  names := rfl
  filters := rfl
  returnFields := rfl
  limit := rfl
  limitMode := rfl

/-- **What a diagram stands for** does not depend on the layout. -/
theorem compileQuery_laidOut :
    compileQuery (settings.laidOut multiline) d = compileQuery settings d :=
  (sameReading_laidOut settings multiline d).readQuery_eq

theorem compileUpdateQuery_laidOut (target : String) (updates : List (String × NewValue)) :
    compileUpdateQuery (settings.laidOut multiline) d target updates
      = compileUpdateQuery settings d target updates := by
  have h := sameReading_laidOut settings multiline d
  have hupdate : (d.snapshot (settings.laidOut multiline)).updateQuery target
      = (d.snapshot settings).updateQuery target :=
    funext fun values => h.updateQuery_eq target values
  rw [compileUpdateQuery, compileUpdateQuery, h.nodeNames_eq, hupdate]

/-- The layout chooses the separator of the clauses, and nothing else. -/
theorem compile_laidOut :
    compile (settings.laidOut multiline) d
      = (compileQuery settings d).toText (if multiline then .multiline else .singleLine) := by
  rw [compile, compileQuery_laidOut]
  rfl

theorem compileUpdate_laidOut (target : String) (updates : List (String × NewValue)) :
    compileUpdate (settings.laidOut multiline) d target updates
      = (compileUpdateQuery settings d target updates).map
          (Query.toText (if multiline then .multiline else .singleLine)) := by
  rw [compileUpdate, compileUpdateQuery_laidOut]
  rfl

end Layouts

/-! ### Queries without line feeds -/

section LineFeeds

variable {settings : Settings} {d : Diagram}

theorem newline_notMem_filterTexts {fs : List PropertyFilter}
    (h : ∀ f ∈ fs, '\n' ∉ f.value.toList) : ∀ t ∈ filterTexts fs, '\n' ∉ t.toList := by
  intro t ht
  obtain ⟨f, hf, rfl⟩ := List.mem_map.mp ht
  exact h f (List.mem_filter.mp hf).1

/-- No clause of a query holds a line feed. -/
theorem newline_notMem_compileQuery (h : (d.snapshot settings).Lacks '\n')
    (hvalues : ∀ f ∈ d.filters, '\n' ∉ f.value.toList) :
    ∀ c ∈ compileQuery settings d, '\n' ∉ c.write := by
  intro c hc
  refine (h.readQuery (by decide) c hc).newline_notMem_write fun t ht => ?_
  have htexts := Snapshot.texts_readQuery (Snapshot.endsDrawn settings d)
  have hmem : t ∈ filterTexts (d.snapshot settings).orderedFilters := by
    rw [← htexts]
    exact List.mem_flatMap.mpr ⟨c, hc, ht⟩
  have hordered : ∀ f ∈ (d.snapshot settings).orderedFilters, f ∈ d.filters := by
    intro f hf
    rw [Snapshot.orderedFilters] at hf
    split at hf
    · exact hf
    · rcases List.mem_append.mp hf with hf | hf
      · exact (List.mem_filter.mp hf).1
      · exact (List.mem_filter.mp hf).1
  exact newline_notMem_filterTexts (fun f hf => hvalues f (hordered f hf)) t hmem

/-- No clause of an update holds a line feed. -/
theorem newline_notMem_compileUpdateQuery (h : (d.snapshot settings).Lacks '\n')
    (hvalues : ∀ f ∈ d.filters, '\n' ∉ f.value.toList) {target : String}
    {updates : List (String × NewValue)}
    (hupdates : ∀ u ∈ updates, '\n' ∉ u.1.toList ∧
      ∀ s, u.2 = .ok (.string s) → '\n' ∉ s.toList) {q : Query}
    (hq : compileUpdateQuery settings d target updates = .ok q) : ∀ c ∈ q, '\n' ∉ c.write := by
  obtain ⟨htarget, values, hcollect, rfl⟩ := compileUpdateQuery_eq_ok.mp hq
  have hvalue : ∀ v ∈ values, '\n' ∉ v.1.toList ∧ ∀ s, v.2 = .string s → '\n' ∉ s.toList := by
    intro v hv
    have hmem : (v.1, .ok v.2) ∈ updates := by
      rw [collectValues_eq_ok.mp hcollect]
      exact List.mem_map_of_mem hv
    obtain ⟨hproperty, htext⟩ := hupdates _ hmem
    exact ⟨hproperty, fun s hs => htext s (congrArg Except.ok hs)⟩
  have hplain : '\n' ∉ target.toList := by
    obtain ⟨n, hn, rfl⟩ := List.mem_map.mp htarget
    exact h.node n hn
  intro c hc
  refine (h.updateQuery (by decide) hplain (fun v hv => (hvalue v hv).1) c hc).newline_notMem_write
    fun t ht => ?_
  have htexts := Snapshot.texts_updateQuery (Snapshot.endsDrawn settings d) target values
  have hmem := List.mem_flatMap.mpr ⟨c, hc, ht⟩
  rw [htexts, List.mem_append, List.mem_filterMap] at hmem
  rcases hmem with hmem | ⟨v, hv, hquoted⟩
  · exact newline_notMem_filterTexts hvalues t hmem
  · exact Json.Value.newline_notMem_quoted (hvalue v hv).2 t hquoted

/-- A query has clauses. -/
theorem compileQuery_ne_nil (settings : Settings) (d : Diagram) : compileQuery settings d ≠ [] := by
  rw [compileQuery, Snapshot.readQuery]
  cases (d.snapshot settings).limitShape with
  | rows limit => simp [Snapshot.rowsQuery]
  | nodes primary limit => simp [Snapshot.nodesQuery]

/-- An update returns its target, so it has a clause. -/
theorem updateQuery_ne_nil {s : Snapshot} (target : String) (values : List (String × Json.Value)) :
    s.updateQuery target values ≠ [] := by
  simp [Snapshot.updateQuery]

end LineFeeds

/-- **The layouts differ in separators only.**  An update is refused in both layouts or in none, and
for the same reason.  Suppose that no text that a query writes holds a line feed, and that no update
sets a property with one or a text with one; texts that are nested in values may hold them.  Then
the query on one line is the one on several lines with blanks for its line feeds, and the lines of
the latter are the clauses, each of them behind its keyword. -/
theorem layouts_differ_in_separators (settings : Settings) (d : Diagram) :
    (∀ target updates e,
      compileUpdate (settings.laidOut true) d target updates = .error e ↔
        compileUpdate (settings.laidOut false) d target updates = .error e) ∧
    ((d.snapshot settings).Lacks '\n' → (∀ f ∈ d.filters, '\n' ∉ f.value.toList) →
      Text.joinLines (compile (settings.laidOut true) d) = compile (settings.laidOut false) d ∧
      Text.lines (compile (settings.laidOut true) d)
        = (compileQuery settings d).map Clause.text ∧
      (∀ line ∈ Text.lines (compile (settings.laidOut true) d), Clause.Begins line) ∧
      ∀ target updates,
        (∀ u ∈ updates, '\n' ∉ u.1.toList ∧ ∀ s, u.2 = .ok (.string s) → '\n' ∉ s.toList) →
        (compileUpdate (settings.laidOut true) d target updates).map Text.joinLines
          = compileUpdate (settings.laidOut false) d target updates ∧
        (compileUpdate (settings.laidOut true) d target updates).map Text.lines
          = (compileUpdateQuery settings d target updates).map (List.map Clause.text) ∧
        ∀ text, compileUpdate (settings.laidOut true) d target updates = .ok text →
          ∀ line ∈ Text.lines text, Clause.Begins line) := by
  have hbegins : ∀ q : Query, ∀ line ∈ q.map Clause.text, Clause.Begins line := by
    intro q line hline
    obtain ⟨c, -, rfl⟩ := List.mem_map.mp hline
    exact c.begins_text
  simp only [compile_laidOut, compileUpdate_laidOut, if_true, Bool.false_eq_true, if_false]
  refine ⟨fun target updates e => ?_, fun h hvalues => ?_⟩
  · cases compileUpdateQuery settings d target updates with
    | ok q => exact iff_of_false nofun nofun
    | error e' => exact Iff.rfl
  · have hq := newline_notMem_compileQuery h hvalues
    have hlines := Query.lines_toText (compileQuery_ne_nil settings d) hq
    refine ⟨Query.joinLines_toText hq, hlines, fun line hline => ?_,
      fun target updates hupdates => ?_⟩
    · rw [hlines] at hline
      exact hbegins _ line hline
    · cases hupdate : compileUpdateQuery settings d target updates with
      | error e => exact ⟨rfl, rfl, nofun⟩
      | ok q =>
          obtain ⟨-, values, -, heq⟩ := compileUpdateQuery_eq_ok.mp hupdate
          have hne : q ≠ [] := by
            rw [heq]
            exact updateQuery_ne_nil target values
          have hq := newline_notMem_compileUpdateQuery h hvalues hupdates hupdate
          have hlines := Query.lines_toText hne hq
          refine ⟨congrArg Except.ok (Query.joinLines_toText hq), congrArg Except.ok hlines, ?_⟩
          intro text htext line hline
          cases htext
          rw [hlines] at hline
          exact hbegins q line hline

/-- Values to set that hold line feeds in a list and in the name of a member. -/
def minutes : List (String × Json.Value) :=
  [("topics", .array [.string "first\nsecond"]), ("votes", .object [("for\nagainst", .null)]),
    ("chair", .string "Ada")]

/-- Line feeds that are nested in values do not break the lines of an update. -/
theorem layouts_of_minutes :
    ((friendsNamed "Ada").snapshot .default).Lacks '\n' ∧
      (∀ f ∈ (friendsNamed "Ada").filters, '\n' ∉ f.value.toList) ∧
      (∀ u ∈ updatesOf minutes, '\n' ∉ u.1.toList ∧
        ∀ s, u.2 = .ok (.string s) → '\n' ∉ s.toList) ∧
      Text.joinLines (compile (Settings.default.laidOut true) (friendsNamed "Ada"))
        = compile (Settings.default.laidOut false) (friendsNamed "Ada") ∧
      ∃ text,
        compileUpdate (Settings.default.laidOut true) (friendsNamed "Ada") "c" (updatesOf minutes)
          = .ok text ∧
        (Text.lines text).length = 4 ∧
        compileUpdate (Settings.default.laidOut false) (friendsNamed "Ada") "c" (updatesOf minutes)
          = .ok (Text.joinLines text) := by
  have hlacks : ((friendsNamed "Ada").snapshot .default).Lacks '\n' :=
    ⟨by decide, by decide, by decide, by decide, by decide, by decide, by decide, by decide,
      by decide⟩
  have hvalues : ∀ f ∈ (friendsNamed "Ada").filters, '\n' ∉ f.value.toList := by decide
  have hupdates : ∀ u ∈ updatesOf minutes, '\n' ∉ u.1.toList ∧
      ∀ s, u.2 = .ok (.string s) → '\n' ∉ s.toList := by
    intro u hu
    simp only [updatesOf, minutes, List.map_cons, List.map_nil, List.mem_cons, List.not_mem_nil,
      or_false] at hu
    rcases hu with rfl | rfl | rfl
    · refine ⟨by decide, fun s hs => ?_⟩
      cases hs
    · refine ⟨by decide, fun s hs => ?_⟩
      cases hs
    · refine ⟨by decide, fun s hs => ?_⟩
      cases hs
      decide
  obtain ⟨-, hlayouts⟩ := layouts_differ_in_separators .default (friendsNamed "Ada")
  obtain ⟨hread, -, -, hupdate⟩ := hlayouts hlacks hvalues
  obtain ⟨hjoin, hlines, -⟩ := hupdate "c" (updatesOf minutes) hupdates
  have htarget : "c" ∈ ((friendsNamed "Ada").snapshot .default).nodeNames := by decide
  have hquery := compileUpdateQuery_eq_ok.mpr
    ⟨htarget, minutes, collectValues_updatesOf minutes, rfl⟩
  rw [compileUpdate_laidOut, hquery] at hjoin hlines
  refine ⟨hlacks, hvalues, hupdates, hread, _, ?_, ?_, hjoin.symm⟩
  · rw [compileUpdate_laidOut, hquery]
    rfl
  · rw [Except.ok.inj hlines, List.length_map]
    decide

end GraphQuery
