import GraphQuery.Proofs.LimitMode
import GraphQuery.Proofs.Numerals

/-!
# Proofs — queries are in the grammar

Let the names, labels, types, properties and returned texts of a diagram be words
(`Snapshot.Worded`).  Then every part of its query is in the grammar: patterns
(`Worded.pattern_mem`), comparisons with any value (`compare_mem`), and each clause.  A text of the
grammar has a clause for each list that is not empty, and so has a query; a query is written as its
clauses but the last, each with a gap behind it, and the last one (`Query.write_append_cons`).

The match clauses of a query that limits rows are never empty: either some relationship takes part
(`connectedMatch_ne_nil`), or every node stands on its own.

**Every compiled query is in the grammar** (`compile_mem_grammar`).
-/

namespace GraphQuery

open Grammar
open scoped Computability

/-! ### Words -/

/-- The name is a word: ASCII letters, digits and underscores, at least one of them. -/
def IsWord (x : String) : Prop :=
  x ≠ "" ∧ ∀ c ∈ x.toList, isIdentifierRest c = true

-- Over the letters of the name: inferred, the instance may well search through all characters.
instance (x : String) : Decidable (IsWord x) :=
  @instDecidableAnd _ _ inferInstance (List.decidableBAll _ x.toList)

/-- The operators of conditions. -/
def operators : List String :=
  ["=", "<>", ">", "<", ">=", "<=", "CONTAINS", "STARTS WITH", "ENDS WITH"]

/-- What a query may write outside of its literals are words, operators and digits. -/
structure Snapshot.Worded (s : Snapshot) : Prop where
  node : ∀ n ∈ s.diagram.nodes, IsWord (s.nodeName n.id)
  relationship : ∀ a ∈ s.active, IsWord (s.relationshipName a.relationship)
  fallback : IsWord s.settings.fallback
  label : ∀ n ∈ s.diagram.nodes, ∀ label ∈ n.label, label ≠ "" → IsWord label
  type : ∀ a ∈ s.active, ∀ type ∈ a.relationship.type, type ≠ "" → IsWord type
  property : ∀ f ∈ s.diagram.filters, IsWord f.property
  operator : ∀ f ∈ s.diagram.filters, f.operator ∈ operators
  returnField : ∀ text, .text text ∈ s.diagram.returnItems → IsWord text
  limit : ∀ c ∈ (Text.trim s.diagram.limit).toList, c.isDigit = true

/-- A word of the diagram is a word of the grammar. -/
theorem IsWord.mem_word {x : String} (h : IsWord x) : x.toList ∈ word :=
  mem_oneOrMore_char (fun hnil => h.1 (String.toList_eq_nil_iff.mp hnil)) h.2

/-! ### Patterns -/

/-- A label or a type is written only if it is not empty, so only then it has to be a word. -/
theorem writeTagged_mem {name : String} {tag : Option String} (hname : IsWord name)
    (htag : ∀ t ∈ tag, t ≠ "" → IsWord t) : writeTagged name tag ∈ tagged := by
  rw [writeTagged]
  split
  · rename_i t ht
    obtain ⟨hmem, hne⟩ := Option.filter_eq_some_iff.mp ht
    have hword := (htag t hmem (of_decide_eq_true hne)).mem_word
    exact Language.append_mem_mul hname.mem_word
      (mem_optional (Language.append_mem_mul (toList_mem_token ":") hword))
  · rw [← List.append_nil name.toList]
    exact Language.append_mem_mul hname.mem_word nil_mem_optional

theorem writeNodePattern_mem {name : String} {label : Option String} (hname : IsWord name)
    (hlabel : ∀ t ∈ label, t ≠ "" → IsWord t) : writeNodePattern name label ∈ node :=
  Language.append_mem_mul
    (Language.append_mem_mul (toList_mem_token "(") (writeTagged_mem hname hlabel))
    (toList_mem_token ")")

/-- A relationship is written between the patterns of its ends. -/
theorem RelationshipPattern.write_mem {p : RelationshipPattern} (hsource : p.source.write ∈ node)
    (htarget : p.target.write ∈ node) (hname : IsWord p.name)
    (htype : ∀ t ∈ p.relationship.type, t ≠ "" → IsWord t) : p.write ∈ Grammar.relationship := by
  have htext : p.write = p.source.write ++ "-[".toList ++ writeTagged p.name p.relationship.type
      ++ "]->".toList ++ p.target.write := by
    simp [write, writeRelationshipBody]
  have hbody := Language.append_mem_mul (Language.append_mem_mul hsource (toList_mem_token "-["))
    (writeTagged_mem hname htype)
  rw [htext]
  exact Language.append_mem_mul (Language.append_mem_mul hbody (toList_mem_token "]->")) htarget

/-! ### Predicates -/

variable {name property operator value : String}

theorem writeAccess_mem (hname : IsWord name) (hproperty : IsWord property) :
    writeAccess name property ∈ access := by
  have htext : writeAccess name property = name.toList ++ ".".toList ++ property.toList := by
    simp [writeAccess]
  rw [htext]
  exact Language.append_mem_mul (Language.append_mem_mul hname.mem_word (toList_mem_token "."))
    hproperty.mem_word

/-- A cast stands around a property in parentheses. -/
theorem cast_mem (cast : Cast) {cs : List Char} (h : cs ∈ access) :
    cast.text.toList ++ '(' :: (cs ++ [')']) ∈ castTo cast := by
  have htext : cast.text.toList ++ '(' :: (cs ++ [')'])
      = cast.text.toList ++ "(".toList ++ cs ++ ")".toList := by
    simp
  rw [htext]
  exact Language.append_mem_mul (Language.append_mem_mul
    (Language.append_mem_mul (toList_mem_token _) (toList_mem_token "(")) h) (toList_mem_token ")")

/-- An operator stands between blanks. -/
theorem comparison_mem {left op right : Language Char} {a o b : List Char} (ha : a ∈ left)
    (ho : o ∈ op) (hb : b ∈ right) : a ++ ' ' :: (o ++ ' ' :: b) ∈ comparison left op right := by
  have htext : a ++ ' ' :: (o ++ ' ' :: b) = a ++ " ".toList ++ o ++ " ".toList ++ b := by simp
  rw [htext]
  exact Language.append_mem_mul (Language.append_mem_mul (Language.append_mem_mul
    (Language.append_mem_mul ha (toList_mem_token " ")) ho) (toList_mem_token " ")) hb

/-- The inside of a text. -/
theorem escape_mem (cs : List Char) :
    Text.escape cs ∈ (char (!Text.needsEscape ·) + token "\\" * char Text.needsEscape)∗ := by
  induction cs with
  | nil => exact Language.nil_mem_kstar _
  | cons c cs ih =>
      rw [Text.escape]
      split
      · rename_i hc
        have hchar : ['\\', c] ∈ token "\\" * char Text.needsEscape :=
          Language.append_mem_mul (toList_mem_token "\\") ⟨c, hc, rfl⟩
        exact append_mem_kstar (.inr hchar) ih
      · rename_i hc
        have hchar : [c] ∈ char (!Text.needsEscape ·) :=
          ⟨c, congrArg not (eq_false_of_ne_true hc), rfl⟩
        exact append_mem_kstar (.inl hchar) ih

/-- Any text at all may stand between quotes. -/
theorem quoteList_mem (cs : List Char) : Text.quoteList cs ∈ quoted :=
  Language.append_mem_mul (Language.append_mem_mul (toList_mem_token "\"") (escape_mem cs))
    (toList_mem_token "\"")

/-- An operator is of the kind that the grammar has it in. -/
theorem operator_cases (h : operator ∈ operators) :
    OperatorKind.of operator = .order ∧ operator.toList ∈ order ∨
      OperatorKind.of operator = .text ∧ operator.toList ∈ textual ∨
      OperatorKind.of operator = .other ∧ operator.toList ∈ equality := by
  simp only [operators, List.mem_cons, List.not_mem_nil, or_false] at h
  rcases h with rfl | rfl | rfl | rfl | rfl | rfl | rfl | rfl | rfl
  · exact .inr (.inr ⟨by decide, .inl rfl⟩)
  · exact .inr (.inr ⟨by decide, .inr rfl⟩)
  · exact .inl ⟨by decide, .inl (.inl (.inl rfl))⟩
  · exact .inl ⟨by decide, .inl (.inl (.inr rfl))⟩
  · exact .inl ⟨by decide, .inl (.inr rfl)⟩
  · exact .inl ⟨by decide, .inr rfl⟩
  · exact .inr (.inl ⟨by decide, .inl (.inl rfl)⟩)
  · exact .inr (.inl ⟨by decide, .inl (.inr rfl)⟩)
  · exact .inr (.inl ⟨by decide, .inr rfl⟩)

/-- **A comparison** is in the grammar, whatever the value is. -/
theorem compare_mem (hname : IsWord name) (hproperty : IsWord property)
    (hoperator : operator ∈ operators) (value : String) :
    (Predicate.compare name property operator value).write ∈ predicate := by
  have haccess := writeAccess_mem hname hproperty
  have hquoted : (Literal.text value).write ∈ quoted := quoteList_mem value.toList
  have hnumber : ∀ x, (Literal.number x).write ∈ number := writeNumber_mem_number
  rw [Predicate.compare]
  rcases operator_cases hoperator with ⟨hkind, ho⟩ | ⟨hkind, ho⟩ | ⟨hkind, ho⟩
  · rw [hkind]
    cases canonicalNumber? value.toList with
    | none => exact .inr (comparison_mem haccess (.inl ho) hquoted)
    | some x =>
        have hcast : (Cast.ofNumber x).text.toList ++ '(' :: (writeAccess name property ++ [')'])
            ∈ castTo .toInteger + castTo .toFloat := by
          rw [Cast.ofNumber]
          split
          · exact .inl (cast_mem .toInteger haccess)
          · exact .inr (cast_mem .toFloat haccess)
        exact .inl (.inl (.inl (comparison_mem hcast ho (hnumber x))))
  · rw [hkind]
    exact .inl (.inl (.inr (comparison_mem (cast_mem .toText haccess) ho hquoted)))
  · rw [hkind]
    cases canonicalNumber? value.toList with
    | none => exact .inr (comparison_mem haccess (.inr ho) hquoted)
    | some x => exact .inl (.inr (comparison_mem haccess ho (hnumber x)))

/-! ### Clauses -/

variable {layout : Layout}

/-- The text of clauses that have another one behind them. -/
def Query.lines (layout : Layout) (q : Query) : List Char :=
  q.flatMap fun c => c.write ++ layout.separator

theorem Query.lines_append (layout : Layout) (p q : Query) :
    Query.lines layout (p ++ q) = Query.lines layout p ++ Query.lines layout q :=
  List.flatMap_append

/-- Only the last clause of a query has no separator behind it. -/
theorem Query.write_append_cons (layout : Layout) (p : Query) (c : Clause) (q : Query) :
    Query.write layout (p ++ c :: q) = Query.lines layout p ++ Query.write layout (c :: q) := by
  induction p with
  | nil => rfl
  | cons d p ih =>
      obtain ⟨e, rest, hrest⟩ := List.exists_cons_of_ne_nil
        (List.append_ne_nil_of_right_ne_nil p (List.cons_ne_nil c q))
      have hlines : Query.lines layout (d :: p)
          = d.write ++ layout.separator ++ Query.lines layout p := rfl
      rw [hlines, List.append_assoc _ (Query.lines layout p), ← ih, List.cons_append, hrest,
        Query.write, List.map_cons, List.map_cons, List.intercalate_cons_cons]
      rfl

theorem Query.write_singleton (layout : Layout) (c : Clause) :
    Query.write layout [c] = c.write :=
  List.intercalate_singleton

theorem Query.write_pair (layout : Layout) (c d : Clause) :
    Query.write layout [c, d] = c.write ++ (layout.separator ++ d.write) := by
  rw [Query.write, List.map_cons, List.map_cons, List.intercalate_cons_cons]
  simp

theorem lines_singleton (layout : Layout) (c : Clause) :
    Query.lines layout [c] = c.write ++ layout.separator :=
  List.flatMap_singleton ..

/-- The gap of a layout is its separator. -/
theorem separator_mem_gap (layout : Layout) : layout.separator ∈ gap layout := by
  cases layout <;> rfl

/-- A clause with another one behind it is written with the separator. -/
theorem line_mem (layout : Layout) {l : Language Char} {c : Clause} (h : c.write ∈ l) :
    c.write ++ layout.separator ∈ line layout l :=
  Language.append_mem_mul h (separator_mem_gap layout)

/-- Texts behind a keyword, with a separator between them. -/
theorem list_mem {α : Type} {l : Language Char} {f : α → List Char} {xs : List α}
    (keyword separator : String) (hne : xs ≠ []) (h : ∀ x ∈ xs, f x ∈ l) :
    keyword.toList ++ separator.toList.intercalate (xs.map f)
      ∈ token keyword * separated l separator :=
  Language.append_mem_mul (toList_mem_token keyword) (intercalate_mem_separated hne h)

/-- Clauses that are written for the elements of a list. -/
theorem lines_map_mem {α : Type} {clause : α → Clause} {l : Language Char} {xs : List α}
    (h : ∀ x ∈ xs, (clause x).write ∈ l) : Query.lines layout (xs.map clause) ∈ (line layout l)∗ := by
  rw [Query.lines, List.flatMap_map]
  exact flatMap_mem_kstar fun x hx => line_mem layout (h x hx)

/-- One text behind a keyword. -/
theorem single_mem {l : Language Char} {cs : List Char} (keyword : String) (h : cs ∈ l) :
    keyword.toList ++ comma.intercalate [cs] ∈ token keyword * l := by
  rw [List.intercalate_singleton]
  exact Language.append_mem_mul (toList_mem_token keyword) h

/-- A match of patterns, if there are any. -/
theorem lines_matchClause_mem {l : Language Char} {patterns : List Pattern}
    (h : ∀ p ∈ patterns, p.write ∈ l) :
    Query.lines layout (Snapshot.matchClause patterns)
      ∈ optional (line layout (matching (separated l ", "))) := by
  cases patterns with
  | nil => exact nil_mem_optional
  | cons p ps =>
      have hclause : (Clause.mandatoryMatch (p :: ps)).write ∈ matching (separated l ", ") :=
        list_mem "MATCH " ", " (List.cons_ne_nil p ps) h
      rw [Snapshot.matchClause, lines_singleton]
      · exact mem_optional (line_mem layout hclause)
      · rintro ⟨⟩

/-- A hand-off of names, of which there has to be one. -/
theorem handOff_mem {names : List String} (hne : names ≠ []) (h : ∀ x ∈ names, IsWord x) :
    (Clause.handOff names none).write ∈ handOff := by
  have htext : (Clause.handOff names none).write
      = "WITH ".toList ++ comma.intercalate (names.map String.toList) := List.append_nil _
  rw [htext]
  exact list_mem "WITH " ", " hne fun x hx => (h x hx).mem_word

/-- The hand-off of a name with a limit. -/
theorem limitedHandOff_mem {x : String} (hx : IsWord x) {count : String}
    (hcount : "LIMIT ".toList ++ count.toList ∈ limit) :
    (Clause.handOff [x] (some count)).write ∈ token "WITH " * word * token " " * limit := by
  have htext : (Clause.handOff [x] (some count)).write = "WITH ".toList
      ++ comma.intercalate [x.toList] ++ " ".toList ++ ("LIMIT ".toList ++ count.toList) := by
    rw [List.append_assoc _ " ".toList]
    rfl
  rw [htext]
  exact Language.append_mem_mul (Language.append_mem_mul (single_mem "WITH " hx.mem_word)
    (toList_mem_token " ")) hcount

/-- An optional match with a hand-off in front, where both may be missing. -/
theorem lines_optionalClauses_mem {names : List String} {ps : List RelationshipPattern}
    (hnames : ∀ x ∈ names, IsWord x) (hps : ∀ p ∈ ps, p.write ∈ Grammar.relationship) :
    Query.lines layout (Snapshot.optionalClauses names ps)
      ∈ optional (optional (line layout handOff)
        * line layout (optionalMatching (separated Grammar.relationship ", "))) := by
  cases ps with
  | nil => exact nil_mem_optional
  | cons p ps =>
      have hhandOff : Query.lines layout (Snapshot.handOffClause names)
          ∈ optional (line layout handOff) := by
        cases names with
        | nil => exact nil_mem_optional
        | cons x xs =>
            have hclause := handOff_mem (List.cons_ne_nil x xs) hnames
            rw [Snapshot.handOffClause, lines_singleton]
            · exact mem_optional (line_mem layout hclause)
            · rintro ⟨⟩
      have hclause : (Clause.optionalMatch ((p :: ps).map .relationship)).write
          ∈ optionalMatching (separated Grammar.relationship ", ") := by
        have htext : (Clause.optionalMatch ((p :: ps).map .relationship)).write
            = "OPTIONAL MATCH ".toList ++ comma.intercalate
              ((p :: ps).map RelationshipPattern.write) := by
          rw [show RelationshipPattern.write = Pattern.write ∘ .relationship from rfl, ← List.map_map]
          rfl
        rw [htext]
        exact list_mem "OPTIONAL MATCH " ", " (List.cons_ne_nil p ps) hps
      have hlines := Language.append_mem_mul hhandOff (line_mem layout hclause)
      rw [Snapshot.optionalClauses, Query.lines_append, lines_singleton]
      · exact mem_optional hlines
      · rintro ⟨⟩

namespace Snapshot

variable {s : Snapshot}

/-! ### What a diagram draws -/

theorem Worded.node_mem (h : s.Worded) {p : NodePattern} (hp : s.DrawsNode p) :
    p.write ∈ Grammar.node := by
  obtain ⟨n, hn, label, hlabel, rfl⟩ := hp
  refine writeNodePattern_mem (h.node n hn) fun t ht => ?_
  rcases hlabel with rfl | rfl
  · cases ht
  · exact h.label n hn t ht

theorem Worded.relationship_mem (h : s.Worded) {p : RelationshipPattern}
    (hp : s.Draws (.relationship p)) : p.write ∈ Grammar.relationship := by
  cases hp with
  | relationship ha hsource htarget =>
      exact RelationshipPattern.write_mem (h.node_mem hsource) (h.node_mem htarget)
        (h.relationship _ ha) (h.type _ ha)

/-- Whatever the diagram draws is a pattern of the grammar. -/
theorem Worded.pattern_mem (h : s.Worded) {p : Pattern} (hp : s.Draws p) :
    p.write ∈ Grammar.node + Grammar.relationship := by
  cases p with
  | relationship p => exact .inr (h.relationship_mem hp)
  | node p =>
      cases hp with
      | fallback => exact .inl (writeNodePattern_mem h.fallback fun _ ht => by cases ht)
      | node hp => exact .inl (h.node_mem hp)

theorem Worded.isWord_of_hasName (h : s.Worded) {x : String} (hx : s.HasName x) : IsWord x := by
  rcases hx with ⟨n, hn, rfl⟩ | ⟨a, ha, rfl⟩
  · exact h.node n hn
  · exact h.relationship a ha

/-! ### Match clauses -/

/-- Each relationship that takes part is matched, so there is a clause. -/
theorem connectedMatch_ne_nil (hactive : s.active ≠ []) : s.connectedMatch ≠ [] := by
  intro hnil
  have hnone : (s.joining .leading ++ (s.joining .optional ++ s.joining .chained)).map s.edge
      = [] := by
    rw [← relationships_connectedMatch, hnil]
    rfl
  have hperm := s.perm_joining
  simp only [List.map_eq_nil_iff, List.append_eq_nil_iff] at hnone
  rw [hnone.1, hnone.2.1, hnone.2.2] at hperm
  exact hactive (List.map_eq_nil_iff.mp (List.nil_perm.mp hperm))

theorem lines_ne_nil (layout : Layout) {q : Query} (h : q ≠ []) :
    Query.lines layout q ≠ [] := by
  obtain ⟨c, q, rfl⟩ := List.exists_cons_of_ne_nil h
  have hseparator : layout.separator ≠ [] := by cases layout <;> rintro ⟨⟩
  exact List.append_ne_nil_of_left_ne_nil (List.append_ne_nil_of_right_ne_nil _ hseparator) _

/-- The match clauses of a query with relationships. -/
theorem Worded.connectedMatch_mem (h : s.Worded) (hs : s.EndsDrawn) (hactive : s.active ≠ []) :
    Query.lines layout s.connectedMatch ∈ groups layout := by
  have hdraws : ∀ {m seen}, ∀ p ∈ (s.patternsAfter seen (s.joining m)).1,
      s.Draws (.relationship p) := draws_patternsAfter hs fun _ hr => hr
  have hne := lines_ne_nil layout (connectedMatch_ne_nil hactive)
  simp only [connectedMatch, Query.lines_append] at hne ⊢
  refine append_mem_groups (lines_matchClause_mem fun p hp => ?_)
    (lines_optionalClauses_mem (fun x hx => ?_) fun p hp => h.relationship_mem (hdraws p hp))
    (lines_map_mem fun p hp => single_mem "MATCH " (h.relationship_mem (hdraws p hp))) hne
  · refine h.pattern_mem ?_
    rcases List.mem_append.mp hp with hp | hp <;> obtain ⟨q, hq, rfl⟩ := List.mem_map.mp hp
    · exact hdraws q hq
    · exact draws_nodesAfter (fun n hn => (mem_looseNodes.mp hn).1) q hq
  · exact h.isWord_of_hasName (hasName_of_mem_leadingNames hs hx)

/-- The match clause of a query without relationships. -/
theorem Worded.standaloneMatch_mem (h : s.Worded) :
    Query.lines layout [s.standaloneMatch] ∈ groups layout := by
  obtain ⟨p, ps, hpatterns⟩ := s.exists_standaloneMatch_eq
  have hmatches : s.Matches (.mandatoryMatch ((p :: ps).map .node)) :=
    hpatterns ▸ matches_standaloneMatch
  cases hmatches with
  | mandatoryMatch hdraws =>
      have hleading : Query.lines layout [s.standaloneMatch] ∈ optional
          (line layout (matching (separated (Grammar.node + Grammar.relationship) ", "))) := by
        rw [hpatterns]
        exact lines_matchClause_mem fun q hq => h.pattern_mem (hdraws q hq)
      have hgroups := append_mem_groups hleading nil_mem_optional (Language.nil_mem_kstar _)
      rw [List.append_nil, List.append_nil] at hgroups
      exact hgroups (lines_ne_nil layout (List.cons_ne_nil _ []))

/-- **The match clauses** of a query that limits rows. -/
theorem Worded.matchClauses_mem (h : s.Worded) (hs : s.EndsDrawn) (layout : Layout) :
    Query.lines layout s.matchClauses ∈ groups layout := by
  by_cases hactive : s.active = []
  · have hclauses : s.matchClauses = [s.standaloneMatch] := by rw [matchClauses, hactive]; rfl
    rw [hclauses]
    exact h.standaloneMatch_mem
  · rw [matchClauses_of_active hactive]
    exact h.connectedMatch_mem hs hactive

/-! ### Conditions and what is returned -/

variable {settings : Settings} {d : Diagram}

/-- A node has a word for a name, also one that the diagram does not have. -/
theorem Worded.isWord_nodeName (h : (d.snapshot settings).Worded) (id : String) :
    IsWord ((d.snapshot settings).nodeName id) := by
  rcases nodeName_cases settings d id with ⟨n, hn, rfl⟩ | hid
  · exact h.node n hn
  · rw [hid]
    exact h.fallback

/-- The filters stand in one clause, if there are any. -/
theorem Worded.filterClause_mem (h : (d.snapshot settings).Worded) {fs : List PropertyFilter}
    (hfs : fs ⊆ d.filters) (layout : Layout) :
    Query.lines layout ((d.snapshot settings).filterClause fs) ∈ optional (line layout filter) := by
  cases fs with
  | nil => exact nil_mem_optional
  | cons f fs =>
      have hpredicate : ∀ g ∈ f :: fs, ((d.snapshot settings).predicate g).write ∈ Grammar.predicate :=
        fun g hg => compare_mem (h.isWord_nodeName g.node) (h.property g (hfs hg))
          (h.operator g (hfs hg)) g.value
      have hclause : (Clause.filter ((f :: fs).map (d.snapshot settings).predicate)).write
          ∈ filter := by
        have htext : (Clause.filter ((f :: fs).map (d.snapshot settings).predicate)).write
            = "WHERE ".toList ++ conjunction.intercalate
              ((f :: fs).map fun g => ((d.snapshot settings).predicate g).write) :=
          congrArg (fun texts => "WHERE ".toList ++ conjunction.intercalate texts) List.map_map
        rw [htext]
        exact list_mem "WHERE " " AND " (List.cons_ne_nil f fs) hpredicate
      rw [filterClause, lines_singleton]
      · exact mem_optional (line_mem layout hclause)
      · rintro ⟨⟩

/-- Return fields are words, and so are the names that stand for them. -/
theorem Worded.isWord_of_mem_returnedItems (h : (d.snapshot settings).Worded) {fallback : String}
    (hfallback : IsWord fallback) {x : String}
    (hx : x ∈ (d.snapshot settings).returnedItems fallback) : IsWord x := by
  rcases mem_returnedItems_cases hx with ⟨id, rfl⟩ | htext | rfl
  · exact h.isWord_nodeName id
  · exact h.returnField x htext
  · exact hfallback

/-- What is returned are names and return fields. -/
theorem Worded.project_mem (h : (d.snapshot settings).Worded) {fallback : String}
    (hfallback : IsWord fallback) :
    (Clause.project ((d.snapshot settings).returnedItems fallback)).write ∈ returning :=
  list_mem "RETURN " ", " (returnedItems_ne_nil _ fallback) fun _ hx =>
    (h.isWord_of_mem_returnedItems hfallback hx).mem_word

theorem Worded.limit_mem (h : s.Worded) {count : String} (hcount : s.limit? = some count) :
    "LIMIT ".toList ++ count.toList ∈ Grammar.limit := by
  have hne : count ≠ "" := of_decide_eq_true (Option.filter_eq_some_iff.mp hcount).2
  obtain rfl := eq_trim_of_limit? hcount
  exact Language.append_mem_mul (toList_mem_token "LIMIT ")
    (mem_oneOrMore_char (fun hnil => hne (String.toList_eq_nil_iff.mp hnil)) h.limit)

/-! ### Queries -/

/-- **A query that limits rows** is in the grammar. -/
theorem Worded.rowsQuery_mem (h : (d.snapshot settings).Worded) (layout : Layout) :
    Query.write layout ((d.snapshot settings).rowsQuery (d.snapshot settings).limit?)
      ∈ rows layout := by
  have hbody := Language.append_mem_mul (Language.append_mem_mul
    (h.matchClauses_mem (endsDrawn settings d) layout)
    (h.filterClause_mem (List.Subset.refl d.filters) layout))
    (h.project_mem h.fallback)
  rw [← Query.lines_append] at hbody
  rw [rowsQuery, List.append_assoc, List.singleton_append, Query.write_append_cons]
  cases hlimit : (d.snapshot settings).limit? with
  | none =>
      have hrows := Language.append_mem_mul hbody
        (nil_mem_optional (l := gap layout * Grammar.limit))
      rw [List.append_nil] at hrows
      rw [Option.map_none, Option.toList_none, Query.write_singleton]
      exact hrows
  | some count =>
      have hrows := Language.append_mem_mul hbody (mem_optional
        (Language.append_mem_mul (separator_mem_gap layout) (h.limit_mem hlimit)))
      rw [List.append_assoc] at hrows
      rw [Option.map_some, Option.toList_some, Query.write_pair]
      exact hrows

/-- **A query that limits nodes** is in the grammar. -/
theorem Worded.nodesQuery_mem (h : (d.snapshot settings).Worded) (layout : Layout) {primary : Node}
    (hprimary : primary ∈ d.nodes) {count : String}
    (hcount : (d.snapshot settings).limit? = some count) :
    Query.write layout ((d.snapshot settings).nodesQuery primary count) ∈ nodes layout := by
  have hquery : (d.snapshot settings).nodesQuery primary count
      = [(d.snapshot settings).primaryMatch primary]
        ++ (d.snapshot settings).filterClause (d.filters.filter (·.node = primary.id))
        ++ [.handOff [(d.snapshot settings).nodeName primary.id] (some count)]
        ++ matchClause (((d.snapshot settings).joining .leading).map
          ((d.snapshot settings).patternExcept primary.id))
        ++ ((d.snapshot settings).joining .chained).map (fun r =>
          .mandatoryMatch [(d.snapshot settings).patternExcept primary.id r])
        ++ ((d.snapshot settings).joining .optional).map (fun r =>
          .optionalMatch [(d.snapshot settings).patternExcept primary.id r])
        ++ (d.snapshot settings).filterClause (d.filters.filter (·.node ≠ primary.id))
        ++ [.project ((d.snapshot settings).returnedItems
          ((d.snapshot settings).nodeName primary.id))] := by
    rw [nodesQuery_eq, expansion]
    simp only [List.append_assoc, List.cons_append]
    rfl
  have hdraws : ∀ {m}, ∀ r ∈ (d.snapshot settings).joining m,
      ((d.snapshot settings).patternExcept primary.id r).write ∈ Grammar.relationship :=
    fun r hr => h.relationship_mem (draws_relationshipPattern (endsDrawn settings d) hr _ _)
  have hname : IsWord ((d.snapshot settings).nodeName primary.id) := h.isWord_nodeName primary.id
  have hprimaryMatch : ((d.snapshot settings).primaryMatch primary).write ∈ matching Grammar.node :=
    single_mem "MATCH " (h.node_mem ⟨primary, hprimary, primary.label, .inr rfl, rfl⟩)
  rw [hquery, Query.write_append_cons, Query.write_singleton]
  simp only [Query.lines_append, lines_singleton]
  refine Language.append_mem_mul (Language.append_mem_mul (Language.append_mem_mul
    (Language.append_mem_mul (Language.append_mem_mul (Language.append_mem_mul
      (Language.append_mem_mul ?first ?own) ?handOff) ?leading) ?chained) ?optional) ?others)
        ?project
  case first => exact line_mem layout hprimaryMatch
  case own => exact h.filterClause_mem (fun f hf => (List.mem_filter.mp hf).1) layout
  case handOff => exact line_mem layout (limitedHandOff_mem hname (h.limit_mem hcount))
  case leading =>
    refine lines_matchClause_mem fun p hp => ?_
    obtain ⟨r, hr, rfl⟩ := List.mem_map.mp hp
    exact hdraws r hr
  case chained => exact lines_map_mem fun r hr => single_mem "MATCH " (hdraws r hr)
  case optional => exact lines_map_mem fun r hr => single_mem "OPTIONAL MATCH " (hdraws r hr)
  case others => exact h.filterClause_mem (fun f hf => (List.mem_filter.mp hf).1) layout
  case project => exact h.project_mem hname

end Snapshot

/-- **Every compiled query is in the grammar**, the one of queries that limit rows or the one of
queries that limit nodes, whatever the values of its conditions are. -/
theorem compile_mem_grammar (settings : Settings) (d : Diagram)
    (h : (d.snapshot settings).Worded) :
    match (d.snapshot settings).limitShape with
    | .rows _ => (compile settings d).toList ∈ rows settings.layout
    | .nodes _ _ => (compile settings d).toList ∈ nodes settings.layout := by
  have htext : (compile settings d).toList
      = Query.write settings.layout (d.snapshot settings).readQuery := String.toList_ofList
  rw [htext, Snapshot.readQuery]
  rcases Snapshot.limitShape_cases (d.snapshot settings) with
    hshape | ⟨primary, count, hshape, hprimary, hcount⟩
  · rw [hshape]
    exact h.rowsQuery_mem settings.layout
  · rw [hshape]
    exact h.nodesQuery_mem settings.layout (Snapshot.mem_nodes_of_primary? hprimary) hcount

/-- Two nodes with relationships and conditions, one of them with a text that closes a quote. -/
def brief : Diagram where
  nodes := [⟨"1", some "Person", "p"⟩, ⟨"2", some "", "c_1"⟩]
  relationships :=
    [.ofEnds "x" "1" "2" (some "KNOWS"), ⟨"y", none, "2", "1", none, some .chained, true⟩]
  conditions :=
    [.ofFilter "k" ⟨"1", "age", ">", "-0.5"⟩, .ofFilter "l" ⟨"2", "name", "ENDS WITH", "\" OR 1\\"⟩]
  returnFields := [" total_1 ", "1"]
  limit := " 30 "
  limitMode := .nodes

/-- The query of `brief` is in the grammar. -/
theorem brief_mem_grammar :
    (brief.snapshot .default).Worded ∧
      (compile .default brief).toList ∈ nodes Settings.default.layout := by
  have hworded : (brief.snapshot .default).Worded :=
    { node := by decide
      relationship := by decide
      fallback := by decide
      label := by decide
      type := by decide
      property := by decide
      operator := by decide
      returnField := by
        have hitems : brief.returnItems
            = [.text "total_1", .node ⟨"2", some "", "c_1"⟩] := by decide
        intro text htext
        rw [Diagram.snapshot_diagram, hitems] at htext
        have htotal : text = "total_1" := by simpa using htext
        rw [htotal]
        decide
      limit := List.all_eq_true.mp (by decide) }
  exact ⟨hworded, compile_mem_grammar .default brief hworded⟩

end GraphQuery
