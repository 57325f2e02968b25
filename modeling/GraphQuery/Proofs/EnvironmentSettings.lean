import GraphQuery.Proofs.NumeralFaults
import GraphQuery.Settings.Environment

/-!
# Proofs — the settings that an environment holds

`Environment.Says` is the grammar of the three variables, one field for each of them, and
`Settings.InRange` are the ranges.  Reading an environment has three outcomes.  A layout that is
malformed is reported whatever else is wrong (`ofEnvironment_of_layout`), then a number of probes
that is malformed (`ofEnvironment_of_probes`), and what could be read is checked against the ranges
(`ofEnvironment_of_said`).  There is no other outcome (`outcome_cases`).  `Settings.Merges` says
what overrides make of settings, which are then checked in the same way (`Merges.override_eq`).

**An environment is accepted if it keeps to the grammar and the ranges**
(`environment_accepted_by_grammar`).
-/

namespace GraphQuery

namespace Settings

/-! ### Ranges -/

/-- The settings keep their ranges. -/
structure InRange (s : Settings) : Prop where
  maxProbes : 1 ≤ s.maxProbes ∧ s.maxProbes ≤ 26
  fallback : s.fallback ≠ ""

variable {s t : Settings}

/-- **A range that is not kept** is named by its setting. -/
theorem mem_map_field_violations {field : String} :
    field ∈ s.violations.map Violation.field ↔
      field = "fallback_alias" ∧ s.fallback = "" ∨
        field = "max_alias_probes" ∧ ¬ (1 ≤ s.maxProbes ∧ s.maxProbes ≤ 26) := by
  rw [violations]
  by_cases hfallback : s.fallback = "" <;>
    by_cases hprobes : 1 ≤ s.maxProbes ∧ s.maxProbes ≤ 26 <;>
    simp [hfallback, hprobes, Violation.field]

/-- Nothing is violated exactly if the settings are in range. -/
theorem violations_eq_nil_iff : s.violations = [] ↔ s.InRange := by
  have hnil : s.violations = [] ↔ ∀ field, field ∉ s.violations.map Violation.field := by
    rw [← List.eq_nil_iff_forall_not_mem, List.map_eq_nil_iff]
  rw [hnil]
  constructor
  · intro h
    refine ⟨Decidable.byContradiction fun hprobes => ?_, fun hfallback => ?_⟩
    · exact h _ (mem_map_field_violations.mpr (.inr ⟨rfl, hprobes⟩))
    · exact h _ (mem_map_field_violations.mpr (.inl ⟨rfl, hfallback⟩))
  · rintro ⟨hprobes, hfallback⟩ field hfield
    rcases mem_map_field_violations.mp hfield with ⟨-, h⟩ | ⟨-, h⟩
    · exact hfallback h
    · exact h hprobes

theorem validate_of_inRange (h : s.InRange) : s.validate = .ok s := by
  rw [validate, violations_eq_nil_iff.mpr h]

theorem validate_of_not_inRange (h : ¬ s.InRange) :
    s.validate = .error (.invalid s.violations) := by
  rw [validate]
  split
  · rename_i hnil
    exact absurd (violations_eq_nil_iff.mp hnil) h
  · rfl

/-- Settings that are accepted are left as they are. -/
theorem validate_eq_ok_iff : s.validate = .ok t ↔ t = s ∧ s.InRange := by
  by_cases h : s.InRange
  · rw [validate_of_inRange h, Except.ok.injEq, and_iff_left h, eq_comm]
  · rw [validate_of_not_inRange h]
    exact iff_of_false nofun fun h' => h h'.2

/-- Settings are refused for the ranges that they do not keep. -/
theorem validate_eq_error_iff {e : SettingsError} :
    s.validate = .error e ↔ ¬ s.InRange ∧ e = .invalid s.violations := by
  by_cases h : s.InRange
  · rw [validate_of_inRange h]
    exact iff_of_false nofun fun h' => h'.1 h
  · rw [validate_of_not_inRange h, Except.error.injEq, and_iff_right h, eq_comm]

/-! ### Values -/

/-- The text of a truth value. -/
def boolText : Bool → String
  | true => "true"
  | false => "false"

section Values

variable {field text : String}

theorem exists_eq_boolText_iff : (∃ b, text = boolText b) ↔ text = "true" ∨ text = "false" := by
  rw [Bool.exists_bool, or_comm]
  rfl

theorem readBool_boolText (b : Bool) : readBool field (boolText b) = .ok b := by
  cases b <;> rfl

/-- No other text is a truth value, not even in capitals or with blanks around it. -/
theorem readBool_of_ne (htrue : text ≠ "true") (hfalse : text ≠ "false") :
    readBool field text
      = .error (.parse field text "provided string was not `true` or `false`") := by
  rw [readBool, if_neg htrue, if_neg hfalse]

theorem readProbes_of_writesNumber {n : Nat} (h : Text.WritesNumber text.toList n)
    (hlt : n < probeBound) : readProbes field text = .ok n := by
  rw [readProbes, Text.readUnsigned_eq_ok.mpr ⟨h, hlt⟩]

/-- What is wrong with a number of probes is what is wrong with its text. -/
theorem readProbes_of_explains {fault : Text.UnsignedFault}
    (h : Text.Explains probeBound text.toList fault) :
    readProbes field text = .error (.parse field text fault.message) := by
  rw [readProbes, (Text.readUnsigned_eq_error (by decide)).mpr h]

end Values

/-- What a variable says: what its text writes, or a default if it is not set. -/
def Said {α : Type} (value : Option String) (writes : String → α → Prop) (absent a : α) : Prop :=
  match value with
  | some text => writes text a
  | none => a = absent

theorem Said.cases {α : Type} {value : Option String} {writes : String → α → Prop} {absent a : α}
    (h : Said value writes absent a) :
    value = none ∧ a = absent ∨ ∃ text, value = some text ∧ writes text a := by
  cases value with
  | none => exact .inl ⟨rfl, h⟩
  | some text => exact .inr ⟨text, rfl, h⟩

/-- A variable says something with a property that its default has if its text, where it is set,
writes such a thing. -/
theorem exists_said_iff {α : Type} {value : Option String} {writes : String → α → Prop}
    {absent : α} {P : α → Prop} (habsent : P absent) :
    (∃ a, Said value writes absent a ∧ P a) ↔ ∀ text ∈ value, ∃ a, writes text a ∧ P a := by
  cases value with
  | none => simp [Said, habsent]
  | some text => simp [Said]

end Settings

open Settings

namespace Environment

variable (env : Environment)

/-- The layout that an environment writes. -/
def SaysLayout (b : Bool) : Prop :=
  Said (env.get? multilineVariable) (fun text b => text = boolText b) false b

/-- The number of probes that an environment writes. -/
def SaysProbes (n : Nat) : Prop :=
  Said (env.get? maxProbesVariable) (fun text n => Text.WritesNumber text.toList n) 26 n

/-- The fallback name that an environment writes. -/
def SaysFallback (name : String) : Prop :=
  Said (env.get? fallbackVariable) (fun text name => text = name) "n" name

/-- The settings that the variables of an environment write, those that are not set being at their
defaults. -/
structure Says (s : Settings) : Prop where
  multiline : env.SaysLayout s.multiline
  maxProbes : env.SaysProbes s.maxProbes
  fallback : env.SaysFallback s.fallback

variable {env}

/-- A layout is said unless the text of its variable is something else than a truth value. -/
theorem exists_saysLayout_iff :
    (∃ b, env.SaysLayout b) ↔
      ∀ text ∈ env.get? multilineVariable, text = "true" ∨ text = "false" := by
  have h : (∃ b, env.SaysLayout b ∧ True) ↔
      ∀ text ∈ env.get? multilineVariable, ∃ b, text = boolText b ∧ True := exists_said_iff trivial
  simp only [and_true, exists_eq_boolText_iff] at h
  exact h

/-- A number of probes with some property is said if the text of its variable writes one. -/
theorem exists_saysProbes_iff {P : Nat → Prop} (hdefault : P 26) :
    (∃ n, env.SaysProbes n ∧ P n) ↔
      ∀ text ∈ env.get? maxProbesVariable, ∃ n, Text.WritesNumber text.toList n ∧ P n :=
  exists_said_iff hdefault

/-- Every text is a fallback name; the empty one is out of range. -/
theorem exists_saysFallback_iff :
    (∃ name, env.SaysFallback name ∧ name ≠ "") ↔ env.get? fallbackVariable ≠ some "" := by
  have h : (∃ name, env.SaysFallback name ∧ name ≠ "") ↔
      ∀ text ∈ env.get? fallbackVariable, ∃ name, text = name ∧ name ≠ "" :=
    exists_said_iff (by decide)
  rw [h]
  cases env.get? fallbackVariable <;> simp

theorem SaysFallback.getD_eq {name : String} (h : env.SaysFallback name) :
    (env.get? fallbackVariable).getD Settings.default.fallback = name := by
  rcases Said.cases h with ⟨hnone, rfl⟩ | ⟨text, htext, rfl⟩
  · rw [hnone]
    rfl
  · rw [htext]
    rfl

theorem exists_saysFallback : ∃ name, env.SaysFallback name := by
  cases hvalue : env.get? fallbackVariable with
  | none => exact ⟨"n", by rw [SaysFallback, hvalue]; rfl⟩
  | some text => exact ⟨text, by rw [SaysFallback, hvalue]; rfl⟩

end Environment

namespace Settings

/-! ### What comes of an environment -/

section Outcome

variable {env : Environment} {b : Bool} {n : Nat}

/-- The layout, as it is read. -/
def layoutOf (env : Environment) : Except SettingsError Bool :=
  match env.get? multilineVariable with
  | some text => readBool multilineVariable text
  | none => .ok default.multiline

/-- The number of probes, as it is read. -/
def probesOf (env : Environment) : Except SettingsError Nat :=
  match env.get? maxProbesVariable with
  | some text => readProbes maxProbesVariable text
  | none => .ok default.maxProbes

/-- The layout is read first, then the number of probes, and the ranges are checked at the end. -/
theorem ofEnvironment_eq (env : Environment) :
    ofEnvironment env = (layoutOf env).bind fun b => (probesOf env).bind fun n =>
      validate ⟨b, n, (env.get? fallbackVariable).getD default.fallback⟩ := by
  rw [ofEnvironment, layoutOf, probesOf]
  cases env.get? multilineVariable <;> cases env.get? maxProbesVariable <;> rfl

theorem layoutOf_of_said (h : env.SaysLayout b) : layoutOf env = .ok b := by
  rcases Said.cases h with ⟨hnone, rfl⟩ | ⟨text, htext, rfl⟩
  · rw [layoutOf, hnone]
    rfl
  · rw [layoutOf, htext]
    exact readBool_boolText b

theorem probesOf_of_said (h : env.SaysProbes n) (hlt : n < probeBound) : probesOf env = .ok n := by
  rcases Said.cases h with ⟨hnone, rfl⟩ | ⟨text, htext, hwrites⟩
  · rw [probesOf, hnone]
    rfl
  · rw [probesOf, htext]
    exact readProbes_of_writesNumber hwrites hlt

/-- A layout that is malformed is reported first. -/
theorem ofEnvironment_of_layout {text : String} (htext : env.get? multilineVariable = some text)
    (htrue : text ≠ "true") (hfalse : text ≠ "false") :
    ofEnvironment env
      = .error (.parse multilineVariable text "provided string was not `true` or `false`") := by
  have hlayout : layoutOf env
      = .error (.parse multilineVariable text "provided string was not `true` or `false`") := by
    rw [layoutOf, htext]
    exact readBool_of_ne htrue hfalse
  rw [ofEnvironment_eq, hlayout]
  rfl

/-- Behind a layout that can be read, a number of probes that is malformed is reported. -/
theorem ofEnvironment_of_probes {text : String} {fault : Text.UnsignedFault}
    (hlayout : env.SaysLayout b) (htext : env.get? maxProbesVariable = some text)
    (hfault : Text.Explains probeBound text.toList fault) :
    ofEnvironment env = .error (.parse maxProbesVariable text fault.message) := by
  have hprobes : probesOf env = .error (.parse maxProbesVariable text fault.message) := by
    rw [probesOf, htext]
    exact readProbes_of_explains hfault
  rw [ofEnvironment_eq, layoutOf_of_said hlayout, hprobes]
  rfl

/-- What could be read is checked against the ranges. -/
theorem ofEnvironment_of_said {s : Settings} (h : env.Says s) (hlt : s.maxProbes < probeBound) :
    ofEnvironment env = s.validate := by
  rw [ofEnvironment_eq, layoutOf_of_said h.multiline, probesOf_of_said h.maxProbes hlt,
    h.fallback.getD_eq]
  rfl

/-- **There are three outcomes.** -/
theorem outcome_cases (env : Environment) :
    (∃ text, env.get? multilineVariable = some text ∧ text ≠ "true" ∧ text ≠ "false") ∨
      ∃ b, env.SaysLayout b ∧
        ((∃ text fault, env.get? maxProbesVariable = some text ∧
            Text.Explains probeBound text.toList fault) ∨
          ∃ s, env.Says s ∧ s.maxProbes < probeBound) := by
  have hbound : 0 < probeBound := by decide
  by_cases hlayout : ∃ b, env.SaysLayout b
  · obtain ⟨b, hb⟩ := hlayout
    refine .inr ⟨b, hb, ?_⟩
    by_cases hprobes : ∃ n, env.SaysProbes n ∧ n < probeBound
    · obtain ⟨n, hn, hlt⟩ := hprobes
      obtain ⟨name, hname⟩ := env.exists_saysFallback
      exact .inr ⟨⟨b, n, name⟩, ⟨hb, hn, hname⟩, hlt⟩
    · rw [Environment.exists_saysProbes_iff (by decide)] at hprobes
      simp only [Classical.not_forall, not_exists, not_and, Nat.not_lt] at hprobes
      obtain ⟨text, htext, hlarge⟩ := hprobes
      obtain ⟨fault, hfault⟩ := (Text.exists_fault_iff hbound).mpr hlarge
      exact .inl ⟨text, fault, htext, hfault⟩
  · rw [Environment.exists_saysLayout_iff] at hlayout
    simp only [Classical.not_forall, not_or] at hlayout
    obtain ⟨text, htext, hne⟩ := hlayout
    exact .inl ⟨text, htext, hne⟩

/-- **The settings of an environment** are those that it says, if they are in range. -/
theorem ofEnvironment_eq_ok_iff {s : Settings} :
    ofEnvironment env = .ok s ↔ env.Says s ∧ s.InRange := by
  constructor
  · intro h
    rcases outcome_cases env with ⟨text, htext, htrue, hfalse⟩ | ⟨b, hlayout, hprobes⟩
    · rw [ofEnvironment_of_layout htext htrue hfalse] at h
      cases h
    · rcases hprobes with ⟨text, fault, htext, hfault⟩ | ⟨s', hs', hlt⟩
      · rw [ofEnvironment_of_probes hlayout htext hfault] at h
        cases h
      · rw [ofEnvironment_of_said hs' hlt, validate_eq_ok_iff] at h
        obtain ⟨rfl, hrange⟩ := h
        exact ⟨hs', hrange⟩
  · rintro ⟨hs, hrange⟩
    have hlt : s.maxProbes < probeBound := Nat.lt_of_le_of_lt hrange.maxProbes.2 (by decide)
    rw [ofEnvironment_of_said hs hlt]
    exact validate_of_inRange hrange

/-- **A text that is malformed** is reported, the layout before the number of probes. -/
theorem ofEnvironment_eq_parse_iff {field value reason : String} :
    ofEnvironment env = .error (.parse field value reason) ↔
      (env.get? multilineVariable = some value ∧ value ≠ "true" ∧ value ≠ "false" ∧
        field = multilineVariable ∧ reason = "provided string was not `true` or `false`") ∨
      ((∀ layout ∈ env.get? multilineVariable, layout = "true" ∨ layout = "false") ∧
        env.get? maxProbesVariable = some value ∧ field = maxProbesVariable ∧
        ∃ fault, Text.Explains probeBound value.toList fault ∧ reason = fault.message) := by
  rw [← Environment.exists_saysLayout_iff]
  constructor
  · intro h
    rcases outcome_cases env with ⟨text, htext, htrue, hfalse⟩ | ⟨b, hlayout, hprobes⟩
    · rw [ofEnvironment_of_layout htext htrue hfalse] at h
      cases h
      exact .inl ⟨htext, htrue, hfalse, rfl, rfl⟩
    · rcases hprobes with ⟨text, fault, htext, hfault⟩ | ⟨s, hs, hlt⟩
      · rw [ofEnvironment_of_probes hlayout htext hfault] at h
        cases h
        exact .inr ⟨⟨b, hlayout⟩, htext, rfl, fault, hfault, rfl⟩
      · rw [ofEnvironment_of_said hs hlt, validate_eq_error_iff] at h
        cases h.2
  · rintro (⟨htext, htrue, hfalse, rfl, rfl⟩ | ⟨⟨b, hlayout⟩, htext, rfl, fault, hfault, rfl⟩)
    · exact ofEnvironment_of_layout htext htrue hfalse
    · exact ofEnvironment_of_probes hlayout htext hfault

/-- **Ranges that are not kept** are reported if everything can be read. -/
theorem ofEnvironment_eq_invalid_iff {vs : List Violation} :
    ofEnvironment env = .error (.invalid vs) ↔
      ∃ s, env.Says s ∧ s.maxProbes < probeBound ∧ ¬ s.InRange ∧ vs = s.violations := by
  constructor
  · intro h
    rcases outcome_cases env with ⟨text, htext, htrue, hfalse⟩ | ⟨b, hlayout, hprobes⟩
    · rw [ofEnvironment_of_layout htext htrue hfalse] at h
      cases h
    · rcases hprobes with ⟨text, fault, htext, hfault⟩ | ⟨s, hs, hlt⟩
      · rw [ofEnvironment_of_probes hlayout htext hfault] at h
        cases h
      · rw [ofEnvironment_of_said hs hlt, validate_eq_error_iff] at h
        obtain ⟨hrange, hvs⟩ := h
        cases hvs
        exact ⟨s, hs, hlt, hrange, rfl⟩
  · rintro ⟨s, hs, hlt, hrange, rfl⟩
    rw [ofEnvironment_of_said hs hlt]
    exact validate_of_not_inRange hrange

/-- An environment is accepted variable by variable. -/
theorem exists_ofEnvironment_eq_ok_iff :
    (∃ s, ofEnvironment env = .ok s) ↔
      (∀ text ∈ env.get? multilineVariable, text = "true" ∨ text = "false") ∧
      (∀ text ∈ env.get? maxProbesVariable,
        ∃ n, Text.WritesNumber text.toList n ∧ 1 ≤ n ∧ n ≤ 26) ∧
      env.get? fallbackVariable ≠ some "" := by
  rw [← Environment.exists_saysLayout_iff,
    ← Environment.exists_saysProbes_iff (P := fun n => 1 ≤ n ∧ n ≤ 26) (by decide),
    ← Environment.exists_saysFallback_iff]
  simp only [ofEnvironment_eq_ok_iff]
  constructor
  · rintro ⟨s, hs, hrange⟩
    exact ⟨⟨_, hs.multiline⟩, ⟨_, hs.maxProbes, hrange.maxProbes⟩,
      ⟨_, hs.fallback, hrange.fallback⟩⟩
  · rintro ⟨⟨b, hb⟩, ⟨n, hn, hrange⟩, ⟨name, hname, hne⟩⟩
    exact ⟨⟨b, n, name⟩, ⟨hb, hn, hname⟩, ⟨hrange, hne⟩⟩

end Outcome

/-! ### Overrides -/

/-- The settings that come of a base when some are replaced.  A layout of several lines is asked for
by the base or by what replaces it. -/
structure Merges (base : Settings) (o : Overrides) (s : Settings) : Prop where
  multiline : s.multiline = true ↔ o.multiline = true ∨ base.multiline = true
  maxProbes : (∀ n ∈ o.maxProbes, s.maxProbes = n) ∧
    (o.maxProbes = none → s.maxProbes = base.maxProbes)
  fallback : (∀ name ∈ o.fallback, s.fallback = name) ∧
    (o.fallback = none → s.fallback = base.fallback)

section Merging

variable {base s t : Settings} {o : Overrides}

/-- A replacement where there is one, and what it replaces otherwise. -/
theorem getD_eq_iff {α : Type} {value : Option α} {old new : α} :
    value.getD old = new ↔ (∀ a ∈ value, new = a) ∧ (value = none → new = old) := by
  cases value <;> simp [eq_comm]

/-- Settings merge in one way. -/
theorem merges_iff :
    Merges base o s ↔
      s = ⟨o.multiline || base.multiline, o.maxProbes.getD base.maxProbes,
        o.fallback.getD base.fallback⟩ := by
  obtain ⟨b, n, name⟩ := s
  constructor
  · rintro ⟨hmultiline, hprobes, hfallback⟩
    rw [getD_eq_iff.mpr hprobes, getD_eq_iff.mpr hfallback]
    congr 1
    rw [Bool.eq_iff_iff, Bool.or_eq_true]
    exact hmultiline
  · intro h
    cases h
    exact ⟨Bool.or_eq_true_iff, getD_eq_iff.mp rfl, getD_eq_iff.mp rfl⟩

/-- What is merged is checked. -/
theorem Merges.override_eq (h : Merges base o s) : base.override o = s.validate := by
  rw [override, merges_iff.mp h]

theorem exists_merges (base : Settings) (o : Overrides) : ∃ s, Merges base o s :=
  ⟨_, merges_iff.mpr rfl⟩

/-- **Overrides are accepted** if what comes of them is in range. -/
theorem override_eq_ok_iff : base.override o = .ok s ↔ Merges base o s ∧ s.InRange := by
  obtain ⟨t, ht⟩ := exists_merges base o
  rw [ht.override_eq, validate_eq_ok_iff]
  constructor
  · rintro ⟨rfl, hrange⟩
    exact ⟨ht, hrange⟩
  · rintro ⟨hs, hrange⟩
    obtain rfl : s = t := (merges_iff.mp hs).trans (merges_iff.mp ht).symm
    exact ⟨rfl, hrange⟩

theorem override_eq_error_iff {e : SettingsError} :
    base.override o = .error e ↔
      ∃ s, Merges base o s ∧ ¬ s.InRange ∧ e = .invalid s.violations := by
  obtain ⟨t, ht⟩ := exists_merges base o
  rw [ht.override_eq, validate_eq_error_iff]
  constructor
  · rintro ⟨hrange, he⟩
    exact ⟨t, ht, hrange, he⟩
  · rintro ⟨s, hs, hrange, he⟩
    obtain rfl : s = t := (merges_iff.mp hs).trans (merges_iff.mp ht).symm
    exact ⟨hrange, he⟩

/-- Settings in range stay acceptable exactly if what replaces some of them is in range. -/
theorem InRange.exists_override_eq_ok_iff (hbase : base.InRange) :
    (∃ s, base.override o = .ok s) ↔
      (∀ n ∈ o.maxProbes, 1 ≤ n ∧ n ≤ 26) ∧ o.fallback ≠ some "" := by
  obtain ⟨s, hs⟩ := exists_merges base o
  have hprobes : (1 ≤ s.maxProbes ∧ s.maxProbes ≤ 26) ↔ ∀ n ∈ o.maxProbes, 1 ≤ n ∧ n ≤ 26 := by
    rw [← getD_eq_iff.mpr hs.maxProbes]
    cases o.maxProbes with
    | none => simp [hbase.maxProbes]
    | some n => simp
  have hfallback : s.fallback ≠ "" ↔ o.fallback ≠ some "" := by
    rw [← getD_eq_iff.mpr hs.fallback]
    cases o.fallback with
    | none => simp [hbase.fallback]
    | some name => simp
  rw [← hprobes, ← hfallback, hs.override_eq]
  constructor
  · rintro ⟨t, ht⟩
    have hrange := (validate_eq_ok_iff.mp ht).2
    exact ⟨hrange.maxProbes, hrange.fallback⟩
  · rintro ⟨hmax, hname⟩
    exact ⟨s, validate_of_inRange ⟨hmax, hname⟩⟩

end Merging

end Settings

/-- **An environment is accepted if it keeps to the grammar and the ranges.**  Its settings are
those that it says.  A malformed layout is reported before a malformed number of probes, and ranges
only if both could be read, with every setting that is out of range.  Overrides replace exactly what
they give, and the outcome has to be in range again. -/
theorem environment_accepted_by_grammar (env : Environment) :
    ((∃ s, ofEnvironment env = .ok s) ↔
      (∀ text ∈ env.get? multilineVariable, text = "true" ∨ text = "false") ∧
      (∀ text ∈ env.get? maxProbesVariable,
        ∃ n, Text.WritesNumber text.toList n ∧ 1 ≤ n ∧ n ≤ 26) ∧
      env.get? fallbackVariable ≠ some "") ∧
    (∀ s, ofEnvironment env = .ok s ↔ env.Says s ∧ s.InRange) ∧
    (∀ field value reason, ofEnvironment env = .error (.parse field value reason) ↔
      (env.get? multilineVariable = some value ∧ value ≠ "true" ∧ value ≠ "false" ∧
        field = multilineVariable ∧ reason = "provided string was not `true` or `false`") ∨
      ((∀ layout ∈ env.get? multilineVariable, layout = "true" ∨ layout = "false") ∧
        env.get? maxProbesVariable = some value ∧ field = maxProbesVariable ∧
        ∃ fault, Text.Explains UInt32.size value.toList fault ∧ reason = fault.message)) ∧
    (∀ vs, ofEnvironment env = .error (.invalid vs) ↔
      ∃ s, env.Says s ∧ s.maxProbes < UInt32.size ∧ ¬ s.InRange ∧ vs = s.violations) ∧
    (∀ (s : Settings) field, field ∈ s.violations.map Violation.field ↔
      field = "fallback_alias" ∧ s.fallback = "" ∨
        field = "max_alias_probes" ∧ ¬ (1 ≤ s.maxProbes ∧ s.maxProbes ≤ 26)) ∧
    ∀ base, ofEnvironment env = .ok base → ∀ o,
      (∀ s, base.override o = .ok s ↔ Merges base o s ∧ s.InRange) ∧
      ((∃ s, base.override o = .ok s) ↔
        (∀ n ∈ o.maxProbes, 1 ≤ n ∧ n ≤ 26) ∧ o.fallback ≠ some "") ∧
      ∀ e, base.override o = .error e ↔
        ∃ s, Merges base o s ∧ ¬ s.InRange ∧ e = .invalid s.violations := by
  refine ⟨exists_ofEnvironment_eq_ok_iff, fun s => ofEnvironment_eq_ok_iff,
    fun field value reason => ofEnvironment_eq_parse_iff, fun vs => ofEnvironment_eq_invalid_iff,
    fun s field => mem_map_field_violations, ?_⟩
  intro base hbase o
  have hrange := (ofEnvironment_eq_ok_iff.mp hbase).2
  exact ⟨fun s => override_eq_ok_iff, hrange.exists_override_eq_ok_iff,
    fun e => override_eq_error_iff⟩

/-- Padding is read over, a number that is too large is not wrapped into the range, and it is
reported before a fallback name that is empty. -/
theorem environment_of_padded_numeral :
    ofEnvironment [(multilineVariable, "true"), (maxProbesVariable, "+0005")]
        = .ok ⟨true, 5, "n"⟩ ∧
      override ⟨true, 5, "n"⟩ ⟨false, some 26, some "m"⟩ = .ok ⟨true, 26, "m"⟩ ∧
      ofEnvironment [(maxProbesVariable, "4294967301"), (fallbackVariable, "")]
        = .error (.parse maxProbesVariable "4294967301"
            "number too large to fit in target type") := by
  obtain ⟨-, hok, -, -, -, hoverride⟩ := environment_accepted_by_grammar
    [(multilineVariable, "true"), (maxProbesVariable, "+0005")]
  have hbase := (hok ⟨true, 5, "n"⟩).mpr
    ⟨⟨rfl, ⟨['0', '0', '0', '5'], .inr rfl, nofun, List.all_eq_true.mp rfl, rfl⟩, rfl⟩,
      ⟨by decide, by decide⟩⟩
  obtain ⟨hmerged, -, -⟩ := hoverride _ hbase ⟨false, some 26, some "m"⟩
  obtain ⟨-, -, hparse, -, -, -⟩ := environment_accepted_by_grammar
    [(maxProbesVariable, "4294967301"), (fallbackVariable, "")]
  refine ⟨hbase, (hmerged _).mpr ⟨⟨?_, ?_, ?_⟩, ⟨by decide, by decide⟩⟩,
    (hparse _ _ _).mpr (.inr ?_)⟩
  · simp
  · simp
  · simp
  · refine ⟨nofun, rfl, rfl, .tooLarge, ⟨"4294967301".toList, [], 4294967301, ?_, ?_, ?_⟩, rfl⟩
    · rfl
    · exact ⟨"4294967301".toList, .inl rfl, nofun, List.all_eq_true.mp rfl, rfl⟩
    · decide

end GraphQuery
