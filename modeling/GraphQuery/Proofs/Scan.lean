import GraphQuery.Compile.Update

/-!
# Proofs — scanning a query for text literals

A scan reads a text from left to right.  A double quote opens a literal; inside a literal a
backslash yields the character after it, whatever it is, and a bare double quote closes the
literal.  What is outside is kept with the quotes of the literals but without their contents, so
that it shows where literals stand.

`Reads cs outside literals` says that a scan that reads `cs` outside a literal ends outside a
literal, having read these literals.  It composes along the text (`Reads.append`).  A text without
double quotes is outside (`Reads.plain`), and the literal of a text reads as that text
(`Reads.quote`), whatever stands in it and whatever follows.
-/

namespace GraphQuery

/-- Where a scan stands. -/
inductive ScanPlace where
  /-- Outside a literal. -/
  | outside
  /-- Inside a literal of which a part has been read. -/
  | inside (read : List Char)
  /-- Behind a backslash inside a literal. -/
  | escaped (read : List Char)
deriving DecidableEq, Repr

/-- What a scan has read. -/
structure Scan where
  /-- The text outside of literals, and the quotes around them. -/
  outside : List Char
  /-- The literals, read back. -/
  literals : List String
  /-- Where it stands. -/
  place : ScanPlace
deriving DecidableEq, Repr

namespace Scan

/-- Reads one character. -/
def step (s : Scan) (c : Char) : Scan :=
  match s.place with
  | .outside =>
    if c = '"' then ⟨s.outside ++ ['"'], s.literals, .inside []⟩
    else ⟨s.outside ++ [c], s.literals, .outside⟩
  | .inside read =>
    if c = '"' then ⟨s.outside ++ ['"'], s.literals ++ [String.ofList read], .outside⟩
    else if c = '\\' then ⟨s.outside, s.literals, .escaped read⟩
    else ⟨s.outside, s.literals, .inside (read ++ [c])⟩
  | .escaped read => ⟨s.outside, s.literals, .inside (read ++ [c])⟩

/-- Reads a text. -/
def run (s : Scan) (cs : List Char) : Scan :=
  cs.foldl step s

/-- Reads a whole text. -/
def of (cs : List Char) : Scan :=
  run ⟨[], [], .outside⟩ cs

theorem run_cons (s : Scan) (c : Char) (cs : List Char) : s.run (c :: cs) = (s.step c).run cs := rfl

theorem run_append (s : Scan) (cs ds : List Char) : s.run (cs ++ ds) = (s.run cs).run ds :=
  List.foldl_append

/-- Outside a literal every character but a quote is kept. -/
theorem step_outside {o : List Char} {l : List String} {c : Char} (h : c ≠ '"') :
    step ⟨o, l, .outside⟩ c = ⟨o ++ [c], l, .outside⟩ :=
  if_neg h

/-- Inside a literal a character that is neither a quote nor a backslash reads as itself. -/
theorem step_inside {o read : List Char} {l : List String} {c : Char} (hquote : c ≠ '"')
    (hslash : c ≠ '\\') :
    step ⟨o, l, .inside read⟩ c = ⟨o, l, .inside (read ++ [c])⟩ :=
  (if_neg hquote).trans (if_neg hslash)

/-- The inside of a literal reads as the text that it was written from. -/
theorem run_escape (o : List Char) (l : List String) :
    ∀ (cs read : List Char),
      run ⟨o, l, .inside read⟩ (Text.escape cs) = ⟨o, l, .inside (read ++ cs)⟩
  | [], read => by rw [Text.escape, List.append_nil]; rfl
  | c :: cs, read => by
      rw [Text.escape]
      -- escaped or not, the character is appended to what has been read
      have ih := run_escape o l cs (read ++ [c])
      rw [List.append_assoc, List.singleton_append] at ih
      by_cases hc : Text.needsEscape c = true
      · rw [if_pos hc]
        exact ih
      · have hquote : c ≠ '"' := by rintro rfl; exact hc rfl
        have hslash : c ≠ '\\' := by rintro rfl; exact hc rfl
        rw [if_neg hc, run_cons, step_inside hquote hslash]
        exact ih

end Scan

/-- Read from outside a literal, `cs` ends outside a literal and has these literals. -/
def Reads (cs outside : List Char) (literals : List String) : Prop :=
  ∀ o l, Scan.run ⟨o, l, .outside⟩ cs = ⟨o ++ outside, l ++ literals, .outside⟩

namespace Reads

variable {cs ds o p : List Char} {l m : List String}

theorem scan_of (h : Reads cs o l) : Scan.of cs = ⟨o, l, .outside⟩ :=
  h [] []

/-- What ends outside a literal can be read on from there. -/
theorem append (h : Reads cs o l) (h' : Reads ds p m) : Reads (cs ++ ds) (o ++ p) (l ++ m) := by
  intro o' l'
  rw [Scan.run_append, h, h', List.append_assoc, List.append_assoc]

/-- A text without double quotes is outside of literals. -/
theorem plain : ∀ {cs : List Char}, '"' ∉ cs → Reads cs cs []
  | [], _ => fun o l => by rw [List.append_nil, List.append_nil]; rfl
  | c :: cs, h => fun o l => by
      have hc : c ≠ '"' := fun hc => h (hc ▸ List.mem_cons_self ..)
      have hcs : '"' ∉ cs := fun hcs => h (List.mem_cons_of_mem _ hcs)
      rw [Scan.run_cons, Scan.step_outside hc, plain hcs, List.append_assoc, List.singleton_append]

/-- The literal of a text reads as that text. -/
theorem quote (s : String) : Reads (Text.quoteList s.toList) ['"', '"'] [s] := by
  intro o l
  rw [Text.quoteList, Scan.run_cons, Scan.run_append]
  show Scan.run (Scan.run ⟨o ++ ['"'], l, .inside []⟩ (Text.escape s.toList)) ['"'] = _
  rw [Scan.run_escape, List.nil_append]
  show Scan.mk _ _ _ = _
  rw [String.ofList_toList, List.append_assoc]
  rfl

/-- Texts with something without double quotes between them. -/
theorem intercalate {α : Type} {sep : List Char} {f g : α → List Char} {texts : α → List String}
    (hsep : '"' ∉ sep) :
    ∀ {xs : List α}, (∀ x ∈ xs, Reads (f x) (g x) (texts x)) →
      Reads (sep.intercalate (xs.map f)) (sep.intercalate (xs.map g)) (xs.flatMap texts)
  | [], _ => plain (List.not_mem_nil)
  | [x], h => by simpa using h x (List.mem_cons_self ..)
  | x :: y :: xs, h => by
      have hx : Reads (f x) (g x) (texts x) := h x (List.mem_cons_self ..)
      have hxs := intercalate hsep fun z hz => h z (List.mem_cons_of_mem x hz)
      have hall := hx.append ((plain hsep).append hxs)
      rw [List.map_cons, List.map_cons] at hxs hall ⊢
      rw [List.map_cons, List.map_cons, List.intercalate_cons_cons, List.intercalate_cons_cons,
        List.flatMap_cons]
      simpa using hall

end Reads

end GraphQuery
