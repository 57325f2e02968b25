import GraphQuery.Json.Decode

/-!
# Proofs — reading the text of a value

The compact text of a value is read back as that value (`readDocument_write`), and by a decoder just
like the value itself (`Decoder.ofText_write`).  The number of an integer ends where no digit, point
or exponent mark follows (`readNumber_writeInt`), and every character of a string comes back from
what stands for it (`readUnits_escapeChar`), escapes of four digits included.

This is about values whose numbers are integers of at most 64 bits (`Value.Integral`).
-/

namespace GraphQuery

namespace Decimal

/-! ### Digits -/

variable {c : Char} {ds rest : List Char}

theorem isDigit_toDigits (n : Nat) : ∀ c ∈ Nat.toDigits 10 n, c.isDigit = true :=
  fun _ hc => Nat.isDigit_of_mem_toDigits (by decide) (by decide) hc

/-- Digits before the text end where the text begins. -/
def EndsDigits (rest : List Char) : Prop :=
  ∀ c ∈ rest.head?, c.isDigit = false

theorem endsDigits_nil : EndsDigits [] := nofun

theorem endsDigits_cons (h : c.isDigit = false) : EndsDigits (c :: rest) := by
  rintro d ⟨⟩
  exact h

/-- Digits are split off where they end. -/
theorem spanDigits_of_endsDigits (hds : ∀ c ∈ ds, c.isDigit = true) (hrest : EndsDigits rest) :
    spanDigits (ds ++ rest) = (ds, rest) := by
  have hstop : rest.takeWhile Char.isDigit = [] ∧ rest.dropWhile Char.isDigit = rest := by
    cases rest with
    | nil => exact ⟨rfl, rfl⟩
    | cons c cs =>
      have hc : c.isDigit = false := hrest c rfl
      simp [hc]
  rw [spanDigits, List.takeWhile_append_of_pos hds, List.dropWhile_append_of_pos hds,
    hstop.1, hstop.2, List.append_nil]

end Decimal

namespace Json

/-! ### Integers -/

/-- Whether a numeral before the text ends where the text begins. -/
def EndsNumeral (rest : List Char) : Prop :=
  ∀ c ∈ rest.head?, c.isDigit = false ∧ c ≠ '.' ∧ c ≠ 'e' ∧ c ≠ 'E'

theorem endsNumeral_nil : EndsNumeral [] := nofun

/-- A mark that is part of no numeral ends one. -/
theorem endsNumeral_cons {c : Char} {rest : List Char} (hdigit : c.isDigit = false)
    (hmark : c ∉ ['.', 'e', 'E']) : EndsNumeral (c :: rest) := by
  intro d hd
  cases hd
  simpa [hdigit] using hmark

theorem EndsNumeral.endsDigits {rest : List Char} (h : EndsNumeral rest) :
    Decimal.EndsDigits rest := fun c hc => (h c hc).1

/-- The digits of a positive number do not start with zero. -/
theorem head?_toDigits_ne_zero {n : Nat} (h : 0 < n) : (Nat.toDigits 10 n).head? ≠ some '0' := by
  induction n using Nat.strongRecOn with
  | ind n ih =>
    by_cases hn : n < 10
    · have hdigit : ∀ d < 10, 0 < d → Nat.digitChar d ≠ '0' := by decide
      rw [Nat.toDigits_of_lt_base hn]
      exact fun h0 => hdigit n hn h (Option.some.inj h0)
    · have hfirst := ih (n / 10) (by omega) (by omega)
      rw [Nat.toDigits_of_base_le (by omega) (by omega)]
      cases hds : Nat.toDigits 10 (n / 10) with
      | nil => exact absurd hds Nat.toDigits_ne_nil
      | cons d ds =>
        rw [hds] at hfirst
        exact hfirst

/-- No zero stands before other digits of a number. -/
theorem toDigits_ne_zero_cons (n : Nat) (c : Char) (cs : List Char) :
    Nat.toDigits 10 n ≠ '0' :: c :: cs := by
  intro h
  rcases Nat.eq_zero_or_pos n with rfl | hn
  · cases h
  · exact head?_toDigits_ne_zero hn (by rw [h]; rfl)

/-- Digits with nothing of a numeral behind them are an integer. -/
theorem readNumberTail_of_endsNumeral (negative : Bool) (whole : List Char) {rest : List Char}
    (hrest : EndsNumeral rest) :
    readNumberTail negative whole rest = .ok (integerNumber negative whole, rest) := by
  cases rest with
  | nil => rfl
  | cons c cs =>
    obtain ⟨-, hpoint, he, hE⟩ := hrest c rfl
    simp [readNumberTail, readNumberTail.finish, hpoint, he, hE]

/-- Digits of which no zero stands before others are read as far as they go, with a minus sign or
without. -/
theorem readNumber_digits {ds rest : List Char} (hds : ∀ c ∈ ds, c.isDigit = true)
    (hne : ds ≠ []) (hzero : ∀ c cs, ds ≠ '0' :: c :: cs) (hrest : EndsNumeral rest) :
    readNumber (ds ++ rest) = .ok (integerNumber false ds, rest) ∧
      readNumber ('-' :: (ds ++ rest)) = .ok (integerNumber true ds, rest) := by
  -- the reader asks for a minus sign first, which no digit is
  have hminus : ∀ cs, ds ++ rest ≠ '-' :: cs := by
    intro cs h
    cases ds with
    | nil => exact hne rfl
    | cons d ds =>
      obtain rfl : d = '-' := (List.cons.inj h).1
      exact absurd (hds '-' (List.mem_cons_self ..)) (by decide)
  have hspan := Decimal.spanDigits_of_endsDigits hds hrest.endsDigits
  have htail := fun negative => readNumberTail_of_endsNumeral negative ds hrest
  constructor
  · rw [readNumber]
    · simp only [hspan, htail]
    · exact hminus
  · rw [readNumber]
    simp only [hspan, htail]

/-- Digits that write a number of at most 64 bits are that integer, unless it is a negative zero. -/
theorem integerNumber_of_isWord {negative : Bool} {ds : List Char} {i : Int}
    (hvalue : (if negative then -(Decimal.ofDigits ds : Int) else Decimal.ofDigits ds) = i)
    (hi : Number.isWord i = true) (hzero : (negative && Decimal.ofDigits ds == 0) = false) :
    integerNumber negative ds = .ok (.integer i) := by
  simp only [integerNumber, hvalue, hi, hzero]
  rfl

/-- **An integer is read back** where its numeral ends. -/
theorem readNumber_writeInt {i : Int} (hi : Number.isWord i = true) {rest : List Char}
    (hrest : EndsNumeral rest) :
    readNumber (writeInt i ++ rest) = .ok (.ok (.integer i), rest) := by
  have hdigits := Decimal.isDigit_toDigits i.natAbs
  have hvalue : Decimal.ofDigits (Nat.toDigits 10 i.natAbs) = i.natAbs :=
    Nat.ofDigitChars_toDigits (by decide) (by decide)
  obtain ⟨hplus, hminus⟩ :=
    readNumber_digits hdigits Nat.toDigits_ne_nil (toDigits_ne_zero_cons i.natAbs) hrest
  rw [writeInt]
  split
  · rename_i hneg
    have habs : (if true then -(Decimal.ofDigits (Nat.toDigits 10 i.natAbs) : Int)
        else Decimal.ofDigits (Nat.toDigits 10 i.natAbs)) = i := by
      rw [hvalue, if_pos rfl]
      omega
    have hnonzero : (true && Decimal.ofDigits (Nat.toDigits 10 i.natAbs) == 0) = false := by
      rw [hvalue, Bool.true_and, beq_eq_false_iff_ne]
      omega
    rw [List.cons_append, hminus, integerNumber_of_isWord habs hi hnonzero]
  · rename_i hneg
    have habs : (if false then -(Decimal.ofDigits (Nat.toDigits 10 i.natAbs) : Int)
        else Decimal.ofDigits (Nat.toDigits 10 i.natAbs)) = i := by
      rw [hvalue, if_neg nofun]
      omega
    rw [hplus, integerNumber_of_isWord habs hi rfl]

/-! ### Strings -/

/-- The unit that the text of a character is read as: a number for a control character without an
escape of one letter, and the character itself for any other. -/
def TextUnit.ofChar (c : Char) : TextUnit :=
  if c ∈ ['"', '\\', '\n', '\r', '\t', '\x08', '\x0c'] ∨ 0x20 ≤ c.toNat then .char c
  else .code c.toNat

/-- Two hexadecimal digits write a number below 256. -/
theorem hexCode?_digitChar {n : Nat} (h : n < 0x100) :
    hexCode? '0' '0' (Nat.digitChar (n / 16)) (Nat.digitChar (n % 16)) = some n := by
  have hdigit : ∀ d < 16, hexDigit? (Nat.digitChar d) = some d := by decide
  rw [hexCode?, hdigit (n / 16) (by omega), hdigit (n % 16) (by omega)]
  show some (((0 * 16 + 0) * 16 + n / 16) * 16 + n % 16) = some n
  exact congrArg some (by omega)

/-- A character comes back from what stands for it. -/
theorem readUnits_escapeChar (c : Char) (rest : List Char) :
    readUnits (escapeChar c ++ rest)
      = (.ofChar c :: (readUnits rest).1, (readUnits rest).2) := by
  by_cases hletter : c ∈ ['"', '\\', '\n', '\r', '\t', '\x08', '\x0c']
  · have hunit : TextUnit.ofChar c = .char c := if_pos (.inl hletter)
    rw [hunit]
    simp only [List.mem_cons, List.not_mem_nil, or_false] at hletter
    rcases hletter with rfl | rfl | rfl | rfl | rfl | rfl | rfl <;> rfl
  · -- without a letter of its own the character is a control character or stands for itself
    simp only [List.mem_cons, List.not_mem_nil, or_false, not_or] at hletter
    obtain ⟨hquote, hbackslash, hn, hr, ht, hb, hf⟩ := hletter
    by_cases hcontrol : c.toNat < 0x20
    · have hescape : escapeChar c
          = ['\\', 'u', '0', '0', Nat.digitChar (c.toNat / 16), Nat.digitChar (c.toNat % 16)] := by
        simp [escapeChar, hquote, hbackslash, hn, hr, ht, hb, hf, hcontrol]
      have hunit : TextUnit.ofChar c = .code c.toNat := by
        simp [TextUnit.ofChar, hquote, hbackslash, hn, hr, ht, hb, hf, hcontrol]
      rw [hescape, hunit]
      simp only [List.cons_append, List.nil_append, readUnits,
        hexCode?_digitChar (Nat.lt_trans hcontrol (by decide))]
    · have hescape : escapeChar c = [c] := by
        simp [escapeChar, hquote, hbackslash, hn, hr, ht, hb, hf, hcontrol]
      have hunit : TextUnit.ofChar c = .char c := if_pos (.inr (Nat.le_of_not_lt hcontrol))
      rw [hescape, hunit, List.singleton_append, readUnits, if_neg hcontrol]
      · exact hquote
      · exact hbackslash

theorem readUnits_flatMap_escapeChar (cs rest : List Char) :
    readUnits (cs.flatMap escapeChar ++ '"' :: rest) = (cs.map .ofChar, .ok rest) := by
  induction cs with
  | nil => rfl
  | cons c cs ih =>
    rw [List.flatMap_cons, List.append_assoc, readUnits_escapeChar, ih, List.map_cons]

/-- The number of a control character is no half of a surrogate pair. -/
theorem assemble_ofChar (c : Char) (units : List TextUnit) :
    assemble none (.ofChar c :: units) = (assemble none units).map (c :: ·) := by
  rw [TextUnit.ofChar]
  split
  · rfl
  · rename_i hcontrol
    have hlt : c.toNat < 0x20 := Nat.lt_of_not_le fun hle => hcontrol (.inr hle)
    have hlow : isLowSurrogate c.toNat = false := by simp [isLowSurrogate]; omega
    have hhigh : isHighSurrogate c.toNat = false := by simp [isHighSurrogate]; omega
    rw [assemble.eq_def]
    simp [hlow, hhigh]

theorem assemble_map_ofChar (cs : List Char) : assemble none (cs.map .ofChar) = .ok cs := by
  induction cs with
  | nil => rfl
  | cons c cs ih => rw [List.map_cons, assemble_ofChar, ih]; rfl

/-- **A string is read back** behind its opening quote. -/
theorem readString_escape (s : String) (rest : List Char) :
    readString (s.toList.flatMap escapeChar ++ '"' :: rest) = .ok (.ok s, rest) := by
  simp only [readString, readUnits_flatMap_escapeChar, assemble_map_ofChar]
  show Except.ok (Except.ok (String.ofList s.toList), rest) = _
  rw [String.ofList_toList]

/-! ### Values -/

/-- Every number in the value is an integer of at most 64 bits. -/
inductive Value.Integral : Value → Prop where
  /-- There is no number in it. -/
  | null : Integral .null
  /-- There is no number in it. -/
  | bool (b : Bool) : Integral (.bool b)
  /-- The value is such an integer. -/
  | integer {i : Int} (h : Number.isWord i = true) : Integral (.integer i)
  /-- There is no number in it. -/
  | string (s : String) : Integral (.string s)
  /-- All items are such values. -/
  | array {items : List Value} (h : ∀ v ∈ items, v.Integral) : Integral (.array items)
  /-- All members have such values. -/
  | object {members : Members} (h : ∀ m ∈ members, m.2.Integral) : Integral (.object members)

/-- The text of the value is read as the value wherever a numeral would end, with a count of twice
its length. -/
def Value.ReadsBack (v : Value) : Prop :=
  ∀ ⦃count : Nat⦄ ⦃rest : List Char⦄, 2 * v.write.length ≤ count → EndsNumeral rest →
    readValue count (v.write ++ rest) = (.ofValue v, some rest)

/-- An integer starts with a sign or a digit. -/
theorem writeInt_eq_cons (i : Int) :
    ∃ c cs, writeInt i = c :: cs ∧ (c = '-' ∨ c.isDigit = true) := by
  rw [writeInt]
  split
  · exact ⟨'-', _, rfl, .inl rfl⟩
  · cases hds : Nat.toDigits 10 i.natAbs with
    | nil => exact absurd hds Nat.toDigits_ne_nil
    | cons d ds =>
      have hd : d ∈ Nat.toDigits 10 i.natAbs := by rw [hds]; exact List.mem_cons_self ..
      exact ⟨d, ds, rfl, .inr (Nat.isDigit_of_mem_toDigits (by decide) (by decide) hd)⟩

/-- What starts a number starts nothing else. -/
theorem ne_of_startsNumber {c d : Char} (hc : c = '-' ∨ c.isDigit = true)
    (hd : ¬(d = '-' ∨ d.isDigit = true)) : c ≠ d :=
  fun h => hd (h ▸ hc)

theorem isSpace_of_startsNumber {c : Char} (hc : c = '-' ∨ c.isDigit = true) :
    isSpace c = false := by
  cases h : isSpace c with
  | false => rfl
  | true =>
    have hspace : c = ' ' ∨ c = '\n' ∨ c = '\t' ∨ c = '\r' := by
      simpa [isSpace, or_assoc] using h
    rcases hspace with rfl | rfl | rfl | rfl <;> exact absurd hc (by decide)

/-- No text of a value starts with a space or a closing bracket. -/
theorem Value.Integral.write_eq_cons {v : Value} (h : v.Integral) :
    ∃ c cs, v.write = c :: cs ∧ isSpace c = false ∧ c ≠ ']' := by
  cases h with
  | null => exact ⟨_, _, rfl, rfl, by decide⟩
  | bool b => cases b <;> exact ⟨_, _, rfl, rfl, by decide⟩
  | @integer i _ =>
    obtain ⟨c, cs, hi, hc⟩ := writeInt_eq_cons i
    exact ⟨c, cs, hi, isSpace_of_startsNumber hc, ne_of_startsNumber hc (by decide)⟩
  | string s => exact ⟨_, _, rfl, rfl, by decide⟩
  | @array items _ => cases items <;> exact ⟨_, _, rfl, rfl, by decide⟩
  | @object members _ => cases members <;> exact ⟨_, _, rfl, rfl, by decide⟩

theorem readsBack_null : Value.null.ReadsBack := by
  rintro (_ | count) rest hcount -
  · exact absurd hcount (by decide)
  · rfl

theorem readsBack_bool (b : Bool) : (Value.bool b).ReadsBack := by
  rintro (_ | count) rest hcount -
  · exact absurd hcount (by cases b <;> decide)
  · cases b <;> rfl

theorem readsBack_string (s : String) : (Value.string s).ReadsBack := by
  rintro (_ | count) rest hcount -
  · simp [Value.write, writeString] at hcount
  · have hread := readString_escape s rest
    simp only [Value.write, writeString, List.cons_append, List.append_assoc, List.nil_append]
    show leaf .string (readString _) = _
    rw [hread]
    rfl

theorem skipSpace_cons {c : Char} (h : isSpace c = false) (cs : List Char) :
    skipSpace (c :: cs) = c :: cs := by
  rw [skipSpace, List.dropWhile_cons, h]
  rfl

theorem readsBack_integer {i : Int} (h : Number.isWord i = true) :
    (Value.integer i).ReadsBack := by
  intro count rest hcount hrest
  obtain ⟨c, cs, hi, hc⟩ := writeInt_eq_cons i
  have hread := readNumber_writeInt h hrest
  have hwrite : (Value.integer i).write = c :: cs := hi
  rw [hi, List.cons_append] at hread
  rw [hwrite] at hcount ⊢
  cases count with
  | zero => cases hcount
  | succ count =>
    rw [List.cons_append, readValue, skipSpace_cons (isSpace_of_startsNumber hc)]
    split
    case h_8 heq =>
      cases heq
      rw [if_pos hc, hread]
      rfl
    case h_1 heq => cases heq
    all_goals exact absurd (List.cons.inj ‹_›).1 (ne_of_startsNumber hc (by decide))

/-- What follows an item or a member ends a numeral. -/
theorem endsNumeral_writeItems (items : List Value) (rest : List Char) :
    EndsNumeral (writeItems items ++ rest) := by
  cases items <;> exact endsNumeral_cons rfl (by decide)

theorem endsNumeral_writeMembers (members : Members) (rest : List Char) :
    EndsNumeral (writeMembers members ++ rest) := by
  cases members <;> exact endsNumeral_cons rfl (by decide)

/-- Behind an item and a comma another item is read. -/
theorem readItems_comma {count : Nat} {cs rest : List Char} {item : Document}
    (h : readValue count cs = (item, some (',' :: rest))) :
    readItems (count + 1) cs
      = match readItems count rest with
        | (items, ending, rest) => (item :: items, ending, rest) := by
  rw [readItems, h]
  rfl

/-- The items of a list are read back up to its closing bracket.  What follows an item takes up a
character, so that the count that is left is enough for the others. -/
theorem readItems_write {items : List Value} {item : Value} (hitem : item.ReadsBack)
    (hitems : ∀ v ∈ items, v.ReadsBack) {count : Nat}
    (hcount : 2 * (item.write.length + (writeItems items).length) ≤ count) (rest : List Char) :
    readItems count (item.write ++ (writeItems items ++ rest))
      = (Document.ofItems (item :: items), none, some rest) := by
  induction items generalizing item count with
  | nil =>
    rw [writeItems, List.length_singleton] at hcount
    cases count with
    | zero => omega
    | succ count =>
      have hread : readValue count (item.write ++ (writeItems [] ++ rest)) = _ :=
        hitem (by omega) (endsNumeral_writeItems [] rest)
      rw [readItems, hread]
      rfl
  | cons next items ih =>
    obtain ⟨hnext, hitems⟩ := List.forall_mem_cons.mp hitems
    rw [writeItems, List.length_cons, List.length_append] at hcount
    cases count with
    | zero => omega
    | succ count =>
      have hread : readValue count (item.write ++ (writeItems (next :: items) ++ rest))
          = (Document.ofValue item, some (',' :: (next.write ++ writeItems items ++ rest))) :=
        hitem (by omega) (endsNumeral_writeItems (next :: items) rest)
      have hrest : readItems count (next.write ++ (writeItems items ++ rest)) = _ :=
        ih hnext hitems (by omega)
      rw [readItems_comma hread, List.append_assoc, hrest]
      rfl

/-- A member is read as its name and then as its value. -/
theorem readMembers_writeString (count : Nat) (name : String) (cs : List Char) :
    readMembers (count + 1) (writeString name ++ ':' :: cs)
      = match readValue count cs with
        | (item, none) => ([(.ok name, item)], none, none)
        | (item, some rest) =>
          match skipSpace rest with
          | ',' :: rest =>
            let (members, ending, rest) := readMembers count rest
            ((.ok name, item) :: members, ending, rest)
          | '}' :: rest => ([(.ok name, item)], none, some rest)
          | rest => ([(.ok name, item)], some (.of (notContinued rest)), none) := by
  rw [readMembers, writeString, List.cons_append, skipSpace_cons rfl, List.append_assoc,
    List.singleton_append]
  simp only [readString_escape]
  rw [skipSpace_cons rfl]
  rfl

/-- The members of an object are read back up to its closing brace. -/
theorem readMembers_write {members : Members} {name : String} {value : Value}
    (hvalue : value.ReadsBack) (hmembers : ∀ m ∈ members, m.2.ReadsBack)
    {count : Nat} (hcount : 2 * ((writeString name).length + 1 + value.write.length
      + (writeMembers members).length) ≤ count) (rest : List Char) :
    readMembers count (writeString name ++ ':' :: (value.write ++ (writeMembers members ++ rest)))
      = (Document.ofMembers ((name, value) :: members), none, some rest) := by
  induction members generalizing name value count with
  | nil =>
    rw [writeMembers, List.length_singleton] at hcount
    cases count with
    | zero => omega
    | succ count =>
      have hread : readValue count (value.write ++ (writeMembers [] ++ rest)) = _ :=
        hvalue (by omega) (endsNumeral_writeMembers [] rest)
      rw [readMembers_writeString, hread]
      rfl
  | cons next members ih =>
    obtain ⟨name', value'⟩ := next
    have hnext : value'.ReadsBack := hmembers _ (List.mem_cons_self ..)
    have htail : ∀ m ∈ members, m.2.ReadsBack := fun m hm => hmembers m (.tail _ hm)
    simp only [writeMembers, List.length_cons, List.length_append] at hcount
    cases count with
    | zero => omega
    | succ count =>
      have hread : readValue count
          (value.write ++ (writeMembers ((name', value') :: members) ++ rest)) = _ :=
        hvalue (by omega) (endsNumeral_writeMembers ((name', value') :: members) rest)
      have hrest : readMembers count
          (writeString name' ++ ':' :: (value'.write ++ (writeMembers members ++ rest))) = _ :=
        ih hnext htail (by omega)
      rw [readMembers_writeString, hread]
      show (match readMembers count ((writeString name' ++ ':' :: (value'.write
            ++ writeMembers members)) ++ rest) with
        | (members, ending, rest) =>
          ((Except.ok name, Document.ofValue value) :: members, ending, rest)) = _
      rw [List.append_assoc, List.cons_append, List.append_assoc, hrest]
      rfl

/-- A bracket with something else than the closing one behind it opens a list of items. -/
theorem readValue_bracket {c : Char} (hspace : isSpace c = false) (hc : c ≠ ']') (count : Nat)
    (cs : List Char) :
    readValue (count + 1) ('[' :: c :: cs)
      = match readItems count (c :: cs) with
        | (items, ending, rest) => (.array items ending, rest) := by
  rw [readValue, skipSpace_cons rfl]
  simp only [skipSpace_cons hspace]
  split
  · exact absurd (List.cons.inj ‹_›).1 hc
  · cases ‹_›
  · rfl

theorem readValue_brace (count : Nat) (name : String) (cs : List Char) :
    readValue (count + 1) ('{' :: (writeString name ++ cs))
      = match readMembers count (writeString name ++ cs) with
        | (members, ending, rest) => (.object members ending, rest) := by
  have hquote : isSpace '"' = false := rfl
  rw [readValue, skipSpace_cons rfl]
  simp only [writeString, List.cons_append, skipSpace_cons hquote]
  rfl

/-- **A value is read back** as itself. -/
theorem readsBack {v : Value} (h : v.Integral) : v.ReadsBack := by
  induction h with
  | null => exact readsBack_null
  | bool b => exact readsBack_bool b
  | integer hi => exact readsBack_integer hi
  | string s => exact readsBack_string s
  | @array items hitems ih =>
    intro count rest hcount hrest
    cases items with
    | nil =>
      cases count with
      | zero => cases hcount
      | succ count => rfl
    | cons item items =>
      have hitem : item.Integral := hitems item (List.mem_cons_self ..)
      obtain ⟨ihitem, ihitems⟩ := List.forall_mem_cons.mp ih
      -- the reader looks for a closing bracket before it reads the first item
      obtain ⟨c, cs, hwrite, hspace, hbracket⟩ := hitem.write_eq_cons
      rw [Value.write, List.length_cons, List.length_append] at hcount
      cases count with
      | zero => omega
      | succ count =>
        have hread : readItems count (item.write ++ (writeItems items ++ rest)) = _ :=
          readItems_write ihitem ihitems (by omega) rest
        rw [Value.write, List.cons_append, List.append_assoc]
        rw [hwrite] at hread ⊢
        rw [List.cons_append, readValue_bracket hspace hbracket, ← List.cons_append, hread]
        rfl
  | @object members _ ih =>
    intro count rest hcount hrest
    cases members with
    | nil =>
      cases count with
      | zero => cases hcount
      | succ count => rfl
    | cons member members =>
      obtain ⟨name, value⟩ := member
      have ihvalue : value.ReadsBack := ih _ (List.mem_cons_self ..)
      have ihmembers : ∀ m ∈ members, m.2.ReadsBack := fun m hm => ih m (.tail _ hm)
      simp only [Value.write, List.length_cons, List.length_append] at hcount
      cases count with
      | zero => omega
      | succ count =>
        have hread : readMembers count
            (writeString name ++ ':' :: (value.write ++ (writeMembers members ++ rest))) = _ :=
          readMembers_write ihvalue ihmembers (by omega) rest
        rw [Value.write, List.cons_append, List.append_assoc, List.cons_append, List.append_assoc,
          readValue_brace, hread]
        rfl

/-- **The text of a value is read as the value**, and nothing follows it. -/
theorem readDocument_write {v : Value} (h : v.Integral) :
    readDocument v.write = (.ofValue v, .ok ()) := by
  have hread : readValue (2 * v.write.length + 2) (v.write ++ []) = _ :=
    readsBack h (Nat.le_add_right ..) endsNumeral_nil
  rw [List.append_nil] at hread
  rw [readDocument, hread]
  rfl

/-- A text is decoded just like the value that it was written from. -/
theorem Decoder.ofText_write {α : Type} (read : Decoder α) {v : Value} (h : v.Integral) :
    read.ofText v.write = read .text (.ofValue v) := by
  rw [Decoder.ofText, readDocument_write h]
  simp only
  cases read .text (.ofValue v) <;> rfl

end Json

end GraphQuery
