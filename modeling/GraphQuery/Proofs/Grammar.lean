import Mathlib.Computability.Language
import Mathlib.Order.CompletePartialOrder
import GraphQuery.Proofs.Identifiers

/-!
# Proofs — the grammar of queries

The texts of queries as languages over characters, put together from tokens, words, numbers and
quoted texts by sums, products and repetition.  `Grammar.rows` holds the queries that limit rows and
`Grammar.nodes` those that limit nodes.  No list of the grammar is empty, and a number is written
without leading zeros and with an exponent that has a sign.  `Grammar.canonical` holds the numbers
of which no character can be left out; they are numbers of the grammar (`canonical_le_number`).
-/

namespace GraphQuery.Grammar

open scoped Computability

/-! ### Building blocks -/

/-- One character of a class. -/
def char (p : Char → Bool) : Language Char :=
  {cs | ∃ c, p c = true ∧ cs = [c]}

/-- A text as it stands. -/
def token (s : String) : Language Char :=
  {cs | cs = s.toList}

variable (l : Language Char)

/-- It may be left out. -/
def optional : Language Char :=
  1 + l

/-- It stands at least once. -/
def oneOrMore : Language Char :=
  l * l∗

/-- It stands at least once, with a text between each two. -/
def separated (separator : String) : Language Char :=
  l * (token separator * l)∗

/-! ### Names and literals -/

/-- ASCII letters, digits and underscores. -/
def word : Language Char :=
  oneOrMore (char isIdentifierRest)

/-- Decimal digits. -/
def digits : Language Char :=
  oneOrMore (char Char.isDigit)

/-- Decimal digits that do not start with zero. -/
def positive : Language Char :=
  char (fun c => c.isDigit && c ≠ '0') * (char Char.isDigit)∗

/-- The digits of a number before the point: a zero alone or no zero in front. -/
def whole : Language Char :=
  token "0" + positive

/-- A point and the digits behind it. -/
def fraction : Language Char :=
  token "." * digits

/-- An exponent with its sign. -/
def exponent : Language Char :=
  token "e" * (token "+" + token "-") * positive

/-- A number. -/
def number : Language Char :=
  optional (token "-") * (whole * optional fraction * optional exponent)

/-- A point and digits behind it that do not end in zero. -/
def trimmedFraction : Language Char :=
  token "." * (char Char.isDigit)∗ * char (fun c => c.isDigit && c ≠ '0')

/-- The digits of a number other than zero, none of which can be left out. -/
def trimmed : Language Char :=
  positive * optional trimmedFraction + token "0" * trimmedFraction

/-- A number as it is printed, zero without a sign. -/
def canonical : Language Char :=
  token "0" + optional (token "-") * (trimmed * optional exponent)

/-- A text between double quotes, a backslash in front of each double quote and each backslash. -/
def quoted : Language Char :=
  token "\"" * (char (!Text.needsEscape ·) + token "\\" * char Text.needsEscape)∗ * token "\""

/-! ### Patterns and predicates -/

/-- A name, and a label or a type. -/
def tagged : Language Char :=
  word * optional (token ":" * word)

/-- The pattern of a node. -/
def node : Language Char :=
  token "(" * tagged * token ")"

/-- The pattern of a relationship between its two nodes. -/
def relationship : Language Char :=
  node * token "-[" * tagged * token "]->" * node

/-- A property of a node. -/
def access : Language Char :=
  word * token "." * word

/-- A property of a node, cast. -/
def castTo (cast : Cast) : Language Char :=
  token cast.text * token "(" * access * token ")"

/-- The comparisons by size. -/
def order : Language Char :=
  token ">" + token "<" + token ">=" + token "<="

/-- The comparisons of texts. -/
def textual : Language Char :=
  token "CONTAINS" + token "STARTS WITH" + token "ENDS WITH"

/-- Equality and its negation. -/
def equality : Language Char :=
  token "=" + token "<>"

/-- Two operands of an operator. -/
def comparison (left operator right : Language Char) : Language Char :=
  left * token " " * operator * token " " * right

/-- A comparison with a literal. -/
def predicate : Language Char :=
  comparison (castTo .toInteger + castTo .toFloat) order number
    + comparison (castTo .toText) textual quoted
    + comparison access equality number
    + comparison access (order + equality) quoted

/-! ### Clauses and queries -/

/-- A match of patterns. -/
def matching (patterns : Language Char) : Language Char :=
  token "MATCH " * patterns

/-- An optional match of patterns. -/
def optionalMatching (patterns : Language Char) : Language Char :=
  token "OPTIONAL MATCH " * patterns

/-- A hand-off. -/
def handOff : Language Char :=
  token "WITH " * separated word ", "

/-- A limit. -/
def limit : Language Char :=
  token "LIMIT " * digits

/-- A filter. -/
def filter : Language Char :=
  token "WHERE " * separated predicate " AND "

/-- What is returned. -/
def returning : Language Char :=
  token "RETURN " * separated word ", "

/-- What separates two clauses. -/
def gap : Layout → Language Char
  | .singleLine => token " "
  | .multiline => token "\n"

variable (layout : Layout)

/-- A clause with another one behind it. -/
def line (clause : Language Char) : Language Char :=
  clause * gap layout

/-- The match clauses of a query that limits rows, at least one of them: a match of all kinds of
patterns, an optional match behind a hand-off, and matches of one relationship each. -/
def groups : Language Char :=
  optional (line layout (matching (separated (node + relationship) ", ")))
    * optional (optional (line layout handOff)
      * line layout (optionalMatching (separated relationship ", ")))
    * (line layout (matching relationship))∗ - 1

/-- A query that limits rows. -/
def rows : Language Char :=
  groups layout * optional (line layout filter) * returning * optional (gap layout * limit)

/-- A query that limits nodes. -/
def nodes : Language Char :=
  line layout (matching node) * optional (line layout filter)
    * line layout (token "WITH " * word * token " " * limit)
    * optional (line layout (matching (separated relationship ", ")))
    * (line layout (matching relationship))∗
    * (line layout (optionalMatching relationship))∗
    * optional (line layout filter) * returning

/-! ### Membership -/

variable {l} {layout} {α : Type} {s : String} {a b cs : List Char}

theorem toList_mem_token (s : String) : s.toList ∈ token s := rfl

theorem nil_mem_optional : [] ∈ optional l := .inl rfl

theorem mem_optional (h : a ∈ l) : a ∈ optional l := .inr h

/-- A repetition goes on from the front. -/
theorem append_mem_kstar (ha : a ∈ l) (hb : b ∈ l∗) : a ++ b ∈ l∗ :=
  (mul_kstar_le_kstar : l * l∗ ≤ l∗) (Language.append_mem_mul ha hb)

/-- Texts of a language one after the other. -/
theorem flatMap_mem_kstar {f : α → List Char} :
    ∀ {xs : List α}, (∀ x ∈ xs, f x ∈ l) → xs.flatMap f ∈ l∗
  | [], _ => Language.nil_mem_kstar l
  | x :: xs, h => by
      have hrest := flatMap_mem_kstar fun y hy => h y (List.mem_cons_of_mem x hy)
      exact append_mem_kstar (h x (List.mem_cons_self ..)) hrest

/-- Characters of a class one after the other. -/
theorem mem_kstar_char {p : Char → Bool} (h : ∀ c ∈ cs, p c = true) : cs ∈ (char p)∗ := by
  have hflat : cs.flatMap (fun c => [c]) ∈ (char p)∗ :=
    flatMap_mem_kstar fun c hc => ⟨c, h c hc, rfl⟩
  rwa [List.flatMap_singleton'] at hflat

/-- One or more characters of a kind: a text of them that is not empty. -/
theorem mem_oneOrMore_char {p : Char → Bool} (hne : cs ≠ []) (h : ∀ c ∈ cs, p c = true) :
    cs ∈ oneOrMore (char p) := by
  obtain ⟨c, cs, rfl⟩ := List.exists_cons_of_ne_nil hne
  have hrest : cs ∈ (char p)∗ := mem_kstar_char fun x hx => h x (List.mem_cons_of_mem c hx)
  have hfirst : [c] ∈ char p := ⟨c, h c (List.mem_cons_self ..), rfl⟩
  exact Language.append_mem_mul hfirst hrest

/-- Texts joined by a separator. -/
theorem intercalate_mem_separated {f : α → List Char} {xs : List α} (hne : xs ≠ [])
    (h : ∀ x ∈ xs, f x ∈ l) : s.toList.intercalate (xs.map f) ∈ separated l s := by
  have hjoin : ∀ (x : α) (xs : List α),
      s.toList.intercalate ((x :: xs).map f) = f x ++ xs.flatMap fun y => s.toList ++ f y := by
    intro x xs
    induction xs generalizing x with
    | nil => simp
    | cons y ys ih =>
        rw [List.map_cons, List.map_cons, List.intercalate_cons_cons, ← List.map_cons, ih y]
        simp
  obtain ⟨x, xs, rfl⟩ := List.exists_cons_of_ne_nil hne
  rw [hjoin]
  refine Language.append_mem_mul (h x (List.mem_cons_self ..)) (flatMap_mem_kstar fun y hy => ?_)
  exact Language.append_mem_mul (toList_mem_token s) (h y (List.mem_cons_of_mem x hy))

/-- Each group of match clauses may be missing, but not all three. -/
theorem append_mem_groups {c : List Char}
    (ha : a ∈ optional (line layout (matching (separated (node + relationship) ", "))))
    (hb : b ∈ optional (optional (line layout handOff)
      * line layout (optionalMatching (separated relationship ", "))))
    (hc : c ∈ (line layout (matching relationship))∗) (hne : a ++ b ++ c ≠ []) :
    a ++ b ++ c ∈ groups layout :=
  (Language.mem_sub ..).mpr ⟨Language.append_mem_mul (Language.append_mem_mul ha hb) hc, hne⟩

/-! ### Inclusion -/

variable {m : Language Char}

/-- What is optional may be left out. -/
theorem one_le_optional : 1 ≤ optional l := fun _ => .inl

/-- What is optional may be there. -/
theorem le_optional : l ≤ optional l := fun _ => mem_optional

theorem optional_mono (h : l ≤ m) : optional l ≤ optional m := add_le_add_right h 1

/-- A zero alone is a whole part. -/
theorem token_zero_le_whole : token "0" ≤ whole := fun _ => .inl

theorem positive_le_whole : positive ≤ whole := fun _ => .inr

/-- A fraction without a zero at its end is a fraction. -/
theorem trimmedFraction_le_fraction : trimmedFraction ≤ fraction := by
  have hdigit : char (fun c => c.isDigit && c ≠ '0') ≤ char Char.isDigit := by
    rintro cs ⟨c, hc, rfl⟩
    exact ⟨c, (Bool.and_eq_true_iff.mp hc).1, rfl⟩
  calc trimmedFraction
      = token "." * ((char Char.isDigit)∗ * char fun c => c.isDigit && c ≠ '0') := mul_assoc ..
    _ ≤ token "." * ((char Char.isDigit)∗ * char Char.isDigit) := by gcongr
    _ = fraction := by rw [Language.mul_self_kstar_comm]; rfl

/-- A number as it is printed is a number of the grammar. -/
theorem canonical_le_number : canonical ≤ number := by
  have hfraction := trimmedFraction_le_fraction
  have htrimmed : trimmed ≤ whole * optional fraction :=
    add_le (mul_le_mul' positive_le_whole (optional_mono hfraction))
      (mul_le_mul' token_zero_le_whole (hfraction.trans le_optional))
  refine add_le ?_ (mul_le_mul' le_rfl (mul_le_mul' htrimmed le_rfl))
  calc token "0" = 1 * (token "0" * 1 * 1) := by rw [one_mul, mul_one, mul_one]
    _ ≤ number := mul_le_mul' one_le_optional
        (mul_le_mul' (mul_le_mul' token_zero_le_whole one_le_optional) one_le_optional)

end GraphQuery.Grammar
