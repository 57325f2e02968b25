import GraphQuery.Compile.Read
import GraphQuery.Diagram.Wire
import GraphQuery.Proofs.Respelling

/-!
# Proofs — the spellings of a diagram

The spellings of a diagram and of its parts: the fields in declaration order, what may be left out,
and that the nodes, the relationships and the conditions may be respelled where they are.  Each
fits the record that is decoded.

**However a diagram is written, it is decoded to the same diagram**
(`respelled_documents_decode_alike`), and so its query is the same.
-/

namespace GraphQuery

open Json

/-! ### The spellings of a diagram -/

/-- How a node may be written. -/
def Node.spelling : Spelling where
  names := ["id", "label", "alias"]
  idle := [("label", .null)]
  part _ _ _ := False

/-- How a relationship may be written. -/
def Relationship.spelling : Spelling where
  names := ["id", "type", "from", "to", "alias", "matchType", "enabled"]
  idle := [("type", .null), ("alias", .null), ("matchType", .null), ("enabled", .bool true)]
  part _ _ _ := False

/-- How a condition may be written. -/
def Condition.spelling : Spelling where
  names := ["id", "type", "nodeId", "property", "operator", "value"]
  idle := [("nodeId", .null), ("property", .null), ("operator", .null), ("value", .null)]
  part _ _ _ := False

/-- How a diagram may be written. -/
def Diagram.spelling : Spelling where
  names := ["nodes", "relationships", "conditions", "returnFields", "limit", "limitMode"]
  -- a name is also written as an object with one null member
  idle := [("nodes", .array []), ("relationships", .array []), ("conditions", .array []),
    ("returnFields", .array []), ("limit", .string ""), ("limitMode", .string "rows"),
    ("limitMode", .object [("rows", .null)])]
  part key v w :=
    key = "nodes" ∧ Node.spelling.InItem v w ∨
      key = "relationships" ∧ Relationship.spelling.InItem v w ∨
      key = "conditions" ∧ Condition.spelling.InItem v w

/-- A node may be written without a label. -/
theorem Node.fits : Node.spelling.Fits Node.record where
  fresh := ⟨⟨⟨trivial, rfl⟩, rfl⟩, rfl⟩
  names := rfl
  nodup := by decide
  idle := by
    simp [Node.spelling, Node.record, Record.required, Record.optional, Record.FallsBackOn,
      Document.ofValue, Decoder.nullable]
  part := nofun

/-- A relationship may be written without a type, a name, a way to join or a switch, which is on
then. -/
theorem Relationship.fits : Relationship.spelling.Fits Relationship.record where
  fresh := ⟨⟨⟨⟨⟨⟨⟨trivial, rfl⟩, rfl⟩, rfl⟩, rfl⟩, rfl⟩, rfl⟩, rfl⟩
  names := rfl
  nodup := by decide
  idle := by
    simp [Relationship.spelling, Relationship.record, Record.required, Record.optional,
      Record.defaulted, Record.FallsBackOn, Document.ofValue, Decoder.nullable, Decoder.bool]
  part := nofun

theorem Condition.fits : Condition.spelling.Fits Condition.record where
  fresh := ⟨⟨⟨⟨⟨⟨trivial, rfl⟩, rfl⟩, rfl⟩, rfl⟩, rfl⟩, rfl⟩
  names := rfl
  nodup := by decide
  idle := by
    simp [Condition.spelling, Condition.record, Record.required, Record.optional,
      Record.FallsBackOn, Document.ofValue, Decoder.nullable]
  part := nofun

/-- Every field of a diagram has a default, and the lists of its parts may be respelled item by
item. -/
theorem Diagram.fits : Diagram.spelling.Fits Diagram.record where
  fresh := ⟨⟨⟨⟨⟨⟨trivial, rfl⟩, rfl⟩, rfl⟩, rfl⟩, rfl⟩, rfl⟩
  names := rfl
  nodup := by decide
  idle := by
    have hlimit : ∀ origin, Decoder.string origin (.ofValue (.string "")) = .ok "" :=
      Decoder.decodes_string ""
    have hmode : ∀ origin, LimitMode.decoder origin (.ofValue (.string "rows")) = .ok .rows ∧
        LimitMode.decoder origin (.ofValue (.object [("rows", .null)])) = .ok .rows := by
      intro origin
      cases origin <;> exact ⟨rfl, rfl⟩
    simp [Diagram.spelling, Diagram.record, Record.defaulted, Record.FallsBackOn,
      Decoder.list_nil, hlimit, hmode]
  part := by
    rintro key v w (⟨rfl, h⟩ | ⟨rfl, h⟩ | ⟨rfl, h⟩) origin
    · have hlist : ∀ nodes, Decoder.list Node.decoder origin (.ofValue v) = .ok nodes →
          Decoder.list Node.decoder origin (.ofValue w) = .ok nodes :=
        fun _ => Node.fits.list_of_inItem h
      simpa [Diagram.record, Record.defaulted, Record.Admits, Decoder.Yields] using hlist
    · have hlist : ∀ relationships,
          Decoder.list Relationship.decoder origin (.ofValue v) = .ok relationships →
            Decoder.list Relationship.decoder origin (.ofValue w) = .ok relationships :=
        fun _ => Relationship.fits.list_of_inItem h
      simpa [Diagram.record, Record.defaulted, Record.Admits, Decoder.Yields] using hlist
    · have hlist : ∀ conditions,
          Decoder.list Condition.decoder origin (.ofValue v) = .ok conditions →
            Decoder.list Condition.decoder origin (.ofValue w) = .ok conditions :=
        fun _ => Condition.fits.list_of_inItem h
      simpa [Diagram.record, Record.defaulted, Record.Admits, Decoder.Yields] using hlist

/-! ### Diagrams -/

variable {v w : Value} {d : Diagram}

/-- **However a diagram is written, it is the same diagram.**  What a document is decoded to, each
document is decoded to that it can be respelled as, step by step, at the top or inside the nodes,
the relationships and the conditions.  So it has the same query. -/
theorem respelled_documents_decode_alike (h : Relation.ReflTransGen Diagram.spelling.Respelled v w)
    (origin : Origin) (hread : Diagram.decoder origin (.ofValue v) = .ok d) :
    Diagram.decoder origin (.ofValue w) = .ok d ∧
      ∀ settings, (Diagram.decoder origin (.ofValue w)).map (compile settings)
        = (Diagram.decoder origin (.ofValue v)).map (compile settings) := by
  have hlast : Diagram.decoder origin (.ofValue w) = .ok d := by
    induction h with
    | refl => exact hread
    | tail _ hstep ih => exact Diagram.fits.decodes_respelled hstep ih
  exact ⟨hlast, fun settings => by rw [hlast, hread]⟩

/-- A node in an object whose members are not in order, with a member that is no field beside it. -/
def Diagram.loose : Value :=
  .object [("zoom", .number (.integer 2)),
    ("nodes", .array [.object [("alias", .string "p"), ("id", .string "1")]])]

/-- The same in lists of all fields. -/
def Diagram.tight : Value :=
  .array [.array [.array [.string "1", .null, .string "p"]], .array [], .array [], .array [],
    .string "", .object [("rows", .null)]]

/-- The loose diagram is respelled in two places, and both are decoded to the same one. -/
theorem respelled_loose_decodes :
    Relation.ReflTransGen Diagram.spelling.Respelled Diagram.loose Diagram.tight ∧
      Diagram.decoder.ofValue Diagram.loose = .ok ⟨[⟨"1", none, "p"⟩], [], [], [], "", .rows⟩ ∧
      Diagram.decoder.ofValue Diagram.tight = .ok ⟨[⟨"1", none, "p"⟩], [], [], [], "", .rows⟩ := by
  have hnode : Node.spelling.Respelled
      (.object [("alias", .string "p"), ("id", .string "1")])
      (.array [.string "1", .null, .string "p"]) :=
    .asList (.cons (.inl rfl) (.cons (.inr ⟨by decide, by simp [Node.spelling]⟩)
      (.cons (.inl rfl) .nil)))
  have hlist : Node.spelling.InItem
      (.array [.object [("alias", .string "p"), ("id", .string "1")]])
      (.array [.array [.string "1", .null, .string "p"]]) :=
    ⟨[], _, _, [], rfl, rfl, hnode⟩
  have hidle : List.Forall₂ (fun name v => name ∉ ["nodes"] ∧ (name, v) ∈ Diagram.spelling.idle)
      ["relationships", "conditions", "returnFields", "limit", "limitMode"]
      [.array [], .array [], .array [], .string "", .object [("rows", .null)]] := by
    simp [Diagram.spelling]
  have hsteps : Relation.ReflTransGen Diagram.spelling.Respelled Diagram.loose Diagram.tight := by
    refine .head (.dropForeign _ (by decide)) (.head (.inObject (.inl ⟨rfl, hlist⟩)) ?_)
    exact .single (.asList (.cons (.inl rfl) (hidle.imp fun _ _ => .inr)))
  have hread : Diagram.decoder.ofValue Diagram.loose
      = .ok ⟨[⟨"1", none, "p"⟩], [], [], [], "", .rows⟩ := rfl
  exact ⟨hsteps, hread, (respelled_documents_decode_alike hsteps .value hread).1⟩

end GraphQuery
