import TreeSchema.Proofs.JsonReader
import TreeSchema.Schema.Dump
/-!
# The dump of a schema loses nothing

`Schema.ofDump` takes a dump apart again: the text is read as a JSON value (`JsonText.read`), and
the value as nodes and members in their order (`Schema.ofJson?`). It gets every schema back from its
dump, whatever its keys, names and declarations are (`ofDump_dump`).
-/
namespace TreeSchema

/-! ## Schemas from JSON values -/

def NodeKind.ofLabel? (label : String) : Option NodeKind :=
  [NodeKind.message, NodeKind.enum].find? (·.label == label)

def Json.text? : Json → Option String
  | .text s => some s
  | _ => none

def Member.ofJson? : Json → Option Member
  | .null => some .plain
  | .list items => (items.mapM Json.text?).map .oneof
  | _ => none

mutual

def Node.ofJson? : Json → Option Node
  | .object
      [(k₁, .text name), (k₂, .number line), (k₃, .text label), (k₄, .object nested),
        (k₅, .object fields)] =>
    if [k₁, k₂, k₃, k₄, k₅] = ["name", "line", "kind", "nested", "fields"] then do
      let kind ← NodeKind.ofLabel? label
      let nested ← Node.ofJsonAll? nested
      let fields ← fields.mapM fun (key, j) => (Member.ofJson? j).map (key, ·)
      some ⟨name, line, kind, nested, fields⟩
    else none
  | _ => none

def Node.ofJsonAll? : List (String × Json) → Option (List (String × Node))
  | [] => some []
  | (key, j) :: rest => do
    let n ← Node.ofJson? j
    let nodes ← Node.ofJsonAll? rest
    some ((key, n) :: nodes)

end

def Schema.ofJson? : Json → Option Schema
  | .object [(key, .object nodes)] =>
    if key = "nodes" then (Node.ofJsonAll? nodes).map Schema.mk else none
  | _ => none

theorem NodeKind.ofLabel?_label (kind : NodeKind) : ofLabel? kind.label = some kind := by
  cases kind <;> decide

/-- Parts that are each read back are read back together. -/
theorem mapM_map_eq_some {α β : Type} {f : α → β} {g : β → Option α} (h : ∀ a, g (f a) = some a)
    (l : List α) : (l.map f).mapM g = some l := by
  have hgf : g ∘ f = fun a => pure (id a) := funext h
  rw [List.mapM_map, hgf, List.mapM_pure, List.map_id]
  rfl

theorem Member.ofJson?_toJson (m : Member) : ofJson? m.toJson = some m := by
  cases m with
  | plain => rfl
  | oneof variants =>
    have hvariants := mapM_map_eq_some (f := Json.text) (g := Json.text?) (fun _ => rfl) variants
    rw [toJson, ofJson?, hvariants]
    rfl

mutual

theorem Node.ofJson?_toJson (n : Node) : ofJson? n.toJson = some n := by
  obtain ⟨name, line, kind, nested, fields⟩ := n
  have hnested := Node.ofJsonAll?_toJsonAll nested
  have hfields := mapM_map_eq_some (f := fun (key, member) => (key, Member.toJson member))
    (g := fun (key, j) => (Member.ofJson? j).map (key, ·))
    (fun m => by simp [Member.ofJson?_toJson]) fields
  rw [toJson, ofJson?, if_pos rfl, NodeKind.ofLabel?_label, hnested, hfields]
  rfl

theorem Node.ofJsonAll?_toJsonAll (nodes : List (String × Node)) :
    ofJsonAll? (toJsonAll nodes) = some nodes := by
  match nodes with
  | [] => simp only [toJsonAll, ofJsonAll?]
  | (key, n) :: rest =>
    rw [toJsonAll, ofJsonAll?, Node.ofJson?_toJson n, Node.ofJsonAll?_toJsonAll rest]
    rfl

end

namespace Schema

theorem ofJson?_toJson (s : Schema) : ofJson? s.toJson = some s := by
  rw [toJson, ofJson?, if_pos rfl, Node.ofJsonAll?_toJsonAll]
  rfl

/-! ## Schemas from dumps -/

/-- The schema of a dump. JSON that is no dump has another shape. -/
def ofDump (text : String) : Except JsonFault Schema :=
  match JsonText.read text.toList with
  | .error fault => .error fault
  | .ok j =>
    match ofJson? j with
    | some s => .ok s
    | none => .error .mismatched

theorem ofDump_dump (s : Schema) : ofDump s.dump = .ok s := by
  rw [ofDump, dump, JsonText.read_pretty]
  simp only [ofJson?_toJson]

/-- **The dump loses nothing.** Every schema is read back from its dump, so each dump is that of one
schema. -/
theorem dump_lossless :
    (∀ s : Schema, ofDump s.dump = .ok s) ∧ ∀ s t : Schema, s.dump = t.dump ↔ s = t := by
  refine ⟨ofDump_dump, fun s t => ⟨fun h => ?_, fun h => h ▸ rfl⟩⟩
  have hread : Except.ok s = (Except.ok t : Except JsonFault Schema) := by
    rw [← ofDump_dump s, h, ofDump_dump t]
  exact Except.ok.inj hread

end Schema

end TreeSchema
