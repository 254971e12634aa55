import TreeSchema.Proofs.PrintedLine
/-!
# Schemas are read as they are printed

A schema is printed as a text node by node: a header, the declarations, the nodes inside and a
closing brace. `Schema.Printable` says what a schema has to be for this: nodes stand under their
names, names are names, declarations are lines that are nothing but declarations, and an enum holds
nothing but declarations.

`ofText_print_roundTrip` says that every schema that is read from a text is printable, and that
reading a printed schema gives it back, but for the numbers of the lines that open its nodes.
-/
namespace TreeSchema

open Text

/-! ## Printable schemas -/

/-- `n` stands under `key` among the nodes or inside one of them, at any depth. -/
inductive Node.Under : List (String × Node) → String → Node → Prop
  | here {nodes : List (String × Node)} {key : String} {n : Node} :
    (key, n) ∈ nodes → Node.Under nodes key n
  | inside {nodes : List (String × Node)} {key outer : String} {n m : Node} :
    (outer, m) ∈ nodes → Node.Under m.nested key n → Node.Under nodes key n

/-- A declaration is one, and a `oneof` has a name and variants that are declarations. -/
def Member.Printable : String × Member → Prop
  | (text, .plain) => IsDeclaration text.toList
  | (name, .oneof variants) => isName name.toList = true ∧ ∀ v ∈ variants, IsDeclaration v.toList

/-- What a node under a key has to be, apart from the nodes inside it. Entries have distinct
keys. -/
structure Node.Printable (key : String) (n : Node) : Prop where
  key_eq : n.name = key
  isName : isName n.name.toList = true
  members : ∀ x ∈ n.fields, Member.Printable x
  distinctFields : (Entries.keys n.fields).Nodup
  distinctNested : (Entries.keys n.nested).Nodup
  enumNested : n.kind = .enum → n.nested = []
  enumPlain : n.kind = .enum → ∀ x ∈ n.fields, x.2 = .plain

/-- The nodes and all nodes inside them are printable. -/
def Node.AllPrintable (nodes : List (String × Node)) : Prop :=
  ∀ key n, Node.Under nodes key n → n.Printable key

structure Schema.Printable (s : Schema) : Prop where
  nodes : Node.AllPrintable s.nodes
  distinct : (Entries.keys s.nodes).Nodup

namespace Node

theorem not_under_nil {key : String} {n : Node} : ¬ Under [] key n := by
  intro h
  cases h with
  | here h => cases h
  | inside h _ => cases h

theorem Under.mono {a b : List (String × Node)} {key : String} {n : Node} (h : Under a key n)
    (hab : a ⊆ b) : Under b key n := by
  cases h with
  | here hm => exact .here (hab hm)
  | inside hm hn => exact .inside (hab hm) hn

theorem under_append {a b : List (String × Node)} {key : String} {n : Node}
    (h : Under (a ++ b) key n) : Under a key n ∨ Under b key n := by
  cases h with
  | here hm => exact (List.mem_append.1 hm).imp .here .here
  | inside hm hn => exact (List.mem_append.1 hm).imp (.inside · hn) (.inside · hn)

theorem under_singleton {key k : String} {n m : Node} (h : Under [(key, n)] k m) :
    (k = key ∧ m = n) ∨ Under n.nested k m := by
  cases h with
  | here hm =>
    cases List.mem_singleton.1 hm
    exact .inl ⟨rfl, rfl⟩
  | inside hm hn =>
    cases List.mem_singleton.1 hm
    exact .inr hn

end Node

namespace Node.AllPrintable

variable {a b nodes : List (String × Node)} {key : String} {n : Node}

theorem nil : AllPrintable [] := fun _ _ h => (not_under_nil h).elim

theorem mono (h : AllPrintable b) (hab : a ⊆ b) : AllPrintable a :=
  fun k m hm => h k m (hm.mono hab)

theorem append (ha : AllPrintable a) (hb : AllPrintable b) : AllPrintable (a ++ b) := by
  intro k m hm
  rcases under_append hm with hm | hm
  · exact ha k m hm
  · exact hb k m hm

theorem singleton (hn : n.Printable key) (h : AllPrintable n.nested) :
    AllPrintable [(key, n)] := by
  intro k m hm
  rcases under_singleton hm with ⟨rfl, rfl⟩ | hm
  · exact hn
  · exact h k m hm

theorem node (h : AllPrintable nodes) (hm : (key, n) ∈ nodes) : n.Printable key :=
  h key n (.here hm)

theorem inner (h : AllPrintable nodes) (hm : (key, n) ∈ nodes) : AllPrintable n.nested :=
  fun k m hn => h k m (.inside hm hn)

end Node.AllPrintable

/-! ## Printing -/

/-- The lines of a declaration or a `oneof`. -/
def Member.lineKinds : String × Member → List LineKind
  | (text, .plain) => [.declaration text]
  | (name, .oneof variants) =>
    .openBlock "oneof" name :: variants.map .declaration ++ [.closeBlock]

mutual

/-- The lines of a node: a header, its declarations, the nodes inside it and a closing brace. -/
def Node.lineKinds : Node → List LineKind
  | ⟨name, _, kind, nested, fields⟩ =>
    .openBlock kind.keyword name :: (fields.flatMap Member.lineKinds ++ Node.lineKindsAll nested) ++
      [.closeBlock]

def Node.lineKindsAll : List (String × Node) → List LineKind
  | [] => []
  | (_, n) :: rest => n.lineKinds ++ Node.lineKindsAll rest

end

/-- The text of a schema, the line with index `i` indented by `width i` spaces. -/
def Schema.print (width : Nat → Nat) (s : Schema) : String :=
  String.ofList (layOut width ((Node.lineKindsAll s.nodes).map LineKind.text))

mutual

/-- A node without the numbers of the lines that open it and the nodes inside it. -/
def Node.unplaced : Node → Node
  | ⟨name, _, kind, nested, fields⟩ => ⟨name, 0, kind, Node.unplacedAll nested, fields⟩

def Node.unplacedAll : List (String × Node) → List (String × Node)
  | [] => []
  | (key, n) :: rest => (key, n.unplaced) :: Node.unplacedAll rest

end

/-- A schema without the numbers of the lines that open its nodes. -/
def Schema.unplaced (s : Schema) : Schema := ⟨Node.unplacedAll s.nodes⟩

/-! ## What is read is printable -/

theorem DeclarationLines.printable {ls : List Line} {ts : List String} (h : DeclarationLines ls ts)
    (hp : ∀ l ∈ ls, l.kind.Printable) : ∀ t ∈ ts, IsDeclaration t.toList := by
  induction h with
  | nil => simp
  | @cons l t ls ts hl _ ih =>
    intro u hu
    rcases List.mem_cons.1 hu with rfl | hu
    · have := hp l List.mem_cons_self
      rw [hl] at this
      exact this
    · exact ih (fun l hl => hp l (List.mem_cons_of_mem _ hl)) u hu

theorem isName_of_openBlock {l : Line} {keyword name : String} (h : l.kind.Printable)
    (hl : l.kind = .openBlock keyword name) : isName name.toList = true := by
  rw [hl] at h
  exact h.2

theorem OneofLines.printable {ls : List Line} {item : Item} (h : OneofLines ls item)
    (hp : ∀ l ∈ ls, l.kind.Printable) :
    item.node? = none ∧ ∀ x ∈ item.member?, Member.Printable x := by
  cases h with
  | oneof ho hts _ =>
    refine ⟨rfl, ?_⟩
    rintro x ⟨⟩
    exact ⟨isName_of_openBlock (hp _ (by simp)) ho, hts.printable fun l hl => hp l (by simp [hl])⟩

mutual

theorem NodeLines.printable : ∀ {ls : List Line} {item : Item}, NodeLines ls item →
    (∀ l ∈ ls, l.kind.Printable) →
    item.member? = none ∧ Node.AllPrintable item.node?.toList
  | _, _, @NodeLines.message o c name ls body ho hbody _, hp => by
    refine ⟨rfl, ?_⟩
    obtain ⟨hn, hm⟩ := hbody.printable fun l hl => hp l (by simp [hl])
    refine .singleton ?_ (hn.mono fun _ => Entries.mem_of_mem_ofList)
    exact {
      key_eq := rfl
      isName := isName_of_openBlock (hp o (by simp)) ho
      members := fun x hx => hm x (Entries.mem_of_mem_ofList hx)
      distinctFields := Entries.nodup_keys_ofList _
      distinctNested := Entries.nodup_keys_ofList _
      enumNested := nofun
      enumPlain := nofun }
  | _, _, @NodeLines.enum o c name ls ts ho hts _, hp => by
    refine ⟨rfl, ?_⟩
    have hd := hts.printable fun l hl => hp l (by simp [hl])
    have hm : ∀ x ∈ Entries.ofList (ts.map (·, Member.plain)), x.1 ∈ ts ∧ x.2 = .plain := by
      intro x hx
      obtain ⟨t, ht, rfl⟩ := List.mem_map.1 (Entries.mem_of_mem_ofList hx)
      exact ⟨ht, rfl⟩
    refine .singleton ?_ .nil
    exact {
      key_eq := rfl
      isName := isName_of_openBlock (hp o (by simp)) ho
      members := by
        rintro ⟨t, member⟩ hx
        obtain ⟨ht, rfl⟩ := hm _ hx
        exact hd t ht
      distinctFields := Entries.nodup_keys_ofList _
      distinctNested := List.nodup_nil
      enumNested := fun _ => rfl
      enumPlain := fun _ x hx => (hm x hx).2 }

theorem BodyLines.printable : ∀ {ls : List Line} {items : List Item}, BodyLines ls items →
    (∀ l ∈ ls, l.kind.Printable) →
    Node.AllPrintable (Item.nodes items) ∧
      ∀ x ∈ items.filterMap Item.member?, Member.Printable x
  | _, _, .nil, _ => ⟨.nil, by simp⟩
  | _, _, @BodyLines.declaration l t ls items hl h, hp => by
    obtain ⟨hn, hm⟩ := h.printable fun l hl => hp l (by simp [hl])
    refine ⟨hn, ?_⟩
    have hd := hp l (by simp)
    rw [hl] at hd
    simp only [List.filterMap_cons, Item.member?, List.mem_cons]
    rintro x (rfl | hx)
    · exact hd
    · exact hm x hx
  | _, _, @BodyLines.node ns ls item items hni h, hp => by
    obtain ⟨hn, hm⟩ := h.printable fun l hl => hp l (by simp [hl])
    obtain ⟨hnone, hi⟩ := hni.printable fun l hl => hp l (by simp [hl])
    exact ⟨hi.append hn, by simpa [List.filterMap_cons, hnone] using hm⟩
  | _, _, @BodyLines.oneof os ls item items ho h, hp => by
    obtain ⟨hn, hm⟩ := h.printable fun l hl => hp l (by simp [hl])
    obtain ⟨hnone, hi⟩ := ho.printable fun l hl => hp l (by simp [hl])
    refine ⟨by simpa [Item.nodes, hnone] using hn, ?_⟩
    intro x hx
    rw [← List.singleton_append, List.filterMap_append, List.mem_append] at hx
    rcases hx with hx | hx
    · exact hi x (by simpa using hx)
    · exact hm x hx

end

theorem FileLines.printable {ls : List Line} {items : List Item} (h : FileLines ls items)
    (hp : ∀ l ∈ ls, l.kind.Printable) : Node.AllPrintable (Item.nodes items) := by
  induction h with
  | nil => exact .nil
  | statement _ _ _ ih => exact ih fun l hl => hp l (by simp [hl])
  | node hn _ ih =>
    obtain ⟨-, hi⟩ := hn.printable fun l hl => hp l (by simp [hl])
    exact hi.append (ih fun l hl => hp l (by simp [hl]))

theorem Schema.printable_of_ofText {text : String} {s : Schema}
    (h : (ofText text).result = .ok s) : s.Printable := by
  obtain ⟨ls, hls, hs⟩ := ofText_eq_ok.1 h
  obtain ⟨items, hf⟩ := fileLines_of_ofLines hs
  -- lines that do not count are not printable, so only those of the derivation are asked
  have hp := Line.printable_of_classifyFrom (fun _ => newline_not_mem_of_mem_lines) hls
  rw [ofLines_of_fileLines hf] at hs
  cases hs
  exact ⟨(hf.printable hp).mono fun _ => Entries.mem_of_mem_ofList, Entries.nodup_keys_ofList _⟩

/-! ## What is printed is read back -/

theorem Member.printable_lineKinds {x : String × Member} (h : Member.Printable x) :
    ∀ k ∈ Member.lineKinds x, k.Printable := by
  obtain ⟨name, member⟩ := x
  cases member with
  | plain =>
    intro k hk
    rw [Member.lineKinds, List.mem_singleton] at hk
    rw [hk]
    exact h
  | oneof variants =>
    obtain ⟨hn, hv⟩ := h
    intro k hk
    simp only [Member.lineKinds, List.cons_append, List.mem_cons, List.mem_append, List.mem_map,
      List.not_mem_nil, or_false] at hk
    rcases hk with rfl | ⟨v, hm, rfl⟩ | rfl
    · exact ⟨by decide, hn⟩
    · exact hv v hm
    · trivial

mutual

theorem Node.printable_lineKinds : ∀ {n : Node} {key : String}, n.Printable key →
    Node.AllPrintable n.nested → ∀ k ∈ n.lineKinds, k.Printable
  | ⟨name, line, kind, nested, fields⟩, key, h, hu => by
    intro k hk
    simp only [Node.lineKinds, List.cons_append, List.mem_cons, List.mem_append, List.mem_flatMap,
      List.not_mem_nil, or_false] at hk
    rcases hk with rfl | (⟨x, hx, hk⟩ | hk) | rfl
    · exact ⟨by cases kind <;> decide, h.isName⟩
    · exact Member.printable_lineKinds (h.members x hx) k hk
    · exact Node.printable_lineKindsAll hu k hk
    · trivial

theorem Node.printable_lineKindsAll : ∀ {nodes : List (String × Node)},
    Node.AllPrintable nodes →
    ∀ k ∈ Node.lineKindsAll nodes, k.Printable
  | [], _ => by simp [Node.lineKindsAll]
  | (key, n) :: rest, hu => by
    intro k hk
    simp only [Node.lineKindsAll, List.mem_append] at hk
    rcases hk with hk | hk
    · exact Node.printable_lineKinds (hu.node List.mem_cons_self) (hu.inner List.mem_cons_self) k hk
    · exact Node.printable_lineKindsAll (hu.mono (List.subset_cons_self _ _)) k hk

end

theorem Line.counts_of_printable {l : Line} (h : l.kind.Printable) : l.counts = true := by
  simp only [counts]
  split
  · rename_i hk
    rw [hk] at h
    exact h.elim
  · rename_i hk
    rw [hk] at h
    exact h.elim
  · rfl
  · rfl
  · rfl

theorem declarationLines_of_map {ls : List Line} {ts : List String}
    (h : ls.map Line.kind = ts.map .declaration) : DeclarationLines ls ts := by
  induction ts generalizing ls with
  | nil =>
    rw [List.map_eq_nil_iff.1 h]
    exact .nil
  | cons t ts ih =>
    obtain ⟨l, ls, rfl, hl, hls⟩ := List.map_eq_cons_iff.1 h
    exact .cons hl (ih hls)

/-- Lines between an opening and a closing one. -/
theorem exists_block {ls : List Line} {first last : LineKind} {kinds : List LineKind}
    (h : ls.map Line.kind = first :: kinds ++ [last]) :
    ∃ o mid c, ls = o :: mid ++ [c] ∧ o.kind = first ∧ mid.map Line.kind = kinds ∧
      c.kind = last := by
  obtain ⟨l₁, l₂, rfl, h₁, h₂⟩ := List.map_eq_append_iff.1 h
  obtain ⟨o, mid, rfl, ho, hm⟩ := List.map_eq_cons_iff.1 h₁
  obtain ⟨c, rest, rfl, hc, hr⟩ := List.map_eq_cons_iff.1 h₂
  rw [List.map_eq_nil_iff.1 hr]
  exact ⟨o, mid, c, rfl, ho, hm, hc⟩

theorem Member.bodyLines {ls : List Line} {x : String × Member}
    (h : ls.map Line.kind = Member.lineKinds x) :
    ∃ item : Item, BodyLines ls [item] ∧ item.member? = some x ∧ item.node? = none := by
  obtain ⟨name, member⟩ := x
  cases member with
  | plain =>
    obtain ⟨l, rest, rfl, hl, hr⟩ := List.map_eq_cons_iff.1 h
    rw [List.map_eq_nil_iff.1 hr]
    exact ⟨.declaration name, .declaration hl .nil, rfl, rfl⟩
  | oneof variants =>
    obtain ⟨o, mid, c, rfl, ho, hm, hc⟩ := exists_block h
    have hol := OneofLines.oneof ho (declarationLines_of_map hm) hc
    exact ⟨.oneof name variants, by simpa using BodyLines.oneof hol .nil, rfl, rfl⟩

theorem Member.bodyLinesAll {ls : List Line} {fields : List (String × Member)}
    (h : ls.map Line.kind = fields.flatMap Member.lineKinds) :
    ∃ items, BodyLines ls items ∧ items.filterMap Item.member? = fields ∧
      Item.nodes items = [] := by
  induction fields generalizing ls with
  | nil =>
    rw [List.map_eq_nil_iff.1 h]
    exact ⟨[], .nil, rfl, rfl⟩
  | cons x fields ih =>
    rw [List.flatMap_cons] at h
    obtain ⟨ms, ls, rfl, hms, hls⟩ := List.map_eq_append_iff.1 h
    obtain ⟨item, hb, hm, hn⟩ := Member.bodyLines hms
    obtain ⟨items, hbs, hmem, hnodes⟩ := ih hls
    refine ⟨item :: items, hb.append hbs, ?_, ?_⟩
    · rw [List.filterMap_cons_some hm, hmem]
    · rw [Item.nodes, hn, hnodes]
      rfl

/-- The lines of an enum are declarations. -/
theorem Member.lineKinds_of_plain {fields : List (String × Member)}
    (h : ∀ x ∈ fields, x.2 = .plain) :
    fields.flatMap Member.lineKinds = (Entries.keys fields).map .declaration ∧
      fields = (Entries.keys fields).map (·, .plain) := by
  induction fields with
  | nil => exact ⟨rfl, rfl⟩
  | cons x fields ih =>
    obtain ⟨text, member⟩ := x
    cases h (text, member) List.mem_cons_self
    obtain ⟨hk, hf⟩ := ih fun x hx => h x (List.mem_cons_of_mem _ hx)
    refine ⟨?_, ?_⟩
    · rw [List.flatMap_cons, hk]
      rfl
    · conv => lhs; rw [hf]
      rfl

theorem Node.keys_unplacedAll (nodes : List (String × Node)) :
    Entries.keys (Node.unplacedAll nodes) = Entries.keys nodes := by
  induction nodes with
  | nil => rfl
  | cons x nodes ih =>
    simp only [Entries.keys] at ih
    simp only [Node.unplacedAll, Entries.keys, List.map_cons, ih]

theorem Node.ofList_of_unplacedAll {nodes read : List (String × Node)}
    (hn : (Entries.keys nodes).Nodup) (h : Node.unplacedAll read = Node.unplacedAll nodes) :
    Entries.ofList read = read := by
  apply Entries.ofList_of_nodup
  rw [← Node.keys_unplacedAll read, h, Node.keys_unplacedAll]
  exact hn

mutual

/-- The lines of a printed node derive an item that means the node, but for the numbers of lines. -/
theorem Node.nodeLines : ∀ {n : Node} {key : String}, n.Printable key →
    Node.AllPrintable n.nested → ∀ {ls : List Line}, ls.map Line.kind = n.lineKinds →
    ∃ item m, NodeLines ls item ∧ item.member? = none ∧ item.node? = some (key, m) ∧
      m.unplaced = n.unplaced
  | ⟨name, line, .message, nested, fields⟩, key, h, hu, ls, hls => by
    cases h.key_eq
    obtain ⟨o, mid, c, rfl, ho, hm, hc⟩ := exists_block hls
    obtain ⟨fs, ns, rfl, hfs, hns⟩ := List.map_eq_append_iff.1 hm
    obtain ⟨members, hbm, hmem, hnone⟩ := Member.bodyLinesAll hfs
    obtain ⟨nodes, -, hbn, hplain, hun⟩ := Node.nodeLinesAll hu hns
    refine ⟨.message name o.line (members ++ nodes), _, .message ho (hbm.append hbn) hc, rfl,
      rfl, ?_⟩
    -- the keys are distinct, so nothing that is printed is written over when it is read
    rw [Item.nodes_append, hnone, List.nil_append, List.filterMap_append, hmem, hplain,
      List.append_nil, Entries.ofList_of_nodup h.distinctFields,
      Node.ofList_of_unplacedAll h.distinctNested hun, Node.unplaced, hun, Node.unplaced]
  | ⟨name, line, .enum, nested, fields⟩, key, h, hu, ls, hls => by
    cases h.key_eq
    obtain ⟨hk, hf⟩ := Member.lineKinds_of_plain (h.enumPlain rfl)
    have hnested : nested = [] := h.enumNested rfl
    obtain ⟨o, mid, c, rfl, ho, hm, hc⟩ := exists_block hls
    rw [hnested, Node.lineKindsAll, List.append_nil, hk] at hm
    refine ⟨.enum name o.line (Entries.keys fields), _, .enum ho (declarationLines_of_map hm) hc,
      rfl, rfl, ?_⟩
    rw [← hf, Entries.ofList_of_nodup h.distinctFields, Node.unplaced, Node.unplaced, hnested]

/-- The same for several nodes, which may stand in a file or in the body of a message. -/
theorem Node.nodeLinesAll : ∀ {nodes : List (String × Node)},
    Node.AllPrintable nodes →
    ∀ {ls : List Line}, ls.map Line.kind = Node.lineKindsAll nodes →
    ∃ items, FileLines ls items ∧ BodyLines ls items ∧ items.filterMap Item.member? = [] ∧
      Node.unplacedAll (Item.nodes items) = Node.unplacedAll nodes
  | [], _, ls, hls => by
    rw [List.map_eq_nil_iff.1 hls]
    exact ⟨[], .nil, .nil, rfl, rfl⟩
  | (key, n) :: rest, hu, ls, hls => by
    obtain ⟨ns, ls, rfl, hns, hls⟩ := List.map_eq_append_iff.1 hls
    obtain ⟨item, m, hn, hmem, hnode, hun⟩ :=
      Node.nodeLines (hu.node List.mem_cons_self) (hu.inner List.mem_cons_self) hns
    obtain ⟨items, hf, hb, hmems, huns⟩ :=
      Node.nodeLinesAll (hu.mono (List.subset_cons_self _ _)) hls
    refine ⟨item :: items, .node hn hf, .node hn hb, ?_, ?_⟩
    · rw [List.filterMap_cons_none hmem, hmems]
    · simp only [Item.nodes, hnode, Option.toList_some, List.singleton_append, Node.unplacedAll,
        hun, huns]

end

namespace Schema

theorem ofText_print {s : Schema} (h : s.Printable) (width : Nat → Nat) :
    ∃ s', (ofText (s.print width)).result = .ok s' ∧ s'.unplaced = s.unplaced := by
  have hk := Node.printable_lineKindsAll h.nodes
  obtain ⟨ls, hls, hkinds⟩ := Line.classifyFrom_layOut 1 width hk
  have hcounts : ls.filter Line.counts = ls := by
    refine List.filter_eq_self.2 fun l hl => Line.counts_of_printable (hk l.kind ?_)
    rw [← hkinds]
    exact List.mem_map_of_mem hl
  obtain ⟨items, hf, -, -, hun⟩ := Node.nodeLinesAll h.nodes hkinds
  refine ⟨ofItems items, ofText_eq_ok.2 ⟨ls, ?_, ofLines_of_fileLines (by rwa [hcounts])⟩, ?_⟩
  · rw [print, Line.ofText, String.toList_ofList]
    exact hls
  · rw [ofItems, Node.ofList_of_unplacedAll h.distinct hun, unplaced, unplaced, hun]

/-- **Round trip.** A schema that is read is printable, and reading a printable schema, printed with
any indentation, gives it back but for the numbers of the lines that open its nodes. -/
theorem ofText_print_roundTrip :
    (∀ text s, (ofText text).result = .ok s → s.Printable) ∧
      ∀ s : Schema, s.Printable → ∀ width,
        ∃ s', (ofText (s.print width)).result = .ok s' ∧ s'.unplaced = s.unplaced :=
  ⟨fun _ _ => printable_of_ofText, fun _ h width => ofText_print h width⟩

/-- A message with a `oneof` and an enum inside it, whose value has a brace in its comment. -/
theorem ofText_print_roundTrip_nested :
    let text := "message Tree\x7b\nenum Color\x7b\nRED; // \x7b\n\x7d\n" ++
      "oneof kind\x7b\n Leaf leaf;\n\x7d\n\x7d"
    let s : Schema := ⟨[("Tree", ⟨"Tree", 1, .message,
      [("Color", ⟨"Color", 2, .enum, [], [("RED; // \x7b", .plain)]⟩)],
      [("kind", .oneof ["Leaf leaf;"])]⟩)]⟩
    (ofText text).result = .ok s ∧ s.Printable ∧
      ∃ s', (ofText (s.print fun i => i % 3)).result = .ok s' ∧ s'.unplaced = s.unplaced := by
  intro text s
  have h : (ofText text).result = .ok s := by subst text s; rfl
  have hp := ofText_print_roundTrip.1 text s h
  exact ⟨h, hp, ofText_print_roundTrip.2 s hp _⟩

end Schema

end TreeSchema
