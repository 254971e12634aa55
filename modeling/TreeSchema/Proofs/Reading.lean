import TreeSchema.Proofs.Grammar
/-!
# Reading lines is deriving them

`Schema.ofLines` reads each line once and keeps the open blocks. `ofLines_eq_ok_iff` says that it
accepts exactly the lines that the grammar derives, and that the schema is the meaning of the
derivation.

* One way (`FileLines.reads`) follows the derivation: a block that has been read to its end leaves
  the assembly with the meaning of the block added to the node around it.
* The other way (`Derived`) is an invariant of the assembly: at each moment the lines so far are a
  file up to the outermost open block, then a header and a body up to the next one, and so on. One
  line preserves it (`derived_step`), hence so does every run (`derived_run`).
-/
namespace TreeSchema

namespace Assembly

/-- Reading `ls` takes the assembly from `a` to `b`. -/
def Reads (a : Assembly) (ls : List Line) (b : Assembly) : Prop := (a.run ls).result = .ok b

theorem reads_nil (a : Assembly) : a.Reads [] a := rfl

theorem run_result_cons (a : Assembly) (l : Line) (ls : List Line) :
    (a.run (l :: ls)).result = (a.step l).result >>= fun b => (b.run ls).result := by
  simp only [run, Traced.result_bind]

theorem reads_cons_iff {a b : Assembly} {l : Line} {ls : List Line} :
    a.Reads (l :: ls) b ↔ ∃ m, (a.step l).result = .ok m ∧ m.Reads ls b := by
  unfold Reads
  rw [run_result_cons]
  cases h : (a.step l).result with
  | error e => simp [bind, Except.bind]
  | ok m => simp [bind, Except.bind]

theorem reads_append_iff {a b : Assembly} {ls ms : List Line} :
    a.Reads (ls ++ ms) b ↔ ∃ m, a.Reads ls m ∧ m.Reads ms b := by
  induction ls generalizing a with
  | nil => simp [Reads, run]
  | cons l ls ih =>
    simp only [List.cons_append, reads_cons_iff, ih]
    constructor
    · rintro ⟨m, hm, n, hn, hb⟩
      exact ⟨n, ⟨m, hm, hn⟩, hb⟩
    · rintro ⟨n, ⟨m, hm, hn⟩, hb⟩
      exact ⟨m, hm, n, hn, hb⟩

theorem Reads.append {a m b : Assembly} {ls ms : List Line} (h : a.Reads ls m)
    (h' : m.Reads ms b) : a.Reads (ls ++ ms) b := reads_append_iff.2 ⟨m, h, h'⟩

theorem Reads.cons {a m b : Assembly} {l : Line} {ls : List Line} (h : (a.step l).result = .ok m)
    (h' : m.Reads ls b) : a.Reads (l :: ls) b := reads_cons_iff.2 ⟨m, h, h'⟩

theorem Reads.run_append {a b : Assembly} {ls : List Line} (h : a.Reads ls b) (ms : List Line) :
    (a.run (ls ++ ms)).result = (b.run ms).result := by
  induction ls generalizing a with
  | nil =>
    cases h
    rfl
  | cons l ls ih =>
    obtain ⟨m, hm, hr⟩ := reads_cons_iff.1 h
    rw [List.cons_append, run_result_cons, hm]
    exact ih hr

/-- A line that does not count leaves the assembly as it is. -/
theorem step_of_not_counts {a : Assembly} {l : Line} (h : l.counts = false) :
    (a.step l).result = .ok a := by
  unfold Line.counts at h
  unfold step
  cases hk : l.kind <;> simp_all

theorem run_filter_counts (a : Assembly) (ls : List Line) :
    (a.run (ls.filter Line.counts)).result = (a.run ls).result := by
  induction ls generalizing a with
  | nil => rfl
  | cons l ls ih =>
    rw [run_result_cons]
    cases h : l.counts with
    | true =>
      rw [List.filter_cons_of_pos h, run_result_cons]
      simp only [ih]
    | false =>
      rw [List.filter_cons_of_neg (by simp [h]), ih, step_of_not_counts h]
      rfl

theorem reads_filter_counts {a b : Assembly} {ls : List Line} :
    a.Reads (ls.filter Line.counts) b ↔ a.Reads ls b := by
  rw [Reads, Reads, run_filter_counts]

end Assembly

/-! ## From a derivation to a run -/

namespace Node

/-- A node with the declarations and nodes of further items. -/
def extend (n : Node) (items : List Item) : Node :=
  { n with
    nested := Entries.insertAll n.nested (Item.nodes items)
    fields := Entries.insertAll n.fields (items.filterMap Item.member?) }

/-- A node with further plain declarations. -/
def declare (n : Node) (texts : List String) : Node :=
  { n with fields := Entries.insertAll n.fields (texts.map (·, .plain)) }

@[simp] theorem extend_nil (n : Node) : n.extend [] = n := by cases n; rfl

@[simp] theorem declare_nil (n : Node) : n.declare [] = n := by cases n; rfl

theorem extend_cons (n : Node) (item : Item) (items : List Item) :
    n.extend (item :: items) = (n.extend [item]).extend items := by
  rw [← List.singleton_append]
  simp only [extend, Item.nodes_append, List.filterMap_append, Entries.insertAll,
    List.foldl_append]

theorem extend_member (n : Node) {item : Item} {key : String} {member : Member}
    (h : item.member? = some (key, member)) : n.extend [item] = n.insertField key member := by
  have hn : item.node? = none := by cases item <;> simp_all [Item.node?, Item.member?]
  simp [extend, insertField, Item.nodes, hn, h, Entries.insertAll]

theorem extend_node (n : Node) {item : Item} {key : String} {child : Node}
    (h : item.node? = some (key, child)) : n.extend [item] = n.insertNode key child := by
  have hm : item.member? = none := by cases item <;> simp_all [Item.node?, Item.member?]
  simp [extend, insertNode, Item.nodes, hm, h, Entries.insertAll]

end Node

namespace Assembly

/-- The assembly inside open nodes, the innermost first. -/
def inside (nodes : Entries Node) : List Node → Assembly
  | [] => ⟨nodes, .top⟩
  | current :: outer => ⟨nodes, .node current outer⟩

/-- The assembly after a finished node has joined the innermost of the open ones. -/
def join (nodes : Entries Node) (n : Node) : List Node → Assembly
  | [] => ⟨nodes.insert n.name n, .top⟩
  | current :: outer => ⟨nodes, .node (current.insertNode n.name n) outer⟩

/-- A block may be opened: no node is open, or the innermost one is a message. -/
def Accepts (nodes : List Node) : Prop := ∀ n ∈ nodes.head?, n.kind = .message

section
variable {ns : Entries Node} {current : Node} {outer : List Node} {l : Line}

theorem step_open_node {keyword name : String} {kind : NodeKind}
    (hl : l.kind = .openBlock keyword name) (hk : openBlock.nodeKind? keyword = some kind)
    (ha : Accepts outer) :
    ((inside ns outer).step l).result = .ok ⟨ns, .node (.empty name kind l.line) outer⟩ := by
  have hne : keyword ≠ "oneof" := by
    rintro rfl
    simp [openBlock.nodeKind?] at hk
  cases outer with
  | nil => simp [step, hl, inside, openBlock, hne, hk]
  | cons p outer =>
    have hp : p.kind = .message := ha p (by simp)
    simp [step, hl, inside, openBlock, hne, hk, hp]

theorem step_open_oneof {name : String} (hl : l.kind = .openBlock "oneof" name)
    (hc : current.kind = .message) :
    ((⟨ns, .node current outer⟩ : Assembly).step l).result =
      .ok ⟨ns, .group ⟨name, l.line, []⟩ current outer⟩ := by
  simp [step, hl, openBlock, hc]

theorem step_close_node (hl : l.kind = .closeBlock) :
    ((⟨ns, .node current outer⟩ : Assembly).step l).result = .ok (join ns current outer) := by
  cases outer <;> simp [step, hl, close?, join]

theorem step_close_oneof {g : Group} (hl : l.kind = .closeBlock) :
    ((⟨ns, .group g current outer⟩ : Assembly).step l).result =
      .ok ⟨ns, .node (current.insertField g.name (.oneof g.variants)) outer⟩ := by
  simp [step, hl, close?]

theorem step_declaration_node {t : String} (hl : l.kind = .declaration t) :
    ((⟨ns, .node current outer⟩ : Assembly).step l).result =
      .ok ⟨ns, .node (current.insertField t .plain) outer⟩ := by
  simp [step, hl]

theorem step_declaration_oneof {g : Group} {t : String} (hl : l.kind = .declaration t) :
    ((⟨ns, .group g current outer⟩ : Assembly).step l).result =
      .ok ⟨ns, .group { g with variants := g.variants ++ [t] } current outer⟩ := by
  simp [step, hl]

theorem step_statement {t : String} (hl : l.kind = .declaration t)
    (hs : isFileStatement t = true) :
    ((⟨ns, .top⟩ : Assembly).step l).result = .ok ⟨ns, .top⟩ := by
  simp [step, hl, hs, Traced.result_bind]; rfl

end

end Assembly

open Assembly

section
variable {ns : Entries Node} {current : Node} {outer : List Node}

theorem DeclarationLines.reads_node {ls : List Line} {ts : List String}
    (h : DeclarationLines ls ts) :
    (⟨ns, .node current outer⟩ : Assembly).Reads ls ⟨ns, .node (current.declare ts) outer⟩ := by
  induction h generalizing current with
  | nil =>
    rw [Node.declare_nil]
    exact reads_nil _
  | cons hl _ ih => exact .cons (step_declaration_node hl) ih

theorem DeclarationLines.reads_oneof {g : Group} {ls : List Line} {ts : List String}
    (h : DeclarationLines ls ts) :
    (⟨ns, .group g current outer⟩ : Assembly).Reads ls
      ⟨ns, .group { g with variants := g.variants ++ ts } current outer⟩ := by
  induction h generalizing g with
  | nil =>
    rw [List.append_nil]
    exact reads_nil _
  | @cons l t ls ts hl _ ih =>
    have h := @ih { g with variants := g.variants ++ [t] }
    rw [List.append_assoc] at h
    exact .cons (step_declaration_oneof hl) h

theorem OneofLines.reads {ls : List Line} {item : Item} (h : OneofLines ls item)
    (hc : current.kind = .message) :
    (⟨ns, .node current outer⟩ : Assembly).Reads ls ⟨ns, .node (current.extend [item]) outer⟩ := by
  cases h with
  | oneof ho hts hclose =>
    refine .cons (step_open_oneof ho hc) (.append hts.reads_oneof ?_)
    exact .cons (step_close_oneof hclose) (reads_nil _)

end

mutual

/-- A node that has been read to its end has joined the node around it. -/
theorem NodeLines.reads : ∀ {ls : List Line} {item : Item}, NodeLines ls item →
    ∀ (ns : Entries Node) (outer : List Node), Accepts outer →
      ∃ n, item.node? = some (n.name, n) ∧ (inside ns outer).Reads ls (join ns n outer)
  | _, _, @NodeLines.message o _ name _ body ho hbody hclose, ns, outer, ha => by
    refine ⟨(Node.empty name .message o.line).extend body, ?_, ?_⟩
    · simp [Item.node?, Node.extend, Node.empty, Entries.insertAll_nil]
    · refine .cons (step_open_node ho rfl ha) (.append (hbody.reads ns _ outer rfl) ?_)
      exact .cons (step_close_node hclose) (reads_nil _)
  | _, _, @NodeLines.enum o _ name _ ts ho hts hclose, ns, outer, ha => by
    refine ⟨(Node.empty name .enum o.line).declare ts, ?_, ?_⟩
    · simp [Item.node?, Node.declare, Node.empty, Entries.insertAll_nil]
    · refine .cons (step_open_node ho rfl ha) (.append hts.reads_node ?_)
      exact .cons (step_close_node hclose) (reads_nil _)

/-- A body that has been read has extended the node that it stands in. -/
theorem BodyLines.reads : ∀ {ls : List Line} {items : List Item}, BodyLines ls items →
    ∀ (ns : Entries Node) (current : Node) (outer : List Node), current.kind = .message →
      (⟨ns, .node current outer⟩ : Assembly).Reads ls ⟨ns, .node (current.extend items) outer⟩
  | _, _, .nil, ns, current, outer, _ => by
    rw [Node.extend_nil]
    exact reads_nil _
  | _, _, @BodyLines.declaration _ t _ items hl h, ns, current, outer, hc => by
    have hi := current.extend_member (rfl : (Item.declaration t).member? = some (t, .plain))
    rw [Node.extend_cons, hi]
    exact .cons (step_declaration_node hl) (h.reads ns _ outer hc)
  | _, _, @BodyLines.node _ _ item items hn h, ns, current, outer, hc => by
    obtain ⟨n, hi, hr⟩ := hn.reads ns (current :: outer) (by simpa [Accepts] using hc)
    rw [Node.extend_cons, current.extend_node hi]
    exact hr.append (h.reads ns _ outer hc)
  | _, _, @BodyLines.oneof _ _ item items ho h, ns, current, outer, hc => by
    rw [Node.extend_cons]
    exact (ho.reads hc).append (h.reads ns _ outer hc)

end

theorem FileLines.reads {ns : Entries Node} {ls : List Line} {items : List Item}
    (h : FileLines ls items) :
    (⟨ns, .top⟩ : Assembly).Reads ls ⟨ns.insertAll (Item.nodes items), .top⟩ := by
  induction h generalizing ns with
  | nil => rfl
  | statement hl hs _ ih => exact .cons (step_statement hl hs) ih
  | node hn _ ih =>
    obtain ⟨n, hi, hr⟩ := hn.reads ns [] (by simp [Accepts])
    simp only [Item.nodes, hi, Option.toList_some]
    exact hr.append ih

/-! ## From a run to a derivation -/

/-- The keyword that opens a node. -/
def NodeKind.keyword : NodeKind → String
  | .message => "message"
  | .enum => "enum"

/-- Lines that may stand inside a node of a kind. -/
def InnerLines : NodeKind → List Line → Prop
  | .message, ls => ∃ items, BodyLines ls items
  | .enum, ls => ∃ texts, DeclarationLines ls texts

/-- The lines up to now, inside open nodes of these kinds, the innermost first. -/
def OpenLines : List NodeKind → List Line → Prop
  | [], ls => ∃ items, FileLines ls items
  | kind :: outer, ls => ∃ before header name inner, ls = before ++ header :: inner ∧
    header.kind = .openBlock kind.keyword name ∧ InnerLines kind inner ∧
    OpenLines outer before ∧ ∀ k ∈ outer.head?, k = .message

theorem OpenLines.inner {kind : NodeKind} {outer : List NodeKind} {ls ms : List Line}
    (h : OpenLines (kind :: outer) ls)
    (hms : ∀ inner, InnerLines kind inner → InnerLines kind (inner ++ ms)) :
    OpenLines (kind :: outer) (ls ++ ms) := by
  obtain ⟨before, header, name, inner, rfl, hh, hi, hb, ho⟩ := h
  exact ⟨before, header, name, inner ++ ms, by simp, hh, hms inner hi, hb, ho⟩

theorem OpenLines.body {outer : List NodeKind} {ls ms : List Line} {items : List Item}
    (h : OpenLines (.message :: outer) ls) (hms : BodyLines ms items) :
    OpenLines (.message :: outer) (ls ++ ms) :=
  h.inner fun _ ⟨_, hi⟩ => ⟨_, hi.append hms⟩

theorem OpenLines.declaration {kind : NodeKind} {outer : List NodeKind} {ls : List Line}
    {l : Line} {t : String} (h : OpenLines (kind :: outer) ls) (hl : l.kind = .declaration t) :
    OpenLines (kind :: outer) (ls ++ [l]) := by
  refine h.inner fun inner hi => ?_
  cases kind with
  | message =>
    obtain ⟨items, hi⟩ := hi
    exact ⟨_, hi.append (.declaration hl .nil)⟩
  | enum =>
    obtain ⟨texts, hi⟩ := hi
    exact ⟨_, hi.append (.cons hl .nil)⟩

theorem OpenLines.node {outer : List NodeKind} {ls ns : List Line} {item : Item}
    (h : OpenLines outer ls) (ho : ∀ k ∈ outer.head?, k = .message) (hn : NodeLines ns item) :
    OpenLines outer (ls ++ ns) := by
  cases outer with
  | nil =>
    obtain ⟨items, hf⟩ := h
    refine ⟨items ++ [item], hf.append ?_⟩
    simpa using FileLines.node hn .nil
  | cons k outer =>
    obtain rfl : k = .message := ho k (by simp)
    have hb : BodyLines ns [item] := by simpa using BodyLines.node hn .nil
    exact h.body hb

/-- Closing the innermost node leaves the lines inside the nodes around it. -/
theorem OpenLines.close {kind : NodeKind} {outer : List NodeKind} {ls : List Line} {c : Line}
    (h : OpenLines (kind :: outer) ls) (hc : c.kind = .closeBlock) :
    OpenLines outer (ls ++ [c]) := by
  obtain ⟨before, header, name, inner, rfl, hh, hi, hb, ho⟩ := h
  rw [List.append_assoc]
  cases kind with
  | message =>
    obtain ⟨items, hi⟩ := hi
    exact hb.node ho (.message hh hi hc)
  | enum =>
    obtain ⟨texts, hi⟩ := hi
    exact hb.node ho (.enum hh hi hc)

/-- The lines up to now are what the assembly says is open. -/
def Assembly.Derived (a : Assembly) (ls : List Line) : Prop :=
  match a.focus with
  | .top => OpenLines [] ls
  | .node current outer => OpenLines (current.kind :: outer.map Node.kind) ls
  | .group _ current outer => current.kind = .message ∧
    ∃ before header name inner texts, ls = before ++ header :: inner ∧
      header.kind = .openBlock "oneof" name ∧ DeclarationLines inner texts ∧
      OpenLines (.message :: outer.map Node.kind) before

namespace Assembly

theorem derived_close {a b : Assembly} {ls : List Line} {l : Line} (h : a.Derived ls)
    (hl : l.kind = .closeBlock) (hb : a.close? = some b) : b.Derived (ls ++ [l]) := by
  obtain ⟨ns, focus⟩ := a
  cases focus with
  | top => simp [close?] at hb
  | node current outer =>
    have hc := OpenLines.close h hl
    cases outer with
    | nil =>
      simp only [close?, Option.some.injEq] at hb
      subst hb
      exact hc
    | cons parent outer =>
      simp only [close?, Option.some.injEq] at hb
      subst hb
      exact hc
  | group g current outer =>
    simp only [close?, Option.some.injEq] at hb
    subst hb
    obtain ⟨hk, before, header, name, inner, texts, rfl, hh, hi, ho⟩ := h
    have hone : BodyLines (header :: inner ++ [l]) [.oneof name texts] := by
      simpa using BodyLines.oneof (.oneof hh hi hl) .nil
    simp only [Derived, Node.insertField, hk, List.append_assoc]
    exact ho.body hone

theorem nodeKind?_eq_some {keyword : String} {kind : NodeKind}
    (h : openBlock.nodeKind? keyword = some kind) : keyword = kind.keyword := by
  unfold openBlock.nodeKind? at h
  split at h
  · rename_i hk
    cases h
    exact hk
  · split at h
    · rename_i hk
      cases h
      exact hk
    · cases h

/-- What opening a block can do. -/
theorem openBlock_cases {a b : Assembly} {keyword name : String} {line : Nat}
    (h : a.openBlock keyword name line = .ok b) :
    (∃ kind outer, a = inside a.nodes outer ∧ Accepts outer ∧
      openBlock.nodeKind? keyword = some kind ∧
      b = ⟨a.nodes, .node (.empty name kind line) outer⟩) ∨
    (∃ current outer, a = ⟨a.nodes, .node current outer⟩ ∧ current.kind = .message ∧
      keyword = "oneof" ∧ b = ⟨a.nodes, .group ⟨name, line, []⟩ current outer⟩) := by
  obtain ⟨ns, focus⟩ := a
  cases focus with
  | top =>
    simp only [openBlock] at h
    split at h
    · cases h
    · split at h
      · rename_i kind hk
        cases h
        exact Or.inl ⟨kind, [], rfl, by simp [Accepts], hk, rfl⟩
      · cases h
  | node current outer =>
    simp only [openBlock] at h
    split at h
    · cases h
    · rename_i hc
      have hc : current.kind = .message := by
        cases hk : current.kind with
        | message => rfl
        | enum => exact absurd hk hc
      split at h
      · rename_i hk
        cases h
        exact Or.inr ⟨current, outer, rfl, hc, hk, rfl⟩
      · split at h
        · rename_i kind hk
          cases h
          exact Or.inl ⟨kind, current :: outer, rfl, by simpa [Accepts] using hc, hk, rfl⟩
        · cases h
  | group g current outer => simp [openBlock] at h

theorem derived_open {a b : Assembly} {ls : List Line} {l : Line} {keyword name : String}
    (h : a.Derived ls) (hl : l.kind = .openBlock keyword name)
    (hb : a.openBlock keyword name l.line = .ok b) : b.Derived (ls ++ [l]) := by
  rcases openBlock_cases hb with ⟨kind, outer, ha, hacc, hk, rfl⟩ | ⟨current, outer, ha, hc, rfl, rfl⟩
  · rw [nodeKind?_eq_some hk] at hl
    have ho : OpenLines (outer.map Node.kind) ls := by
      rw [ha] at h
      cases outer <;> exact h
    have hinner : InnerLines kind [] := by
      cases kind
      · exact ⟨[], .nil⟩
      · exact ⟨[], .nil⟩
    refine ⟨ls, l, name, [], rfl, hl, hinner, ho, ?_⟩
    intro k hk
    simp only [List.head?_map, Option.mem_def, Option.map_eq_some_iff] at hk
    obtain ⟨n, hn, rfl⟩ := hk
    exact hacc n hn
  · rw [ha] at h
    have ho : OpenLines (.message :: outer.map Node.kind) ls := hc ▸ h
    exact ⟨hc, ls, l, name, [], [], rfl, hl, .nil, ho⟩

theorem derived_declaration {a b : Assembly} {ls : List Line} {l : Line} {t : String}
    (h : a.Derived ls) (hl : l.kind = .declaration t) (hb : (a.step l).result = .ok b) :
    b.Derived (ls ++ [l]) := by
  obtain ⟨ns, focus⟩ := a
  cases focus with
  | top =>
    cases hs : isFileStatement t with
    | false => simp [step, hl, hs] at hb
    | true =>
      rw [step_statement hl hs] at hb
      cases hb
      obtain ⟨items, hf⟩ := h
      exact ⟨_, hf.append (.statement hl hs .nil)⟩
  | node current outer =>
    rw [step_declaration_node hl] at hb
    cases hb
    exact OpenLines.declaration h hl
  | group g current outer =>
    rw [step_declaration_oneof hl] at hb
    cases hb
    obtain ⟨hk, before, header, name, inner, texts, rfl, hh, hi, ho⟩ := h
    exact ⟨hk, before, header, name, inner ++ [l], texts ++ [t], by simp, hh,
      hi.append (.cons hl .nil), ho⟩

/-- One line that counts preserves the invariant. -/
theorem derived_step {a b : Assembly} {ls : List Line} {l : Line} (h : a.Derived ls)
    (hl : l.counts = true) (hb : (a.step l).result = .ok b) : b.Derived (ls ++ [l]) := by
  cases hk : l.kind with
  | blank => simp [Line.counts, hk] at hl
  | comment => simp [Line.counts, hk] at hl
  | declaration t => exact derived_declaration h hk hb
  | closeBlock =>
    simp only [step, hk] at hb
    split at hb
    · rename_i m hm
      cases hb
      exact derived_close h hk hm
    · cases hb
  | openBlock keyword name =>
    simp only [step, hk] at hb
    split at hb
    · rename_i m hm
      cases hb
      exact derived_open h hk hm
    · cases hb

/-- Hence every run of lines that count preserves it. -/
theorem derived_run {a b : Assembly} {ls ms : List Line} (h : a.Derived ls)
    (hms : ∀ l ∈ ms, l.counts = true) (hb : a.Reads ms b) : b.Derived (ls ++ ms) := by
  induction ms generalizing a ls with
  | nil =>
    cases hb
    simpa using h
  | cons l ms ih =>
    obtain ⟨m, hm, hr⟩ := reads_cons_iff.1 hb
    have h' := derived_step h (hms l (by simp)) hm
    have := ih h' (fun x hx => hms x (List.mem_cons_of_mem _ hx)) hr
    simpa using this

end Assembly

/-! ## Acceptance -/

namespace Schema

theorem ofLines_result (lines : List Line) :
    (ofLines lines).result = (Assembly.empty.run lines).result >>= finish := by
  simp only [ofLines, Traced.result_bind, Traced.result_liftM]

theorem ofText_result (text : String) :
    (ofText text).result = Line.ofText text >>= fun lines => (ofLines lines).result := by
  simp only [ofText, Traced.result_bind, Traced.result_liftM, Traced.result_note]
  rfl

theorem ofText_eq_ok {text : String} {s : Schema} :
    (ofText text).result = .ok s ↔
      ∃ ls, Line.ofText text = .ok ls ∧ (ofLines ls).result = .ok s := by
  rw [ofText_result]
  cases Line.ofText text with
  | error e => exact ⟨nofun, nofun⟩
  | ok ls =>
    constructor
    · exact fun h => ⟨ls, rfl, h⟩
    · rintro ⟨ls, ⟨⟩, h⟩
      exact h

theorem ofLines_eq_ok {lines : List Line} {s : Schema} :
    (ofLines lines).result = .ok s ↔ Assembly.empty.Reads lines ⟨s.nodes, .top⟩ := by
  rw [ofLines_result, Reads]
  cases h : (Assembly.empty.run lines).result with
  | error e => simp [bind, Except.bind]
  | ok a =>
    obtain ⟨ns, focus⟩ := a
    obtain ⟨nodes⟩ := s
    cases focus <;> simp [bind, Except.bind, finish]

/-- What derives from the grammar is read, and read as it is meant. -/
theorem ofLines_of_fileLines {lines : List Line} {items : List Item}
    (h : FileLines (lines.filter Line.counts) items) :
    (ofLines lines).result = .ok (ofItems items) := by
  have hr := @FileLines.reads [] _ _ h
  rw [Entries.insertAll_nil, reads_filter_counts] at hr
  exact ofLines_eq_ok.2 hr

/-- What is read derives from the grammar. -/
theorem fileLines_of_ofLines {lines : List Line} {s : Schema} (h : (ofLines lines).result = .ok s) :
    ∃ items, FileLines (lines.filter Line.counts) items := by
  have hr := reads_filter_counts.2 (ofLines_eq_ok.1 h)
  have hd : Assembly.empty.Derived [] := ⟨[], .nil⟩
  exact derived_run hd (fun l hl => (List.mem_filter.1 hl).2) hr

/-- **Lines are read as the grammar derives them.** Reading accepts exactly the lines that derive
from `File` when those that do not count are left out, and the schema is the meaning of the
derivation. -/
theorem ofLines_eq_ok_iff_derives (lines : List Line) (s : Schema) :
    (ofLines lines).result = .ok s ↔
      ∃ items, FileLines (lines.filter Line.counts) items ∧ s = ofItems items := by
  constructor
  · intro h
    obtain ⟨items, hf⟩ := fileLines_of_ofLines h
    -- a derivation is read as it is meant, so the schema at hand is its meaning
    have h' := ofLines_of_fileLines hf
    rw [h] at h'
    exact ⟨items, hf, Except.ok.inj h'⟩
  · rintro ⟨items, hf, rfl⟩
    exact ofLines_of_fileLines hf

end Schema

end TreeSchema
