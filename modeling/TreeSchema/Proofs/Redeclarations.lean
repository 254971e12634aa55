import TreeSchema.Proofs.Reading
/-!
# Nodes that are declared twice

A node that is declared again replaces the one before it, with everything inside. So a schema has at
most as many nodes as its lines open, and it has fewer exactly if two nodes that stand directly
inside the same block, or both at the top level, have the same name.

* `Line.headers` tells from the lines alone which nodes are opened, and inside which block. Blocks
  are numbered as they open. `FileLines.headers_eq` finds the same headers in the derivation of the
  lines.
* `Item.Distinct` is the condition on a derivation, and `nodup_headersAll_iff` says that it is the
  one on the headers: a block has one number, so headers from different blocks never meet.
* `countAll_ofList_eq_iff` is what is lost among the nodes of one block, and `countAll_nodes` what
  is lost at any depth.
-/
namespace TreeSchema

/-! ## Headers -/

/-- A line that opens a node: the number of the block around it, if there is one, and the name. -/
structure Header where
  parent : Option Nat
  name : String
deriving DecidableEq, Repr

theorem Header.pairwise_iff_nodup {hs : List Header} :
    hs.Pairwise (fun x y => x.parent = y.parent → x.name ≠ y.name) ↔ hs.Nodup := by
  have hne (x y : Header) : (x.parent = y.parent → x.name ≠ y.name) ↔ x ≠ y := by
    obtain ⟨p, a⟩ := x
    obtain ⟨q, b⟩ := y
    simp only [Ne, Header.mk.injEq, not_and]
  exact ⟨.imp (hne _ _).1, .imp (hne _ _).2⟩

namespace Line

/-- Whether a line opens a node. -/
def opensNode (l : Line) : Bool :=
  match l.kind with
  | .openBlock keyword _ => keyword == "message" || keyword == "enum"
  | .closeBlock | .declaration _ | .comment | .blank => false

/-- The headers of nodes among lines. The blocks that open are numbered from `next`, and those that
are open already have the numbers `around`, the innermost first. -/
def headersFrom (next : Nat) (around : List Nat) : List Line → List Header
  | [] => []
  | l :: ls =>
    match l.kind with
    | .openBlock _ name =>
      (if l.opensNode then [⟨around.head?, name⟩] else []) ++
        headersFrom (next + 1) (next :: around) ls
    | .closeBlock => headersFrom next around.tail ls
    | .declaration _ | .comment | .blank => headersFrom next around ls

/-- The headers of nodes among the lines of a schema. -/
def headers (ls : List Line) : List Header := headersFrom 0 [] ls

example : headers [⟨.openBlock "message" "A", 1, 1⟩, ⟨.openBlock "oneof" "kind", 2, 1⟩,
    ⟨.closeBlock, 3, 1⟩, ⟨.openBlock "enum" "A", 4, 1⟩, ⟨.closeBlock, 5, 1⟩, ⟨.closeBlock, 6, 1⟩,
    ⟨.openBlock "message" "A", 7, 1⟩, ⟨.closeBlock, 8, 1⟩] =
    [⟨none, "A"⟩, ⟨some 0, "A"⟩, ⟨none, "A"⟩] := by decide

theorem length_headersFrom (ls : List Line) (next : Nat) (around : List Nat) :
    (headersFrom next around ls).length = ls.countP opensNode := by
  induction ls generalizing next around with
  | nil => rfl
  | cons l ls ih =>
    rw [headersFrom, List.countP_cons]
    cases hk : l.kind with
    | openBlock keyword name =>
      simp only [List.length_append, ih]
      split
      · rw [List.length_singleton, Nat.add_comm]
      · rw [List.length_nil, Nat.zero_add, Nat.add_zero]
    | closeBlock | declaration t | comment | blank => simp [ih, opensNode, hk]

theorem headersFrom_filter_counts (ls : List Line) (next : Nat) (around : List Nat) :
    headersFrom next around (ls.filter counts) = headersFrom next around ls := by
  induction ls generalizing next around with
  | nil => rfl
  | cons l ls ih =>
    cases hk : l.kind with
    | openBlock keyword name | closeBlock | declaration t =>
      rw [List.filter_cons_of_pos (by simp [counts, hk]), headersFrom, headersFrom]
      simp only [hk, ih]
    | comment | blank =>
      rw [List.filter_cons_of_neg (by simp [counts, hk]), ih, headersFrom]
      simp only [hk]

section
variable {l : Line} {ls : List Line} {next : Nat} {around : List Nat}

theorem headersFrom_node (kind : NodeKind) {name : String}
    (hl : l.kind = .openBlock kind.keyword name) :
    headersFrom next around (l :: ls) =
      ⟨around.head?, name⟩ :: headersFrom (next + 1) (next :: around) ls := by
  have ho : l.opensNode = true := by
    rw [opensNode, hl]
    cases kind <;> rfl
  rw [headersFrom, hl]
  simp only [ho, if_true, List.singleton_append]

theorem headersFrom_oneof {name : String} (hl : l.kind = .openBlock "oneof" name) :
    headersFrom next around (l :: ls) = headersFrom (next + 1) (next :: around) ls := by
  have ho : l.opensNode = false := by
    rw [opensNode, hl]
    rfl
  rw [headersFrom, hl]
  simp [ho]

theorem headersFrom_close (hl : l.kind = .closeBlock) :
    headersFrom next around (l :: ls) = headersFrom next around.tail ls := by
  rw [headersFrom, hl]

theorem headersFrom_declaration {t : String} (hl : l.kind = .declaration t) :
    headersFrom next around (l :: ls) = headersFrom next around ls := by
  rw [headersFrom, hl]

end

end Line

/-! ## The headers of a derivation -/

namespace Item

mutual

/-- The number of blocks in an item, itself included. -/
def blocks : Item → Nat
  | .declaration _ => 0
  | .oneof _ _ => 1
  | .message _ _ body => blocksAll body + 1
  | .enum _ _ _ => 1

def blocksAll : List Item → Nat
  | [] => 0
  | item :: items => item.blocks + blocksAll items

end

mutual

/-- The headers of nodes in an item that stands in the block `parent` and whose blocks are numbered
from `next`. -/
def headers (parent : Option Nat) (next : Nat) : Item → List Header
  | .declaration _ | .oneof _ _ => []
  | .message name _ body => ⟨parent, name⟩ :: headersAll (some next) (next + 1) body
  | .enum name _ _ => [⟨parent, name⟩]

def headersAll (parent : Option Nat) (next : Nat) : List Item → List Header
  | [] => []
  | item :: items => item.headers parent next ++ headersAll parent (next + item.blocks) items

end

end Item

open Line Item

section
variable {next : Nat} {around : List Nat}

theorem DeclarationLines.headersFrom_append {ls : List Line} {ts : List String}
    (h : DeclarationLines ls ts) (rest : List Line) :
    headersFrom next around (ls ++ rest) = headersFrom next around rest := by
  induction h with
  | nil => rfl
  | cons hl _ ih => rw [List.cons_append, headersFrom_declaration hl, ih]

theorem OneofLines.headersFrom_append {ls : List Line} {item : Item} (h : OneofLines ls item)
    (rest : List Line) :
    headersFrom next around (ls ++ rest) =
      item.headers around.head? next ++ headersFrom (next + item.blocks) around rest := by
  cases h with
  | oneof ho hts hc =>
    rw [List.append_assoc, List.cons_append, headersFrom_oneof ho, hts.headersFrom_append,
      List.singleton_append, headersFrom_close hc]
    rfl

end

mutual

theorem NodeLines.headersFrom_append : ∀ {ls : List Line} {item : Item}, NodeLines ls item →
    ∀ (next : Nat) (around : List Nat) (rest : List Line),
      headersFrom next around (ls ++ rest) =
        item.headers around.head? next ++ headersFrom (next + item.blocks) around rest
  | _, _, .message ho hbody hc, next, around, rest => by
    rw [List.append_assoc, List.cons_append, headersFrom_node .message ho,
      hbody.headersFrom_append, List.singleton_append, headersFrom_close hc]
    simp only [Item.headers, Item.blocks, List.head?_cons, List.tail_cons, List.cons_append]
    rw [Nat.add_assoc, Nat.add_comm 1]
  | _, _, .enum ho hts hc, next, around, rest => by
    rw [List.append_assoc, List.cons_append, headersFrom_node .enum ho,
      hts.headersFrom_append, List.singleton_append, headersFrom_close hc]
    rfl

theorem BodyLines.headersFrom_append : ∀ {ls : List Line} {items : List Item},
    BodyLines ls items → ∀ (next : Nat) (around : List Nat) (rest : List Line),
      headersFrom next around (ls ++ rest) =
        headersAll around.head? next items ++ headersFrom (next + blocksAll items) around rest
  | _, _, .nil, next, around, rest => rfl
  | _, _, .declaration hl h, next, around, rest => by
    rw [List.cons_append, headersFrom_declaration hl, h.headersFrom_append]
    simp only [headersAll, Item.headers, blocksAll, Item.blocks, List.nil_append, Nat.zero_add,
      Nat.add_zero]
  | _, _, .node hn h, next, around, rest => by
    rw [List.append_assoc, hn.headersFrom_append, h.headersFrom_append, headersAll, blocksAll,
      List.append_assoc, Nat.add_assoc]
  | _, _, .oneof ho h, next, around, rest => by
    rw [List.append_assoc, ho.headersFrom_append, h.headersFrom_append, headersAll, blocksAll,
      List.append_assoc, Nat.add_assoc]

end

theorem FileLines.headers_eq {ls : List Line} {items : List Item} (h : FileLines ls items)
    (next : Nat) : headersFrom next [] ls = headersAll none next items := by
  induction h generalizing next with
  | nil => rfl
  | statement hl _ _ ih =>
    rw [headersFrom_declaration hl, ih]
    simp only [headersAll, Item.headers, Item.blocks, List.nil_append, Nat.add_zero]
  | node hn _ ih => rw [hn.headersFrom_append, ih, headersAll]; rfl

/-! ## Headers that differ -/

namespace Item

mutual

/-- No two nodes that stand directly inside the same block of the item have the same name. -/
def Distinct : Item → Prop
  | .declaration _ | .oneof _ _ | .enum _ _ _ => True
  | .message _ _ body => (Entries.keys (nodes body)).Nodup ∧ DistinctAll body

def DistinctAll : List Item → Prop
  | [] => True
  | item :: items => item.Distinct ∧ DistinctAll items

end

mutual

/-- A header stands directly in the block around its item, or in a block of the item. -/
theorem parent_of_mem_headers : ∀ {item : Item} {parent : Option Nat} {next : Nat} {h : Header},
    h ∈ item.headers parent next →
      h.parent = parent ∨ ∃ j, h.parent = some j ∧ next ≤ j ∧ j < next + item.blocks
  | .declaration _, _, _, _, hm => nomatch hm
  | .oneof _ _, _, _, _, hm => nomatch hm
  | .enum name _ _, parent, _, h, hm => by
    rw [List.mem_singleton.1 hm]
    exact .inl rfl
  | .message name _ body, parent, next, h, hm => by
    rw [blocks]
    rcases List.mem_cons.1 hm with rfl | hm
    · exact .inl rfl
    · rcases parent_of_mem_headersAll hm with hp | ⟨j, hp, hle, hlt⟩
      · exact .inr ⟨next, hp, by omega, by omega⟩
      · exact .inr ⟨j, hp, by omega, by omega⟩

theorem parent_of_mem_headersAll : ∀ {items : List Item} {parent : Option Nat} {next : Nat}
    {h : Header}, h ∈ headersAll parent next items →
      h.parent = parent ∨ ∃ j, h.parent = some j ∧ next ≤ j ∧ j < next + blocksAll items
  | [], _, _, _, hm => nomatch hm
  | item :: items, parent, next, h, hm => by
    rw [blocksAll]
    rcases List.mem_append.1 hm with hm | hm
    · refine (parent_of_mem_headers hm).imp_right ?_
      rintro ⟨j, hp, hle, hlt⟩
      exact ⟨j, hp, hle, by omega⟩
    · refine (parent_of_mem_headersAll hm).imp_right ?_
      rintro ⟨j, hp, hle, hlt⟩
      exact ⟨j, hp, by omega, by omega⟩

end

theorem keys_nodes_cons (item : Item) (items : List Item) :
    Entries.keys (nodes (item :: items)) =
      Entries.keys item.node?.toList ++ Entries.keys (nodes items) := by
  rw [nodes, Entries.keys, List.map_append]
  rfl

section
variable {parent : Option Nat} {next : Nat} (hp : ∀ j ∈ parent, j < next)
include hp

/-- The block around an item has a smaller number than what comes after the item. -/
theorem lt_add_blocks (item : Item) : ∀ j ∈ parent, j < next + item.blocks :=
  fun j hj => Nat.lt_add_right _ (hp j hj)

/-- The blocks of a body have other numbers than the block around it. -/
theorem parent_ne_of_mem_body {h : Header} {body : List Item}
    (hm : h ∈ headersAll (some next) (next + 1) body) : h.parent ≠ parent := by
  rintro rfl
  rcases parent_of_mem_headersAll hm with h | ⟨j, h, hle, -⟩
  · exact Nat.lt_irrefl _ (hp next h)
  · have := hp j h
    omega

/-- The names of the nodes that stand directly in the block around an item. -/
theorem mem_headers_iff {name : String} : ∀ {item : Item},
    ⟨parent, name⟩ ∈ item.headers parent next ↔ name ∈ Entries.keys item.node?.toList
  | .declaration _ => by simp [headers, node?, Entries.keys]
  | .oneof _ _ => by simp [headers, node?, Entries.keys]
  | .enum _ _ _ => by simp [headers, node?, Entries.keys]
  | .message n _ body => by
    have hbody : ⟨parent, name⟩ ∉ headersAll (some next) (next + 1) body :=
      fun hm => parent_ne_of_mem_body hp hm rfl
    simp [headers, node?, Entries.keys, hbody]

theorem mem_headersAll_iff {name : String} {items : List Item} :
    ⟨parent, name⟩ ∈ headersAll parent next items ↔ name ∈ Entries.keys (nodes items) := by
  induction items generalizing next with
  | nil => simp [headersAll, nodes, Entries.keys]
  | cons item items ih =>
    rw [headersAll, List.mem_append, mem_headers_iff hp, ih (lt_add_blocks hp item),
      keys_nodes_cons, List.mem_append]

/-- Headers of an item and of those after it meet only in the block around all of them. -/
theorem disjoint_headers_iff {item : Item} {items : List Item} :
    (∀ a ∈ item.headers parent next, ∀ b ∈ headersAll parent (next + item.blocks) items, a ≠ b) ↔
      ∀ a ∈ Entries.keys item.node?.toList, ∀ b ∈ Entries.keys (nodes items), a ≠ b := by
  have hp' := lt_add_blocks hp item
  constructor
  · rintro h a ha _ hb rfl
    exact h _ ((mem_headers_iff hp).2 ha) _ ((mem_headersAll_iff hp').2 hb) rfl
  · rintro h x hx _ hy rfl
    have hparent : x.parent = parent := by
      rcases parent_of_mem_headers hx with hx | ⟨j, hj, hle, hlt⟩
      · exact hx
      · rcases parent_of_mem_headersAll hy with hy | ⟨i, hi, hle', -⟩
        · exact hy
        · rw [hj] at hi
          cases hi
          omega
    obtain ⟨_, name⟩ := x
    cases hparent
    exact h name ((mem_headers_iff hp).1 hx) name ((mem_headersAll_iff hp').1 hy) rfl

end

theorem nodup_keys_node? (item : Item) : (Entries.keys item.node?.toList).Nodup := by
  cases item <;> simp [node?, Entries.keys]

mutual

theorem nodup_headers_iff : ∀ {item : Item} {parent : Option Nat} {next : Nat},
    (∀ j ∈ parent, j < next) → ((item.headers parent next).Nodup ↔ item.Distinct)
  | .declaration _, _, _, _ => by simp [headers, Distinct]
  | .oneof _ _, _, _, _ => by simp [headers, Distinct]
  | .enum _ _ _, _, _, _ => by simp [headers, Distinct]
  | .message name _ body, parent, next, hp => by
    have hbody : ⟨parent, name⟩ ∉ headersAll (some next) (next + 1) body :=
      fun hm => parent_ne_of_mem_body hp hm rfl
    have hinner : ∀ j ∈ some next, j < next + 1 := by simp
    rw [headers, List.nodup_cons, nodup_headersAll_iff hinner, Distinct]
    exact and_iff_right hbody

theorem nodup_headersAll_iff : ∀ {items : List Item} {parent : Option Nat} {next : Nat},
    (∀ j ∈ parent, j < next) →
      ((headersAll parent next items).Nodup ↔
        (Entries.keys (nodes items)).Nodup ∧ DistinctAll items)
  | [], _, _, _ => by simp [headersAll, nodes, Entries.keys, DistinctAll]
  | item :: items, parent, next, hp => by
    rw [headersAll, List.nodup_append, nodup_headers_iff hp,
      nodup_headersAll_iff (lt_add_blocks hp item), disjoint_headers_iff hp, keys_nodes_cons,
      List.nodup_append, DistinctAll]
    constructor
    · rintro ⟨hitem, ⟨hnodup, hitems⟩, hapart⟩
      exact ⟨⟨item.nodup_keys_node?, hnodup, hapart⟩, hitem, hitems⟩
    · rintro ⟨⟨-, hnodup, hapart⟩, hitem, hitems⟩
      exact ⟨hitem, ⟨hnodup, hitems⟩, hapart⟩

end

end Item

/-! ## What is lost -/

namespace Node

theorem one_le_count (n : Node) : 1 ≤ n.count := by
  obtain ⟨name, line, kind, nested, fields⟩ := n
  rw [count]
  omega

theorem countAll_append (a b : List (String × Node)) :
    countAll (a ++ b) = countAll a + countAll b := by
  induction a with
  | nil => rw [List.nil_append, countAll, Nat.zero_add]
  | cons x a ih => rw [List.cons_append, countAll, countAll, ih, Nat.add_assoc]

/-- The nodes under a key, and those under the others. -/
theorem count_add_countAll_filter {e : Entries Node} (hn : (Entries.keys e).Nodup) {k : String}
    {n : Node} (h : e.get? k = some n) :
    n.count + countAll (e.filter (·.1 ≠ k)) = countAll e := by
  induction e with
  | nil => cases h
  | cons x rest ih =>
    obtain ⟨i, m⟩ := x
    obtain ⟨hi, hrest⟩ := List.nodup_cons.1 hn
    rw [Entries.get?_cons] at h
    by_cases hk : k = i
    · subst hk
      rw [if_pos rfl] at h
      cases h
      rw [List.filter_cons_of_neg (by simp), Entries.filter_ne_of_not_mem hi, countAll]
    · rw [if_neg hk] at h
      have hik : i ≠ k := fun he => hk he.symm
      rw [List.filter_cons_of_pos (by simpa using hik), countAll, countAll, ← ih hrest h]
      omega

/-- The first of several nodes counts if its key does not come again. -/
theorem countAll_ofList_cons (k : String) (n : Node) (rest : List (String × Node)) :
    countAll (Entries.ofList ((k, n) :: rest)) =
      (if k ∈ Entries.keys rest then 0 else n.count) + countAll (Entries.ofList rest) := by
  rw [Entries.ofList, countAll]
  by_cases hk : k ∈ Entries.keys rest
  · obtain ⟨⟨i, m⟩, hm, rfl⟩ := List.mem_map.1 (Entries.mem_keys_ofList.2 hk)
    have hget := Entries.get?_eq_some_of_mem (Entries.nodup_keys_ofList rest) hm
    have hcount := count_add_countAll_filter (Entries.nodup_keys_ofList rest) hget
    rw [if_pos hk, hget, Option.getD_some, hcount, Nat.zero_add]
  · have hk' : k ∉ Entries.keys (Entries.ofList rest) := fun h => hk (Entries.mem_keys_ofList.1 h)
    rw [if_neg hk, Entries.get?_eq_none_of_not_mem hk', Option.getD_none,
      Entries.filter_ne_of_not_mem hk']

theorem countAll_ofList_le (l : List (String × Node)) :
    countAll (Entries.ofList l) ≤ countAll l := by
  induction l with
  | nil => exact Nat.le_refl _
  | cons x rest ih =>
    rw [countAll_ofList_cons, countAll]
    split <;> omega

/-- Nodes that are written one after another are all kept exactly if their keys are distinct. -/
theorem countAll_ofList_eq_iff (l : List (String × Node)) :
    countAll (Entries.ofList l) = countAll l ↔ (Entries.keys l).Nodup := by
  induction l with
  | nil => simp [Entries.ofList, Entries.keys]
  | cons x rest ih =>
    obtain ⟨k, n⟩ := x
    have hle := countAll_ofList_le rest
    have hn := n.one_le_count
    have hnodup : (Entries.keys ((k, n) :: rest)).Nodup ↔
        k ∉ Entries.keys rest ∧ (Entries.keys rest).Nodup := List.nodup_cons
    rw [countAll_ofList_cons, countAll, hnodup, ← ih]
    split <;> rename_i hk
    · exact ⟨fun h => by omega, fun h => absurd hk h.1⟩
    · exact ⟨fun h => ⟨hk, by omega⟩, fun h => by omega⟩

end Node

namespace Item

open Node

mutual

/-- An item has at most as many nodes as headers, and as many exactly if it is distinct. -/
theorem countAll_node? (parent : Option Nat) (next : Nat) : ∀ item : Item,
    countAll item.node?.toList ≤ (item.headers parent next).length ∧
      (countAll item.node?.toList = (item.headers parent next).length ↔ item.Distinct)
  | .declaration _ => by simp [node?, headers, Distinct, countAll]
  | .oneof _ _ => by simp [node?, headers, Distinct, countAll]
  | .enum _ _ _ => by simp [node?, headers, Distinct, countAll, count]
  | .message name number body => by
    obtain ⟨hle, heq⟩ := countAll_nodes (some next) (next + 1) body
    have hkept := countAll_ofList_le (nodes body)
    have hlength : ((Item.message name number body).headers parent next).length =
        (headersAll (some next) (next + 1) body).length + 1 := rfl
    have hcount : countAll (Item.message name number body).node?.toList =
        countAll (Entries.ofList (nodes body)) + 1 := by
      simp [node?, countAll, count]
    rw [hlength, hcount, Distinct, ← countAll_ofList_eq_iff, ← heq]
    omega

theorem countAll_nodes (parent : Option Nat) (next : Nat) : ∀ items : List Item,
    countAll (nodes items) ≤ (headersAll parent next items).length ∧
      (countAll (nodes items) = (headersAll parent next items).length ↔ DistinctAll items)
  | [] => by simp [nodes, headersAll, DistinctAll, countAll]
  | item :: items => by
    obtain ⟨hle, heq⟩ := countAll_node? parent next item
    obtain ⟨hles, heqs⟩ := countAll_nodes parent (next + item.blocks) items
    rw [nodes, headersAll, DistinctAll, countAll_append, List.length_append, ← heq, ← heqs]
    omega

end

end Item

namespace Schema

/-- **Nodes that are declared twice.** A schema that is read has at most as many nodes as lines open
nodes. It has as many exactly if no two nodes that are opened directly inside the same block, or
both at the top level, have the same name. -/
theorem nodeCount_eq_iff {ls : List Line} {s : Schema} (h : (ofLines ls).result = .ok s) :
    s.nodeCount ≤ ls.countP Line.opensNode ∧
      (s.nodeCount = ls.countP Line.opensNode ↔
        (Line.headers ls).Pairwise fun x y => x.parent = y.parent → x.name ≠ y.name) := by
  obtain ⟨items, hitems⟩ := fileLines_of_ofLines h
  obtain rfl : ofItems items = s := Except.ok.inj ((ofLines_of_fileLines hitems).symm.trans h)
  have hheaders : Line.headers ls = headersAll none 0 items := by
    rw [Line.headers, ← headersFrom_filter_counts, hitems.headers_eq]
  have hlength : ls.countP Line.opensNode = (headersAll none 0 items).length := by
    rw [← hheaders, Line.headers, length_headersFrom]
  obtain ⟨hle, heq⟩ := countAll_nodes none 0 items
  have hkept := Node.countAll_ofList_le (Item.nodes items)
  have hcount : (ofItems items).nodeCount =
      Node.countAll (Entries.ofList (Item.nodes items)) := rfl
  rw [Header.pairwise_iff_nodup, hheaders, nodup_headersAll_iff (by simp), hlength, hcount,
    ← Node.countAll_ofList_eq_iff, ← heq]
  omega

/-- The name `A` at the top level and in two blocks, where it is not lost, and a message that is
declared again as an enum, with a node inside the message. -/
theorem nodeCount_eq_iff_redeclared :
    let header (keyword name : String) : Line := ⟨.openBlock keyword name, 1, 1⟩
    let closer : Line := ⟨.closeBlock, 1, 1⟩
    let apart := [header "message" "A", header "enum" "A", closer, closer, header "message" "B",
      header "message" "A", closer, closer]
    let again := [header "message" "B", header "message" "A", header "message" "C", closer, closer,
      header "enum" "A", closer, closer]
    (∃ s, (ofLines apart).result = .ok s ∧ s.nodeCount = apart.countP Line.opensNode) ∧
      ∃ s, (ofLines again).result = .ok s ∧ s.nodeCount < again.countP Line.opensNode := by
  intro header closer apart again
  let s : Schema := ⟨[("A", ⟨"A", 1, .message, [("A", ⟨"A", 1, .enum, [], []⟩)], []⟩),
    ("B", ⟨"B", 1, .message, [("A", ⟨"A", 1, .message, [], []⟩)], []⟩)]⟩
  let t : Schema := ⟨[("B", ⟨"B", 1, .message, [("A", ⟨"A", 1, .enum, [], []⟩)], []⟩)]⟩
  have hs : (ofLines apart).result = .ok s := rfl
  have ht : (ofLines again).result = .ok t := rfl
  refine ⟨⟨s, hs, (nodeCount_eq_iff hs).2.2 (by decide)⟩, t, ht, ?_⟩
  refine Nat.lt_of_le_of_ne (nodeCount_eq_iff ht).1 fun heq => ?_
  exact absurd ((nodeCount_eq_iff ht).2.1 heq) (by decide)

end Schema

end TreeSchema
