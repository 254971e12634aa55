import TreeSchema.Config.Reader
import TreeSchema.Proofs.Dispatch
import TreeSchema.Proofs.Layout
import TreeSchema.Proofs.Templates
/-!
# What nodes are called

The generated code has two names for a node. The qualified name joins the names of the nodes around
it and its own, and settings refer to nodes by it. The tag of a message at the top level is its name
without the suffix of nodes.

* `intercalate_injective`: names can be told from the joined text if the separator has a character
  that no name has. It need not be the first one of the separator, nor the only kind of character
  in it.
* `twins`: with any other separator, a node inside another one and a node at the top level may be
  called alike.
* `mem_nodeTypes_iff`, `nodup_nodeTypes`: a tag is what a message is called before the suffix, so
  messages with different names have different tags.
* `isName_of_mem_nodeTypes`: a tag is a name, unless nothing is left of the name of its message.

`separatesNodes_iff` puts the first two together, and `nodeTypes_wellFormed_iff` the others.
-/
namespace TreeSchema

open Text

/-! ## Joined names -/

namespace Text

variable {sep : List Char}

/-- What is left at the front of a name is a name, if there is anything left. -/
theorem isName_of_isPrefix {a b : List Char} (hb : isName b = true) (h : a <+: b) (ha : a ≠ []) :
    isName a = true := by
  obtain ⟨t, rfl⟩ := h
  cases a with
  | nil => exact absurd rfl ha
  | cons c a =>
    simp only [List.cons_append, isName, Bool.and_eq_true, List.all_append] at hb ⊢
    exact ⟨hb.1, hb.2.1⟩

theorem takeWhile_append_of_exists (hsep : ∃ c ∈ sep, isNamePart c = false) (rest : List Char) :
    (sep ++ rest).takeWhile isNamePart = sep.takeWhile isNamePart := by
  rw [List.takeWhile_append, if_neg]
  intro hlength
  obtain ⟨c, hc, hout⟩ := hsep
  rw [← (List.takeWhile_prefix isNamePart).eq_of_length hlength] at hc
  have hin := List.all_eq_true.1 (List.all_takeWhile (p := isNamePart) (l := sep)) c hc
  simp [hout] at hin

theorem intercalate_cons_ne_nil {x : List Char} (hx : isName x = true) (xs : List (List Char)) :
    sep.intercalate (x :: xs) ≠ sep.intercalate [] := by
  cases x with
  | nil => cases hx
  | cons c x => cases xs <;> simp

/-- One name is not several names, since the separator has a character that is not in it. -/
theorem intercalate_singleton_ne (hsep : ∃ c ∈ sep, isNamePart c = false) {x : List Char}
    (hx : isName x = true) (y z : List Char) (rest : List (List Char)) :
    sep.intercalate [x] ≠ sep.intercalate (y :: z :: rest) := by
  obtain ⟨c, hc, hout⟩ := hsep
  intro h
  rw [List.intercalate_singleton, List.intercalate_cons_cons] at h
  refine not_mem_of_isName hx hout ?_
  rw [h]
  simp [hc]

/-- **Joined names are told apart.** The first character outside names stands at a fixed place of
the first separator, which gives the first name away. -/
theorem intercalate_injective (hsep : ∃ c ∈ sep, isNamePart c = false) :
    ∀ {p q : List (List Char)}, (∀ x ∈ p, isName x = true) → (∀ x ∈ q, isName x = true) →
      sep.intercalate p = sep.intercalate q → p = q
  | [], [], _, _, _ => rfl
  | [], y :: ys, _, hq, h => absurd h.symm (intercalate_cons_ne_nil (hq y (by simp)) ys)
  | x :: xs, [], hp, _, h => absurd h (intercalate_cons_ne_nil (hp x (by simp)) xs)
  | [x], [y], _, _, h => by simpa using h
  | [x], y :: z :: ys, hp, _, h => absurd h (intercalate_singleton_ne hsep (hp x (by simp)) y z ys)
  | x :: z :: xs, [y], _, hq, h =>
    absurd h.symm (intercalate_singleton_ne hsep (hq y (by simp)) x z xs)
  | x :: x' :: xs, y :: y' :: ys, hp, hq, h => by
    rw [List.intercalate_cons_cons, List.intercalate_cons_cons, List.append_assoc,
      List.append_assoc] at h
    have hfirst := congrArg (List.takeWhile isNamePart) h
    rw [List.takeWhile_append_of_pos fun c hc => isNamePart_of_mem (hp x (by simp)) hc,
      List.takeWhile_append_of_pos fun c hc => isNamePart_of_mem (hq y (by simp)) hc,
      takeWhile_append_of_exists hsep, takeWhile_append_of_exists hsep] at hfirst
    obtain rfl : x = y := List.append_cancel_right hfirst
    have hrest := List.append_cancel_left (List.append_cancel_left h)
    rw [intercalate_injective hsep (fun a ha => hp a (List.mem_cons_of_mem _ ha))
      (fun a ha => hq a (List.mem_cons_of_mem _ ha)) hrest]

end Text

/-! ## Qualified names -/

def Encoder.qualified : Encoder → String
  | .enum _ qualified _ => qualified
  | .message _ qualified _ _ _ => qualified

theorem Scope.qualified_encoder {cx : Scope} {outer : List String} {key : String} {n : Node}
    {e : Encoder} (h : (cx.encoder outer key n).result = .ok e) :
    e.qualified = cx.qualify (outer ++ [key]) := by
  obtain ⟨name, line, kind, nested, fields⟩ := n
  cases kind with
  | enum =>
    obtain ⟨values, -, rfl⟩ := encoder_enum_eq_ok.1 h
    rfl
  | message =>
    obtain ⟨inner, -, d, -, rfl⟩ := encoder_message_eq_ok.1 h
    rfl

namespace Node

/-- A path to a node of a printable schema is made of names. -/
theorem isName_of_find? {n : Node} : ∀ {path : List String} {nodes : List (String × Node)},
    AllPrintable nodes → find? nodes path = some n → ∀ x ∈ path, isName x.toList = true
  | [], _, _, h => nomatch h
  | [key], nodes, hp, h => by
    have hn := hp.node (Entries.mem_of_get?_eq_some h)
    exact List.forall_mem_singleton.2 (hn.key_eq ▸ hn.isName)
  | key :: key' :: path, nodes, hp, h => by
    obtain ⟨m, hm, h⟩ : ∃ m, Entries.get? nodes key = some m ∧
      find? m.nested (key' :: path) = some n := Option.bind_eq_some_iff.1 h
    have hmem := Entries.mem_of_get?_eq_some hm
    have hn := hp.node hmem
    exact List.forall_mem_cons.2 ⟨hn.key_eq ▸ hn.isName, isName_of_find? (hp.inner hmem) h⟩

theorem find?_unplacedAll : ∀ (path : List String) (nodes : List (String × Node)),
    find? (unplacedAll nodes) path = (find? nodes path).map unplaced
  | [], _ => rfl
  | [key], nodes => get?_unplacedAll nodes key
  | key :: key' :: path, nodes => by
    change (Entries.get? (unplacedAll nodes) key).bind (find? ·.nested (key' :: path)) =
      ((Entries.get? nodes key).bind (find? ·.nested (key' :: path))).map unplaced
    rw [get?_unplacedAll]
    cases Entries.get? nodes key with
    | none => rfl
    | some n =>
      obtain ⟨name, line, kind, nested, fields⟩ := n
      exact find?_unplacedAll (key' :: path) nested

theorem printable_empty {name : String} (h : isName name.toList = true) (kind : NodeKind)
    (line : Nat) : (empty name kind line).Printable name where
  key_eq := rfl
  isName := h
  members := by simp [empty]
  distinctFields := List.nodup_nil
  distinctNested := List.nodup_nil
  enumNested _ := rfl
  enumPlain := by simp [empty]

end Node

/-- A message with a message inside it, and a message that is called like the qualified name of the
one inside. -/
def twins (separator : String) : Schema :=
  let joined := "A" ++ separator ++ "B"
  ⟨[("A", ⟨"A", 0, .message, [("B", .empty "B" .message 0)], []⟩),
    (joined, .empty joined .message 0)]⟩

theorem printable_twins {separator : String}
    (h : ∀ x ∈ separator.toList, isNamePart x = true) : (twins separator).Printable := by
  have hjoined : isName ("A" ++ separator ++ "B").toList = true := by
    rw [String.toList_append, String.toList_append]
    exact isName_append (isName_append (by decide) h) (by simp; decide)
  have hinner : Node.AllPrintable [("B", .empty "B" .message 0)] :=
    .singleton (Node.printable_empty (by decide) _ _) .nil
  have houter : Node.Printable "A" ⟨"A", 0, .message, [("B", .empty "B" .message 0)], []⟩ :=
    { Node.printable_empty (by decide : isName "A".toList = true) .message 0 with
      distinctNested := by decide
      enumNested := nofun }
  refine ⟨.append (.singleton houter hinner) (.singleton (Node.printable_empty hjoined _ _) .nil),
    ?_⟩
  have hne : "A" ≠ "A" ++ separator ++ "B" := by
    intro he
    have := congrArg (List.length ∘ String.toList) he
    simp at this
  simpa [twins, Entries.keys] using hne

theorem find?_twins (separator : String) :
    ((twins separator).find? ["A", "B"]).isSome ∧
      ((twins separator).find? ["A" ++ separator ++ "B"]).isSome := by
  refine ⟨rfl, ?_⟩
  change (Entries.get? (twins separator).nodes _).isSome
  rw [twins, Entries.get?_cons, Entries.get?_cons, if_pos rfl]
  split
  · rfl
  · rfl

/-- The nodes of every schema that is read have qualified names of their own. -/
def Config.SeparatesNodes (c : Config) : Prop :=
  ∀ (text : String) (s : Schema), (Schema.ofText text).result = .ok s →
    ∀ (p q : List String) (n m : Node), s.find? p = some n → s.find? q = some m → p ≠ q →
      Scope.qualify ⟨s, c⟩ p ≠ Scope.qualify ⟨s, c⟩ q

theorem separatesNodes_of_exists {c : Config}
    (h : ∃ x ∈ c.pathSeparator.toList, isNamePart x = false) : c.SeparatesNodes := by
  intro text s hs p q n m hn hm hne heq
  have hp := Schema.printable_of_ofText hs
  have hnames {path : List String} {n : Node} (hn : s.find? path = some n) :
      ∀ x ∈ path.map String.toList, isName x = true :=
    List.forall_mem_map.2 (Node.isName_of_find? hp.nodes hn)
  have hjoined := congrArg String.toList heq
  rw [Scope.qualify, Scope.qualify, String.toList_intercalate, String.toList_intercalate] at hjoined
  have hpaths := intercalate_injective h (hnames hn) (hnames hm) hjoined
  exact hne ((List.map_inj_right fun _ _ => String.toList_inj.1).1 hpaths)

/-- The twins are the nodes of some text, if their names are names. -/
theorem not_separatesNodes {c : Config} (h : ∀ x ∈ c.pathSeparator.toList, isNamePart x = true) :
    ¬ c.SeparatesNodes := by
  obtain ⟨s, hs, hun⟩ := Schema.ofText_print (printable_twins h) fun _ => 0
  have hfind {path : List String} (hpath : ((twins c.pathSeparator).find? path).isSome) :
      ∃ n, s.find? path = some n := by
    have hmap := congrArg (fun s : Schema => (s.find? path).isSome) hun
    simp only [Schema.find?, Schema.unplaced, Node.find?_unplacedAll, Option.isSome_map] at hmap
    exact Option.isSome_iff_exists.1 (hmap.trans hpath)
  obtain ⟨n, hn⟩ := hfind (find?_twins c.pathSeparator).1
  obtain ⟨m, hm⟩ := hfind (find?_twins c.pathSeparator).2
  intro hc
  exact hc _ s hs _ _ n m hn hm (by simp) (by simp [Scope.qualify])

/-- **When qualified names tell nodes apart.** Different nodes have different qualified names, in
every schema that is read, exactly if the separator has a character that no name has. Where
generation succeeds, these names are those of the encoders of the nodes. -/
theorem separatesNodes_iff (c : Config) :
    (c.SeparatesNodes ↔ ∃ x ∈ c.pathSeparator.toList, isNamePart x = false) ∧
    ∀ (text : String) (s : Schema) (es : List Encoder), (Schema.ofText text).result = .ok s →
      (s.encoders c).result = .ok es → ∀ (path : List String) (n : Node), s.find? path = some n →
      ∃ e, Encoder.find? es path = some e ∧ e.qualified = Scope.qualify ⟨s, c⟩ path := by
  refine ⟨⟨fun h => ?_, separatesNodes_of_exists⟩, ?_⟩
  · cases hall : c.pathSeparator.toList.all isNamePart with
    | true => exact absurd h (not_separatesNodes (List.all_eq_true.1 hall))
    | false => simpa using hall
  · intro text s es hs hes path n hn
    obtain ⟨e, outer, key, hf, hpath, he⟩ :=
      Scope.find?_encoders (Schema.printable_of_ofText hs).nodes hes hn
    exact ⟨e, hf, (Scope.qualified_encoder he).trans (congrArg _ hpath)⟩

/-- A separator of a letter and a full stop, with nodes whose names begin and end with the letter.
The underscore does not tell nodes apart. -/
theorem separatesNodes_iff_mixed :
    let c := { Config.standard with pathSeparator := "x." }
    let text :=
      "message A\x7b\nmessage xB\x7b\n\x7d\n\x7d\nmessage Ax\x7b\nenum B\x7b\nK;\n\x7d\n\x7d"
    c.SeparatesNodes ∧ ¬ Config.standard.SeparatesNodes ∧
      ∃ s es e, (Schema.ofText text).result = .ok s ∧ (s.encoders c).result = .ok es ∧
        Encoder.find? es ["Ax", "B"] = some e ∧ e.qualified = "Axx.B" := by
  intro c text
  let s : Schema := ⟨[
    ("A", ⟨"A", 1, .message, [("xB", ⟨"xB", 2, .message, [], []⟩)], []⟩),
    ("Ax", ⟨"Ax", 5, .message, [("B", ⟨"B", 6, .enum, [], [("K;", .plain)]⟩)], []⟩)]⟩
  have hs : (Schema.ofText text).result = .ok s := by subst text s; rfl
  obtain ⟨es, hes⟩ := failure?_eq_none_iff.1
    (by decide +kernel : failure? (s.encoders c).result = none)
  obtain ⟨e, he, hq⟩ := (separatesNodes_iff c).2 text s es hs hes ["Ax", "B"] _ rfl
  refine ⟨(separatesNodes_iff c).1.2 ⟨'.', by decide, by decide⟩, ?_, s, es, e, hs, hes, he, hq⟩
  rw [(separatesNodes_iff Config.standard).1]
  rintro ⟨x, hx, hout⟩
  obtain rfl : x = '_' := by simpa [Config.standard] using hx
  cases hout

/-! ## Tags -/

theorem endsWith_iff {name suffix : String} :
    endsWith name suffix = true ↔ suffix.toList <:+ name.toList := List.isSuffixOf_iff_suffix

/-- A name that has the suffix is what is left of it, then the suffix. -/
theorem stripSuffix_append {name suffix : String} (h : endsWith name suffix = true) :
    stripSuffix name suffix ++ suffix = name := by
  have hdrop : dropSuffix suffix.toList name.toList ++ suffix.toList = name.toList := by
    rw [dropSuffix, if_pos (List.isSuffixOf_iff_suffix.2 (endsWith_iff.1 h))]
    exact List.suffix_iff_eq_append.1 (endsWith_iff.1 h)
  rw [← String.toList_inj, String.toList_append, stripSuffix, String.toList_ofList, hdrop]

namespace Schema

variable {s : Schema} {c : Config}

/-- A tag is what a message at the top level is called before the suffix. -/
theorem mem_nodeTypes_iff {t : String} :
    t ∈ s.nodeTypes c ↔ ∃ n, (t ++ c.nodeSuffix, n) ∈ s.nodes ∧ n.kind = .message := by
  simp only [nodeTypes, List.mem_filterMap, Option.ite_none_right_eq_some, Option.some.injEq,
    Prod.exists]
  constructor
  · rintro ⟨name, n, hmem, ⟨hk, hends⟩, rfl⟩
    rw [stripSuffix_append hends]
    exact ⟨n, hmem, hk⟩
  · rintro ⟨n, hmem, hk⟩
    have hends : endsWith (t ++ c.nodeSuffix) c.nodeSuffix = true := by
      rw [endsWith_iff, String.toList_append]
      exact List.suffix_append _ _
    exact ⟨_, n, hmem, ⟨hk, hends⟩, (String.append_left_inj _).1 (stripSuffix_append hends)⟩

/-- Names that end with one suffix differ before it. -/
theorem nodup_nodeTypes (h : (Entries.keys s.nodes).Nodup) : (s.nodeTypes c).Nodup := by
  refine List.Pairwise.filterMap _ ?_ (List.pairwise_map.1 h)
  rintro ⟨a, n⟩ ⟨b, m⟩ hne t ht u hu rfl
  rw [Option.ite_none_right_eq_some, Option.some.injEq] at ht hu
  apply hne
  rw [← stripSuffix_append ht.1.2, ← stripSuffix_append hu.1.2, ht.2, hu.2]

theorem isName_of_mem_nodeTypes (h : s.Printable) {t : String} (ht : t ∈ s.nodeTypes c)
    (hne : t ≠ "") : isName t.toList = true := by
  obtain ⟨n, hmem, -⟩ := mem_nodeTypes_iff.1 ht
  have hn := h.nodes.node hmem
  have hname := hn.isName
  rw [hn.key_eq, String.toList_append] at hname
  exact isName_of_isPrefix hname (List.prefix_append _ _) (by simpa using hne)

/-- **The enumeration of tags.** No tag of a schema that is read comes twice, and every tag but the
empty one is a name. The empty one is there only if a message at the top level is called like the
suffix itself, so without such a message every tag is a name. -/
theorem nodeTypes_wellFormed_iff {text : String} (h : (ofText text).result = .ok s) (c : Config) :
    (s.nodeTypes c).Nodup ∧ (∀ t ∈ s.nodeTypes c, t ≠ "" → isName t.toList = true) ∧
      ((∀ t ∈ s.nodeTypes c, isName t.toList = true) ↔
        ∀ n, s.get? c.nodeSuffix = some n → n.kind = .enum) := by
  have hp := printable_of_ofText h
  have hempty : "" ∈ s.nodeTypes c ↔ ∃ n, s.get? c.nodeSuffix = some n ∧ n.kind = .message := by
    simp only [mem_nodeTypes_iff, String.empty_append]
    constructor
    · rintro ⟨n, hmem, hk⟩
      exact ⟨n, Entries.get?_eq_some_of_mem hp.distinct hmem, hk⟩
    · rintro ⟨n, hn, hk⟩
      exact ⟨n, Entries.mem_of_get?_eq_some hn, hk⟩
  refine ⟨nodup_nodeTypes hp.distinct, fun t ht => isName_of_mem_nodeTypes hp ht, ?_⟩
  constructor
  · intro hall n hn
    cases hk : n.kind with
    | enum => rfl
    | message => exact nomatch hall "" (hempty.2 ⟨n, hn, hk⟩)
  · intro hnone t ht
    refine isName_of_mem_nodeTypes hp ht ?_
    rintro rfl
    obtain ⟨n, hn, hk⟩ := hempty.1 ht
    rw [hnone n hn] at hk
    cases hk

/-- An enum is called like the suffix, a message has the suffix twice, and another one overlaps with
it. -/
theorem nodeTypes_wellFormed_iff_overlap :
    let c := { Config.standard with nodeSuffix := "aa" }
    let text := "enum aa\x7b\n\x7d\nmessage aaaa\x7b\n\x7d\nmessage aaa\x7b\n\x7d"
    ∃ s, (ofText text).result = .ok s ∧ s.nodeTypes c = ["aa", "a"] ∧ (s.nodeTypes c).Nodup ∧
      ∀ t ∈ s.nodeTypes c, isName t.toList = true := by
  intro c text
  let s : Schema := ⟨[("aa", ⟨"aa", 1, .enum, [], []⟩), ("aaaa", ⟨"aaaa", 3, .message, [], []⟩),
    ("aaa", ⟨"aaa", 5, .message, [], []⟩)]⟩
  have hs : (ofText text).result = .ok s := by subst text s; rfl
  obtain ⟨hnodup, -, hnames⟩ := nodeTypes_wellFormed_iff hs c
  refine ⟨s, hs, by decide +kernel, hnodup, hnames.2 ?_⟩
  rintro n ⟨⟩
  rfl

/-- A message that is called like the suffix has an empty tag, under settings that are accepted. -/
theorem nodeTypes_of_bare_suffix :
    ∃ s c, (ofText "message Node \x7b\n\x7d").result = .ok s ∧
      Config.ofJson "\x7b\x7d" = .ok c ∧ s.nodeTypes c = [""] ∧ isName "".toList = false :=
  ⟨⟨[("Node", ⟨"Node", 1, .message, [], []⟩)]⟩, .standard, rfl,
    Scope.eq_ok_of_toOption (by decide +kernel), by decide +kernel, rfl⟩

end Schema

end TreeSchema
