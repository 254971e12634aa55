import TreeSchema.Proofs.Faults
import TreeSchema.Proofs.RoundTrip
/-!
# Where arms and encoders agree

The arm of a variant hands a node of the syntax tree on to the encoder of the variant's type, which
has arms of its own. The guard of the one and the guards of the others are found in two ways: the
arm asks for the types of the variants of a union, and the encoder of the union asks for the guard
of each of its variants.

* `Encoder.find?` finds the encoder of a node by the path of the node, and `find?_encoders` says
  that it is the one that is built from the node.
* `Scope.answer` is what an arm answers to, where the type of its variant is no union.
* `Scope.Agrees` is a condition on the variants of a union alone.

`guards_agree_iff` says that the arm of a variant answers to what the encoder of its type answers to
exactly if the type is no union or meets the condition. The two part where the name of a union looks
like that of a node, and where a variant of the union has a guard of its own.
-/
namespace TreeSchema

/-! ## Guards of encoders -/

/-- The expressions that a guard answers to. -/
def Guard.expressions : Guard → List String
  | .single expression => [expression]
  | .anyOf tags => tags

/-- The expressions that some arm answers to. -/
def Dispatch.expressions : Dispatch → List String
  | .union arms => arms.flatMap (·.guard.expressions)
  | .flat guard _ => (Guard.single guard).expressions

namespace Encoder

def name : Encoder → String
  | .enum name _ _ => name
  | .message name _ _ _ _ => name

def nested : Encoder → List Encoder
  | .enum _ _ _ => []
  | .message _ _ _ nested _ => nested

def dispatch? : Encoder → Option Dispatch
  | .enum _ _ _ => none
  | .message _ _ _ _ dispatch => some dispatch

/-- The encoder that a path of names leads to. -/
def find? (es : List Encoder) : List String → Option Encoder
  | [] => none
  | [key] => es.find? (·.name == key)
  | key :: path => (es.find? (·.name == key)).bind fun e => find? e.nested path

/-- How the encoder of the message that a path leads to goes on. -/
def dispatchAt? (es : List Encoder) (path : List String) : Option Dispatch :=
  (find? es path).bind dispatch?

end Encoder

/-! ## The condition -/

/-- The variants that declarations say. -/
def Variant.ofDeclarations (declarations : List String) : List Variant :=
  declarations.filterMap fun d => (Variant.ofDeclaration d).toOption

/-- The variants of a union. -/
def Node.forms (n : Node) : List Variant := Variant.ofDeclarations (n.unionVariants?.getD [])

/-- The variant with index `i` of the union at `path` has no guard of its own, and its type is the
message `m` at the top level, which has no union among the types of its variants. -/
structure Schema.Routes (s : Schema) (path : List String) (i : Nat) (v : Variant) (m : Node) :
    Prop where
  variant : ∃ n variants line, s.find? path = some n ∧ n.kind = .message ∧
    n.unionVariants? = some variants ∧ variants[i]? = some line ∧
    Variant.ofDeclaration line = .ok v
  guard : v.override.guard = none
  target : s.get? v.type = some m
  kind : m.kind = .message
  oneLevel : ∀ w ∈ m.forms, s.isUnion w.type = false

namespace Scope

/-- The name of a type looks like that of a node, with its suffix or without a capital letter. -/
def LooksTagged (cx : Scope) (type : String) : Prop :=
  endsWith type cx.config.nodeSuffix = true ∨ Text.isOwnLowercase type.toList = true

instance (cx : Scope) (type : String) : Decidable (cx.LooksTagged type) :=
  inferInstanceAs (Decidable (_ ∨ _))

/-- What the arm of a variant answers to, if its type is no union. -/
def answer (cx : Scope) (v : Variant) : String := v.override.guard.getD (cx.tag v.type)

/-- A union whose name looks like that of a node has variants, and all of them answer to its own
tag. In any other union, what a variant with a guard of its own answers to is the tag of the type of
some variant, and some variant answers to the tag that the guard stands for. -/
def Agrees (cx : Scope) (type : String) (forms : List Variant) : Prop :=
  if cx.LooksTagged type then forms ≠ [] ∧ ∀ w ∈ forms, cx.answer w = cx.tag type
  else
    (∀ w ∈ forms, w.override.guard ≠ none → ∃ u ∈ forms, cx.answer w = cx.tag u.type) ∧
      ∀ w ∈ forms, w.override.guard ≠ none → ∃ u ∈ forms, cx.answer u = cx.tag w.type

instance (cx : Scope) (type : String) (forms : List Variant) : Decidable (cx.Agrees type forms) :=
  inferInstanceAs (Decidable (ite _ _ _))

end Scope

/-! ## The encoder of a node -/

namespace Scope

variable {cx : Scope} {path : List String} {key : String}

theorem name_encoder {n : Node} {e : Encoder} (h : (cx.encoder path key n).result = .ok e) :
    e.name = key := by
  obtain ⟨name, line, kind, nested, fields⟩ := n
  cases kind with
  | enum =>
    obtain ⟨values, -, rfl⟩ := encoder_enum_eq_ok.1 h
    rfl
  | message =>
    obtain ⟨inner, -, d, -, rfl⟩ := encoder_message_eq_ok.1 h
    rfl

/-- The encoder of a message holds the encoders of the nodes inside it. -/
theorem encoder_message {n : Node} {e : Encoder} (hk : n.kind = .message)
    (h : (cx.encoder path key n).result = .ok e) :
    (cx.encoders (path ++ [key]) n.nested).result = .ok e.nested ∧
      ∃ d, e.dispatch? = some d ∧ (cx.dispatch (cx.qualify (path ++ [key])) n).result = .ok d := by
  obtain ⟨name, line, kind, nested, fields⟩ := n
  obtain rfl : kind = .message := hk
  obtain ⟨inner, hi, d, hd, rfl⟩ := encoder_message_eq_ok.1 h
  exact ⟨hi, d, rfl, hd⟩

theorem find?_of_get? {nodes : List (String × Node)} {es : List Encoder} {n : Node}
    (h : (cx.encoders path nodes).result = .ok es) (hn : Entries.get? nodes key = some n) :
    ∃ e, es.find? (·.name == key) = some e ∧ (cx.encoder path key n).result = .ok e := by
  induction nodes generalizing es with
  | nil => cases hn
  | cons x rest ih =>
    obtain ⟨k, m⟩ := x
    obtain ⟨e, he, es', hes, rfl⟩ := encoders_cons_eq_ok.1 h
    rw [Entries.get?_cons] at hn
    by_cases hk : key = k
    · subst hk
      rw [if_pos rfl] at hn
      cases hn
      refine ⟨e, List.find?_cons_of_pos ?_, he⟩
      rw [name_encoder he, beq_self_eq_true]
    · rw [if_neg hk] at hn
      obtain ⟨e', hf, he'⟩ := ih hes hn
      refine ⟨e', ?_, he'⟩
      rw [List.find?_cons_of_neg, hf]
      rw [name_encoder he, beq_iff_eq]
      exact fun hc => hk hc.symm

/-- A path leads to the encoder that is built from the node there. Paths go through messages only,
since enums hold no nodes. -/
theorem find?_encoders {keys : List String} {n : Node} :
    ∀ {path : List String} {nodes : List (String × Node)} {es : List Encoder},
    Node.AllPrintable nodes →
    (cx.encoders path nodes).result = .ok es → Node.find? nodes keys = some n →
    ∃ e outer key, Encoder.find? es keys = some e ∧ outer ++ [key] = path ++ keys ∧
      (cx.encoder outer key n).result = .ok e := by
  induction keys with
  | nil => exact fun _ _ hn => nomatch hn
  | cons key keys ih =>
    intro path nodes es hp hes hn
    cases keys with
    | nil =>
      obtain ⟨e, hf, he⟩ := find?_of_get? hes hn
      exact ⟨e, path, key, hf, rfl, he⟩
    | cons key' keys =>
      obtain ⟨m, hm, hn⟩ : ∃ m, Entries.get? nodes key = some m ∧
        Node.find? m.nested (key' :: keys) = some n := Option.bind_eq_some_iff.1 hn
      have hmem := Entries.mem_of_get?_eq_some hm
      have hk : m.kind = .message := by
        cases hk : m.kind with
        | message => rfl
        | enum =>
          rw [(hp.node hmem).enumNested hk] at hn
          cases keys <;> cases hn
      obtain ⟨e, hf, he⟩ := find?_of_get? hes hm
      obtain ⟨hin, -⟩ := encoder_message hk he
      obtain ⟨e', outer, last, hf', hout, he'⟩ :=
        ih (hp.inner hmem) hin hn
      refine ⟨e', outer, last, ?_, ?_, he'⟩
      · show (es.find? (·.name == key)).bind (Encoder.find? ·.nested (key' :: keys)) = some e'
        rw [hf]
        exact hf'
      · rw [hout, List.append_assoc]
        rfl

/-- How the encoder of a message goes on is built from the message. -/
theorem dispatchAt?_encoders {s : Schema} {c : Config} (hs : s.Printable) {es : List Encoder}
    (hes : (s.encoders c).result = .ok es) {keys : List String} {n : Node}
    (hn : s.find? keys = some n) (hk : n.kind = .message) :
    ∃ d, Encoder.dispatchAt? es keys = some d ∧
      (dispatch ⟨s, c⟩ (qualify ⟨s, c⟩ keys) n).result = .ok d := by
  obtain ⟨e, outer, key, hf, hout, he⟩ := find?_encoders hs.nodes hes hn
  obtain ⟨-, d, hd, hdr⟩ := encoder_message hk he
  rw [hout] at hdr
  refine ⟨d, ?_, hdr⟩
  rw [Encoder.dispatchAt?, hf]
  exact hd

/-! ## The arms of variants -/

theorem getElem?_arms {inUnion : Bool} {source : Source} {variants : List String} {arms : List Arm}
    (h : cx.arms inUnion source variants = .ok arms) {i : Nat} {line : String}
    (hl : variants[i]? = some line) :
    ∃ a, arms[i]? = some a ∧ cx.arm inUnion source line = .ok a := by
  induction variants generalizing arms i with
  | nil => simp at hl
  | cons text rest ih =>
    simp only [Scope.arms, bind_eq_ok] at h
    obtain ⟨a, ha, as, has, h⟩ := h
    cases h
    cases i with
    | zero =>
      cases hl
      exact ⟨a, rfl, ha⟩
    | succ i => exact ih has hl

/-- The guard of an arm is that of the variant that the arm was built from. -/
theorem guard_arm {inUnion : Bool} {source : Source} {line : String} {a : Arm}
    (h : cx.arm inUnion source line = .ok a) :
    ∃ v, Variant.ofDeclaration line = .ok v ∧ cx.variantGuard v = .ok a.guard := by
  simp only [arm, bind_eq_ok] at h
  obtain ⟨v, hv, g, hg, h⟩ := h
  cases h
  exact ⟨v, hv, hg⟩

end Scope

theorem Variant.ofDeclarations_cons {text : String} {v : Variant}
    (h : Variant.ofDeclaration text = .ok v) (rest : List String) :
    Variant.ofDeclarations (text :: rest) = v :: Variant.ofDeclarations rest := by
  simp [Variant.ofDeclarations, h, Except.toOption]

theorem Node.Printable.unionVariants?_of_enum {key : String} {n : Node} (h : n.Printable key)
    (hk : n.kind = .enum) : n.unionVariants? = none := by
  unfold Node.unionVariants?
  split
  · rename_i hf
    exact nomatch h.enumPlain hk _ (Entries.mem_of_get?_eq_some hf)
  · rfl

namespace Scope

variable {cx : Scope}

theorem types_eq {variants types : List String} (h : Variant.types variants = .ok types) :
    types = (Variant.ofDeclarations variants).map Variant.type := by
  induction variants generalizing types with
  | nil =>
    cases h
    rfl
  | cons text rest ih =>
    simp only [Variant.types, bind_eq_ok] at h
    obtain ⟨v, hv, ts, hts, h⟩ := h
    cases h
    rw [Variant.ofDeclarations_cons hv, ih hts]
    rfl

theorem answer_of_none {v : Variant} (h : v.override.guard = none) :
    cx.answer v = cx.tag v.type := by
  rw [answer, h]
  rfl

/-- A type that is no union gives its variant a single guard. -/
theorem variantGuard_answer (hs : cx.schema.Printable) {v : Variant} {g : Guard}
    (hu : cx.schema.isUnion v.type = false) (h : cx.variantGuard v = .ok g) :
    g = .single (cx.answer v) := by
  cases hg : v.override.guard with
  | some expression =>
    rw [variantGuard_custom hg] at h
    cases h
    rw [answer, hg]
    rfl
  | none =>
    rw [answer_of_none hg]
    by_cases hn : cx.NeedsNode v
    · cases hm : cx.schema.get? v.type with
      | none =>
        rw [variantGuard_unknown hn hm] at h
        cases h
      | some m =>
        have hnone : m.unionVariants? = none := by
          have hp := hs.nodes.node (Entries.mem_of_get?_eq_some hm)
          simp only [Schema.isUnion, hm, Node.isUnion] at hu
          cases hk : m.kind with
          | enum => exact hp.unionVariants?_of_enum hk
          | message => simpa [hk] using hu
        rw [variantGuard_flat hn hm hnone] at h
        cases h
        rfl
    · rw [variantGuard_tag hg hn] at h
      cases h
      rfl

/-- Arms of variants whose types are no unions answer to what the variants say, in order. -/
theorem expressions_arms (hs : cx.schema.Printable) {inUnion : Bool} {source : Source}
    {variants : List String} {arms : List Arm} (h : cx.arms inUnion source variants = .ok arms)
    (hu : ∀ v ∈ Variant.ofDeclarations variants, cx.schema.isUnion v.type = false) :
    arms.flatMap (·.guard.expressions) = (Variant.ofDeclarations variants).map cx.answer := by
  induction variants generalizing arms with
  | nil =>
    cases h
    rfl
  | cons text rest ih =>
    simp only [Scope.arms, bind_eq_ok] at h
    obtain ⟨a, ha, as, has, h⟩ := h
    cases h
    obtain ⟨v, hv, hg⟩ := guard_arm ha
    rw [Variant.ofDeclarations_cons hv] at hu ⊢
    have hva := variantGuard_answer hs (hu v List.mem_cons_self) hg
    have hrest := ih has fun w hw => hu w (List.mem_cons_of_mem _ hw)
    rw [List.flatMap_cons, hrest, hva]
    rfl

/-! ## Dispatch -/

theorem dispatch_union {qualified : String} {n : Node} {d : Dispatch} {variants : List String}
    (hu : n.unionVariants? = some variants) (h : (cx.dispatch qualified n).result = .ok d) :
    ∃ arms, d = .union arms ∧ cx.arms true .node variants = .ok arms := by
  simp only [dispatch, hu, Traced.result_bind, Traced.result_liftM, Traced.result_pure,
    bind_eq_ok] at h
  obtain ⟨arms, ha, h⟩ := h
  cases h
  exact ⟨arms, rfl, ha⟩

theorem dispatch_flat {qualified : String} {n : Node} {d : Dispatch} (hu : n.unionVariants? = none)
    (hc : cx.config.fixedGuards = []) (h : (cx.dispatch qualified n).result = .ok d) :
    d.expressions = [cx.tag qualified] := by
  simp only [dispatch, hu, Traced.result_bind, Traced.result_pure, bind_eq_ok, Config.fixedGuard?,
    hc] at h
  obtain ⟨properties, -, h⟩ := h
  cases h
  rfl

/-- What the encoder of a message at the top level answers to: its tag, or what its variants say. -/
theorem expressions_dispatch (hs : cx.schema.Printable) (hc : cx.config.fixedGuards = [])
    {type : String} {m : Node} {d : Dispatch}
    (hu : ∀ w ∈ m.forms, cx.schema.isUnion w.type = false)
    (h : (cx.dispatch (cx.qualify [type]) m).result = .ok d) :
    d.expressions = if m.unionVariants?.isSome then m.forms.map cx.answer else [cx.tag type] := by
  cases hm : m.unionVariants? with
  | none => exact dispatch_flat hm hc h
  | some variants =>
    obtain ⟨arms, rfl, ha⟩ := dispatch_union hm h
    rw [Node.forms, hm] at hu ⊢
    exact expressions_arms hs ha hu

/-- What the arm of a variant answers to whose type is declared at the top level: its tag, or the
tags of its variants. -/
theorem expressions_variantGuard {v : Variant} {m : Node} {g : Guard}
    (hg : v.override.guard = none) (hm : cx.schema.get? v.type = some m)
    (h : cx.variantGuard v = .ok g) :
    g.expressions =
      if m.unionVariants?.isSome ∧ ¬ cx.LooksTagged v.type then m.forms.map (cx.tag ·.type)
      else [cx.tag v.type] := by
  by_cases hn : cx.NeedsNode v
  · have hl : ¬ cx.LooksTagged v.type := by
      rintro (hl | hl)
      · exact absurd hl (by simp [hn.2.1])
      · exact absurd hl (by simp [hn.2.2])
    cases hu : m.unionVariants? with
    | none =>
      rw [variantGuard_flat hn hm hu] at h
      cases h
      rfl
    | some variants =>
      rw [variantGuard_union hn hm hu, bind_eq_ok] at h
      obtain ⟨types, ht, h⟩ := h
      cases h
      rw [if_pos ⟨rfl, hl⟩, types_eq ht, Node.forms, hu, List.map_map]
      rfl
  · have hl : cx.LooksTagged v.type := by
      by_cases hsuf : endsWith v.type cx.config.nodeSuffix = true
      · exact Or.inl hsuf
      · refine Or.inr ?_
        cases hlow : Text.isOwnLowercase v.type.toList with
        | true => rfl
        | false => exact absurd ⟨hg, by simpa using hsuf, hlow⟩ hn
    rw [variantGuard_tag hg hn] at h
    cases h
    rw [if_neg fun hc => hc.2 hl]
    rfl

/-! ## Agreement -/

theorem mem_singleton_iff_agrees {type : String} {forms : List Variant} (h : cx.LooksTagged type) :
    (∀ x, x ∈ [cx.tag type] ↔ x ∈ forms.map cx.answer) ↔ cx.Agrees type forms := by
  rw [Agrees, if_pos h]
  simp only [List.mem_singleton, List.mem_map]
  constructor
  · intro hx
    obtain ⟨w, hw, -⟩ := (hx (cx.tag type)).1 rfl
    exact ⟨List.ne_nil_of_mem hw, fun u hu => (hx _).2 ⟨u, hu, rfl⟩⟩
  · rintro ⟨hne, ha⟩ x
    constructor
    · rintro rfl
      obtain ⟨w, hw⟩ := List.exists_mem_of_ne_nil forms hne
      exact ⟨w, hw, ha w hw⟩
    · rintro ⟨w, hw, rfl⟩
      exact ha w hw

theorem mem_tags_iff_agrees {type : String} {forms : List Variant} (h : ¬ cx.LooksTagged type) :
    (∀ x, x ∈ forms.map (cx.tag ·.type) ↔ x ∈ forms.map cx.answer) ↔ cx.Agrees type forms := by
  rw [Agrees, if_neg h]
  simp only [List.mem_map]
  constructor
  · intro hx
    refine ⟨fun w hw _ => ?_, fun w hw _ => (hx _).1 ⟨w, hw, rfl⟩⟩
    obtain ⟨u, hu, he⟩ := (hx (cx.answer w)).2 ⟨w, hw, rfl⟩
    exact ⟨u, hu, he.symm⟩
  · rintro ⟨hown, hstand⟩ x
    -- a variant without a guard of its own answers to its tag
    constructor
    · rintro ⟨w, hw, rfl⟩
      by_cases hg : w.override.guard = none
      · exact ⟨w, hw, answer_of_none hg⟩
      · exact hstand w hw hg
    · rintro ⟨w, hw, rfl⟩
      by_cases hg : w.override.guard = none
      · exact ⟨w, hw, (answer_of_none hg).symm⟩
      · obtain ⟨u, hu, he⟩ := hown w hw hg
        exact ⟨u, hu, he.symm⟩

/-- The arm of a variant and the encoder of its type, told apart by what they answer to. -/
theorem expressions_agree_iff (hs : cx.schema.Printable) (hc : cx.config.fixedGuards = [])
    {v : Variant} {m : Node} {g : Guard} {d : Dispatch} (hv : v.override.guard = none)
    (hm : cx.schema.get? v.type = some m) (hu : ∀ w ∈ m.forms, cx.schema.isUnion w.type = false)
    (hg : cx.variantGuard v = .ok g) (hd : (cx.dispatch (cx.qualify [v.type]) m).result = .ok d) :
    (∀ x, x ∈ g.expressions ↔ x ∈ d.expressions) ↔
      m.unionVariants? = none ∨ cx.Agrees v.type m.forms := by
  rw [expressions_variantGuard hv hm hg, expressions_dispatch hs hc hu hd]
  cases hmu : m.unionVariants? with
  | none => simp
  | some variants =>
    simp only [Option.isSome_some, true_and, ite_true, reduceCtorEq, false_or]
    by_cases hl : cx.LooksTagged v.type
    · rw [if_neg (not_not_intro hl)]
      exact mem_singleton_iff_agrees hl
    · rw [if_pos hl]
      exact mem_tags_iff_agrees hl

end Scope

namespace Schema

/-- Where a variant routes to a message, its arm has the guard of the variant, and the message has
an encoder. -/
theorem Routes.exists_arm {s : Schema} {c : Config} {es : List Encoder} {path : List String}
    {i : Nat} {v : Variant} {m : Node} (h : s.Routes path i v m) (hs : s.Printable)
    (hes : (s.encoders c).result = .ok es) :
    ∃ arms a d, Encoder.dispatchAt? es path = some (.union arms) ∧ arms[i]? = some a ∧
      Scope.variantGuard ⟨s, c⟩ v = .ok a.guard ∧ Encoder.dispatchAt? es [v.type] = some d ∧
      (Scope.dispatch ⟨s, c⟩ (Scope.qualify ⟨s, c⟩ [v.type]) m).result = .ok d := by
  obtain ⟨n, variants, line, hn, hk, hu, hl, hv⟩ := h.variant
  obtain ⟨d, hd, hdr⟩ := Scope.dispatchAt?_encoders hs hes hn hk
  obtain ⟨arms, rfl, ha⟩ := Scope.dispatch_union hu hdr
  obtain ⟨a, hai, ha⟩ := Scope.getElem?_arms ha hl
  obtain ⟨w, hw, hag⟩ := Scope.guard_arm ha
  rw [hv] at hw
  cases hw
  have ht : s.find? [v.type] = some m := h.target
  obtain ⟨d', hd', hdr'⟩ := Scope.dispatchAt?_encoders hs hes ht h.kind
  exact ⟨arms, a, d', hd, hai, hag, hd', hdr'⟩

/-- **Agreement of guards.** In the module of a schema that is read from a text, with settings that
fix no guards, let a variant at any depth route to a message at the top level. Then the arm of the
variant answers to the same expressions as the encoder of the message if and only if the message is
no union or its variants meet the condition `Scope.Agrees`. -/
theorem guards_agree_iff {text : String} {s : Schema} {c : Config} {es : List Encoder}
    (hs : (ofText text).result = .ok s) (hc : c.fixedGuards = [])
    (hes : (s.encoders c).result = .ok es) {path : List String} {i : Nat} {v : Variant} {m : Node}
    (h : s.Routes path i v m) :
    ∃ arms a d, Encoder.dispatchAt? es path = some (.union arms) ∧ arms[i]? = some a ∧
      Encoder.dispatchAt? es [v.type] = some d ∧
      ((∀ x, x ∈ a.guard.expressions ↔ x ∈ d.expressions) ↔
        m.unionVariants? = none ∨ Scope.Agrees ⟨s, c⟩ v.type m.forms) := by
  have hp := printable_of_ofText hs
  obtain ⟨arms, a, d, ha, hai, hag, hd, hdr⟩ := h.exists_arm hp hes
  exact ⟨arms, a, d, ha, hai, hd,
    Scope.expressions_agree_iff hp hc h.guard h.target h.oneLevel hag hdr⟩

set_option maxRecDepth 4000 in
/-- A union inside a message routes to a union whose variants have each other's tags as guards. -/
theorem guards_agree_iff_swapped :
    let text := "message Expr\x7b\noneof kind\x7b\nANode a; // (NodeType.B)\n" ++
      "BNode b; // (NodeType.A)\n\x7d\n\x7d\nmessage P\x7b\nmessage Q\x7b\noneof kind\x7b\nExpr e;\n" ++
      "\x7d\n\x7d\n\x7d"
    let m : Node := ⟨"Expr", 1, .message, [], [("kind", .oneof
      ["ANode a; // (NodeType.B)", "BNode b; // (NodeType.A)"])]⟩
    let q : Node := ⟨"Q", 8, .message, [], [("kind", .oneof ["Expr e;"])]⟩
    let s : Schema := ⟨[("Expr", m), ("P", ⟨"P", 7, .message, [("Q", q)], []⟩)]⟩
    let v : Variant := ⟨"Expr", "e", ⟨none, none⟩⟩
    let c := { Config.standard with fixedGuards := [] }
    (ofText text).result = .ok s ∧ s.Routes ["P", "Q"] 0 v m ∧
      ∃ es, (s.encoders c).result = .ok es ∧
        ∃ arms a d, Encoder.dispatchAt? es ["P", "Q"] = some (.union arms) ∧ arms[0]? = some a ∧
          Encoder.dispatchAt? es ["Expr"] = some d ∧
          ∀ x, x ∈ a.guard.expressions ↔ x ∈ d.expressions := by
  intro text m q s v c
  have hs : (ofText text).result = .ok s := by subst text s m q; rfl
  have hr : s.Routes ["P", "Q"] 0 v m :=
    ⟨⟨q, ["Expr e;"], "Expr e;", rfl, rfl, rfl, rfl, rfl⟩, rfl, rfl, rfl, by subst s m q; decide⟩
  obtain ⟨es, hes⟩ : ∃ es, (s.encoders c).result = .ok es := by
    subst s m q c
    exact ⟨_, rfl⟩
  obtain ⟨arms, a, d, ha, hai, hd, h⟩ := guards_agree_iff hs rfl hes hr
  have hagrees : Scope.Agrees ⟨s, c⟩ "Expr" m.forms := by subst s m q c; decide
  exact ⟨hs, hr, es, hes, arms, a, d, ha, hai, hd, h.2 (Or.inr hagrees)⟩

/-- Some variant routes to a message whose encoder does not answer to the same expressions as the
arm of the variant. -/
def Misroutes (s : Schema) (c : Config) : Prop :=
  ∃ es path i v m arms a d, (s.encoders c).result = .ok es ∧ s.Routes path i v m ∧
    Encoder.dispatchAt? es path = some (.union arms) ∧ arms[i]? = some a ∧
    Encoder.dispatchAt? es [v.type] = some d ∧ ¬ ∀ x, x ∈ a.guard.expressions ↔ x ∈ d.expressions

theorem Routes.misroutes {s : Schema} {c : Config} {path : List String} {i : Nat} {v : Variant}
    {m : Node} (h : s.Routes path i v m) {text : String} (hs : (ofText text).result = .ok s)
    (hc : c.fixedGuards = []) (hes : ∃ es, (s.encoders c).result = .ok es)
    (hn : ¬ (m.unionVariants? = none ∨ Scope.Agrees ⟨s, c⟩ v.type m.forms)) :
    ∃ s, (ofText text).result = .ok s ∧ s.Misroutes c := by
  have hp := printable_of_ofText hs
  obtain ⟨es, hes⟩ := hes
  obtain ⟨arms, a, d, ha, hai, hag, hd, hdr⟩ := h.exists_arm hp hes
  refine ⟨s, hs, es, path, i, v, m, arms, a, d, hes, h, ha, hai, hd, fun hx => hn ?_⟩
  exact (Scope.expressions_agree_iff hp hc h.guard h.target h.oneLevel hag hdr).1 hx

/-- The arm and the encoder part where the name of a union has the suffix of nodes, and where a
variant of a union has a guard that is not a tag. -/
theorem misroutes_of_suffix_or_guard :
    let c := { Config.standard with fixedGuards := [] }
    ∀ text ∈ ["message ENode\x7b\noneof kind\x7b\nANode a;\n\x7d\n\x7d\n" ++
        "message P\x7b\noneof kind\x7b\nENode e;\n\x7d\n\x7d",
      "message E\x7b\noneof kind\x7b\nANode a; // (x)\n\x7d\n\x7d\n" ++
        "message P\x7b\noneof kind\x7b\nE e;\n\x7d\n\x7d"],
      ∃ s, (ofText text).result = .ok s ∧ s.Misroutes c := by
  intro c text ht
  simp only [List.mem_cons, List.not_mem_nil, or_false] at ht
  subst c
  rcases ht with rfl | rfl
  · have hr : Routes ⟨[("ENode", ⟨"ENode", 1, .message, [], [("kind", .oneof ["ANode a;"])]⟩),
        ("P", ⟨"P", 6, .message, [], [("kind", .oneof ["ENode e;"])]⟩)]⟩ ["P"] 0
        ⟨"ENode", "e", ⟨none, none⟩⟩ _ :=
      ⟨⟨_, _, _, rfl, rfl, rfl, rfl, rfl⟩, rfl, rfl, rfl, by decide⟩
    exact hr.misroutes rfl rfl ⟨_, rfl⟩ (by decide)
  · have hr : Routes ⟨[("E", ⟨"E", 1, .message, [], [("kind", .oneof ["ANode a; // (x)"])]⟩),
        ("P", ⟨"P", 6, .message, [], [("kind", .oneof ["E e;"])]⟩)]⟩ ["P"] 0
        ⟨"E", "e", ⟨none, none⟩⟩ _ :=
      ⟨⟨_, _, _, rfl, rfl, rfl, rfl, rfl⟩, rfl, rfl, rfl, by decide⟩
    exact hr.misroutes rfl rfl ⟨_, rfl⟩ (by decide)

end Schema

end TreeSchema
