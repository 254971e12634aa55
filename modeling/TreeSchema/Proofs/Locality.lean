import TreeSchema.Proofs.Entries
import TreeSchema.Proofs.Faults
/-!
# What an encoder asks of the rest of the schema

Every node at the top level has a block of lines, which holds its encoder and those of the nodes
inside it. A block is written from the node itself and from what the schema shows of other nodes:

* `Schema.facade?` is all that is ever asked about a name: the kind of the node that has it at the
  top level, and the variants of that node.
* `Scope.AgreeOn` says that two scopes answer alike for some declarations. An encoder is then the
  same in both if they agree on the declarations that it is built from (`AgreeOn.encoder`).

Two changes of a schema are looked at. `encoderLines_further`: a message with a new name may join
at any place and leaves the blocks of the others as they are. `encoderLines_perm`: the order of the
nodes is the order of their blocks and changes nothing else.
-/
namespace TreeSchema

/-! ## Blocks -/

namespace Schema

/-- The lines of the encoders at the top level, one encoder after another. -/
def encoderLines (s : Schema) (c : Config) : Except Error (List String) := do
  let es ← (s.encoders c).result
  pure (Encoder.linesAll true es)

/-- The lines of the encoder of an entry at the top level, with the encoders inside it. -/
def block (s : Schema) (c : Config) (x : String × Node) : Except Error (List String) := do
  let e ← (Scope.encoder ⟨s, c⟩ [] x.1 x.2).result
  pure (e.lines true)

section
variable {s : Schema} {c : Config}

/-- The module is its prologue and the lines of the encoders. -/
theorem moduleText_result (s : Schema) (c : Config) :
    (s.moduleText c).result = s.encoderLines c >>= fun ls =>
      pure ("\n".intercalate (prologue c (s.nodeTypes c) ++ ls)) := by
  simp only [moduleText, moduleLines, encoderLines, Traced.result_bind, Traced.result_note,
    Traced.result_pure]
  cases (s.encoders c).result with
  | error e => rfl
  | ok es => rfl

theorem exists_block_of_encoders {entries : List (String × Node)} {es : List Encoder}
    (h : (Scope.encoders ⟨s, c⟩ [] entries).result = .ok es) :
    ∀ x ∈ entries, ∃ b, s.block c x = .ok b := by
  induction entries generalizing es with
  | nil => exact nofun
  | cons x rest ih =>
    obtain ⟨key, n⟩ := x
    obtain ⟨e, he, es, hes, -⟩ := Scope.encoders_cons_eq_ok.1 h
    intro y hy
    rcases List.mem_cons.1 hy with rfl | hy
    · exact ⟨e.lines true, bind_eq_ok.2 ⟨e, he, rfl⟩⟩
    · exact ih hes y hy

theorem encoders_of_blocks {entries : List (String × Node)} {f : String × Node → List String}
    (h : ∀ x ∈ entries, s.block c x = .ok (f x)) :
    ∃ es, (Scope.encoders ⟨s, c⟩ [] entries).result = .ok es ∧
      Encoder.linesAll true es = entries.flatMap f := by
  induction entries with
  | nil => exact ⟨[], rfl, rfl⟩
  | cons x rest ih =>
    obtain ⟨key, n⟩ := x
    obtain ⟨e, he, hf⟩ := bind_eq_ok.1 (h (key, n) List.mem_cons_self)
    obtain ⟨es, hes, hl⟩ := ih fun y hy => h y (List.mem_cons_of_mem _ hy)
    refine ⟨e :: es, Scope.encoders_cons_eq_ok.2 ⟨e, he, es, hes, rfl⟩, ?_⟩
    rw [Encoder.linesAll, hl, List.flatMap_cons, Except.ok.inj hf]

theorem encoderLines_of_blocks {f : String × Node → List String}
    (h : ∀ x ∈ s.nodes, s.block c x = .ok (f x)) :
    s.encoderLines c = .ok (s.nodes.flatMap f) := by
  obtain ⟨es, hes, hl⟩ := encoders_of_blocks h
  exact bind_eq_ok.2 ⟨es, hes, congrArg Except.ok hl⟩

theorem exists_block_function {entries : List (String × Node)}
    (h : ∀ x ∈ entries, ∃ b, s.block c x = .ok b) :
    ∃ f : String × Node → List String, ∀ x ∈ entries, s.block c x = .ok (f x) := by
  refine ⟨fun x => (s.block c x).toOption.getD [], fun x hx => ?_⟩
  obtain ⟨b, hb⟩ := h x hx
  simp only [hb]
  rfl

/-- The encoders are written exactly if each entry has a block. -/
theorem exists_encoderLines_iff :
    (∃ ls, s.encoderLines c = .ok ls) ↔ ∀ x ∈ s.nodes, ∃ b, s.block c x = .ok b := by
  constructor
  · rintro ⟨ls, h⟩
    obtain ⟨es, hes, -⟩ := bind_eq_ok.1 h
    exact exists_block_of_encoders hes
  · intro h
    obtain ⟨f, hf⟩ := exists_block_function h
    exact ⟨_, encoderLines_of_blocks hf⟩

/-- The lines of the encoders are the blocks in order. -/
theorem blocks_of_encoderLines {ls : List String} (h : s.encoderLines c = .ok ls) :
    ∃ f : String × Node → List String, (∀ x ∈ s.nodes, s.block c x = .ok (f x)) ∧
      ls = s.nodes.flatMap f := by
  obtain ⟨f, hf⟩ := exists_block_function (exists_encoderLines_iff.1 ⟨ls, h⟩)
  rw [encoderLines_of_blocks hf] at h
  exact ⟨f, hf, (Except.ok.inj h).symm⟩

/-- No declaration is bad where the encoders are written. -/
theorem fault?_eq_none_of_encoderLines {ls : List String} (h : s.encoderLines c = .ok ls) :
    ∀ d ∈ s.inspected, Scope.fault? ⟨s, c⟩ d = none := by
  obtain ⟨es, hes, -⟩ := bind_eq_ok.1 h
  have hf := failure?_eq_none_iff.2 ⟨es, hes⟩
  rw [encoders, Scope.failure?_encoders] at hf
  exact List.findSome?_eq_none_iff.1 hf

end

end Schema

/-! ## What a schema shows -/

namespace Schema

/-- All that an encoder asks about a name: the kind of the node that has it at the top level, and
the variants of that node. -/
def facade? (s : Schema) (name : String) : Option (NodeKind × Option (List String)) :=
  (s.get? name).map fun n => (n.kind, n.unionVariants?)

theorem facade?_of_get? {s : Schema} {name : String} {n : Node} (h : s.get? name = some n) :
    s.facade? name = some (n.kind, n.unionVariants?) := by
  rw [facade?, h]
  rfl

theorem facade?_eq_none_iff {s : Schema} {name : String} :
    s.facade? name = none ↔ s.get? name = none := Option.map_eq_none_iff

theorem isEnum_eq (s : Schema) (name : String) :
    s.isEnum name = ((s.facade? name).map fun x => x.1 == .enum).getD false := by
  unfold isEnum facade?
  cases s.get? name with
  | none => rfl
  | some n => rfl

theorem variantClass_eq (s : Schema) (type suffix : String) :
    s.variantClass type suffix =
      if endsWith type suffix || Text.isOwnLowercase type.toList then .ok .tag
      else
        (s.facade? type).elim (.error (.unknownType type)) fun x => .ok (x.2.elim .tag .union) := by
  unfold variantClass facade?
  cases s.get? type with
  | none => rfl
  | some n =>
    cases hu : n.unionVariants? with
    | none => simp [hu]
    | some variants => simp [hu]

end Schema

/-! ## Scopes that agree -/

namespace Scope

/-- Two scopes have the same settings, tell the same classes of types, and give the same guards to
the variants among some declarations. -/
structure AgreeOn (cx cx' : Scope) (ds : List Declared) : Prop where
  config : cx'.config = cx.config
  typeClass : ∀ type, cx'.schema.typeClass type = cx.schema.typeClass type
  guards : ∀ text v, ⟨.variant, text⟩ ∈ ds → Variant.ofDeclaration text = .ok v →
    cx'.variantGuard v = cx.variantGuard v

namespace AgreeOn

variable {cx cx' : Scope} {ds es : List Declared}

theorem mono (h : cx.AgreeOn cx' ds) (hs : es ⊆ ds) : cx.AgreeOn cx' es :=
  ⟨h.config, h.typeClass, fun text v hd hv => h.guards text v (hs hd) hv⟩

theorem tag (h : cx.AgreeOn cx' ds) (type : String) : cx'.tag type = cx.tag type := by
  unfold Scope.tag
  rw [h.config]

theorem qualify (h : cx.AgreeOn cx' ds) (path : List String) :
    cx'.qualify path = cx.qualify path := by
  unfold Scope.qualify
  rw [h.config]

theorem arm (h : cx.AgreeOn cx' ds) {text : String} (hd : ⟨.variant, text⟩ ∈ ds) (inUnion : Bool)
    (source : Source) : cx'.arm inUnion source text = cx.arm inUnion source text := by
  unfold Scope.arm
  cases hv : Variant.ofDeclaration text with
  | error e => rfl
  | ok v => rw [ok_bind, ok_bind, h.guards text v hd hv]

theorem arms {variants : List String}
    (h : cx.AgreeOn cx' (variants.map (Declared.mk .variant))) (inUnion : Bool) (source : Source) :
    cx'.arms inUnion source variants = cx.arms inUnion source variants := by
  induction variants with
  | nil => rfl
  | cons text rest ih =>
    rw [Scope.arms, Scope.arms, h.arm List.mem_cons_self, ih (h.mono (List.subset_cons_self _ _))]

theorem plainProperty (h : cx.AgreeOn cx' ds) (text : String) :
    cx'.plainProperty text = cx.plainProperty text := by
  unfold Scope.plainProperty
  simp only [h.typeClass]

theorem choiceProperty {variants : List String}
    (h : cx.AgreeOn cx' (variants.map (Declared.mk .variant))) (qualified key : String) :
    cx'.choiceProperty qualified key variants = cx.choiceProperty qualified key variants := by
  unfold Scope.choiceProperty
  rw [h.config, h.arms, h.arms]

theorem property {x : String × Member} (h : cx.AgreeOn cx' (Member.declared x))
    (qualified : String) : cx'.property qualified x = cx.property qualified x := by
  obtain ⟨key, member⟩ := x
  cases member with
  | plain => exact h.plainProperty key
  | oneof variants =>
    have hc : cx.AgreeOn cx' (variants.map (Declared.mk .variant)) := h
    simp only [Scope.property, hc.choiceProperty]

theorem properties {fields : Entries Member}
    (h : cx.AgreeOn cx' (fields.flatMap Member.declared)) (qualified : String) :
    Traced.forEach (cx'.property qualified) fields =
      Traced.forEach (cx.property qualified) fields := by
  induction fields with
  | nil => simp only [Traced.forEach]
  | cons x rest ih =>
    rw [List.flatMap_cons] at h
    rw [Traced.forEach, Traced.forEach, (h.mono (List.subset_append_left _ _)).property,
      ih (h.mono (List.subset_append_right _ _))]

theorem dispatch {n : Node} (hk : n.kind = .message) (h : cx.AgreeOn cx' n.inspects)
    (qualified : String) : cx'.dispatch qualified n = cx.dispatch qualified n := by
  unfold Node.inspects at h
  rw [hk] at h
  unfold Scope.dispatch
  cases hu : n.unionVariants? with
  | some variants =>
    rw [hu] at h
    simp only [h.arms]
  | none =>
    rw [hu] at h
    simp only [h.config, h.tag, h.properties]

mutual

/-- An encoder is the same wherever the declarations that it is built from say the same. -/
theorem encoder (path : List String) (key : String) : ∀ {n : Node},
    cx.AgreeOn cx' n.inspected → cx'.encoder path key n = cx.encoder path key n
  | ⟨name, line, .enum, nested, fields⟩, h => by simp only [Scope.encoder, h.qualify]
  | ⟨name, line, .message, nested, fields⟩, h => by
    have hn := encoders (path ++ [key]) (h.mono (Node.inspectedAll_subset rfl))
    have hd := (h.mono (Node.inspects_subset _)).dispatch rfl
    simp only [Scope.encoder, h.qualify, h.config, hn, hd]

theorem encoders (path : List String) : ∀ {nodes : List (String × Node)},
    cx.AgreeOn cx' (Node.inspectedAll nodes) → cx'.encoders path nodes = cx.encoders path nodes
  | [], _ => rfl
  | (key, n) :: rest, h => by
    rw [Node.inspectedAll] at h
    rw [Scope.encoders, Scope.encoders, encoder path key (h.mono (List.subset_append_left _ _)),
      encoders path (h.mono (List.subset_append_right _ _))]

end

end AgreeOn

/-! ### When scopes agree -/

section
variable {s s' : Schema} {c : Config}

theorem typeClass_congr {type : String} (h : s'.isEnum type = s.isEnum type) :
    s'.typeClass type = s.typeClass type := by
  unfold Schema.typeClass
  rw [h]

theorem variantGuard_congr {v : Variant} (h : s'.facade? v.type = s.facade? v.type) :
    variantGuard ⟨s', c⟩ v = variantGuard ⟨s, c⟩ v := by
  simp only [variantGuard, Schema.variantClass_eq, h]
  rfl

/-- Schemas that show the same agree on all declarations. -/
theorem AgreeOn.of_facade? (h : ∀ name, s'.facade? name = s.facade? name) (c : Config)
    (ds : List Declared) : AgreeOn ⟨s, c⟩ ⟨s', c⟩ ds where
  config := rfl
  typeClass type := typeClass_congr (by rw [Schema.isEnum_eq, Schema.isEnum_eq, h])
  guards _ v _ _ := variantGuard_congr (h v.type)

/-- A schema with further messages agrees on the declarations that are not bad without them. A bad
one may become good, since the type of a variant may be a further message. -/
theorem AgreeOn.of_further {ds : List Declared}
    (h : ∀ name, s'.facade? name = s.facade? name ∨
      s.facade? name = none ∧ ∃ variants, s'.facade? name = some (.message, variants))
    (hds : ∀ d ∈ ds, fault? ⟨s, c⟩ d = none) : AgreeOn ⟨s, c⟩ ⟨s', c⟩ ds where
  config := rfl
  typeClass type := by
    apply typeClass_congr
    rw [Schema.isEnum_eq, Schema.isEnum_eq]
    -- a name that is not declared is no enum, and neither is a message
    rcases h type with h | ⟨hn, variants, hm⟩
    · rw [h]
    · rw [hn, hm]
      rfl
  guards text v hd hv := by
    rcases h v.type with h | ⟨hn, -⟩
    · exact variantGuard_congr h
    · have hok : failure? (variantGuard ⟨s, c⟩ v) = none := by
        rw [← fault?_variant_ok _ hv]
        exact hds _ hd
      have hneeds : ¬ NeedsNode ⟨s, c⟩ v := by
        intro hneeds
        rw [variantGuard_unknown hneeds (Schema.facade?_eq_none_iff.1 hn)] at hok
        cases hok
      have hneeds' : ¬ NeedsNode ⟨s', c⟩ v := hneeds
      cases hg : v.override.guard with
      | some expression => rw [variantGuard_custom hg, variantGuard_custom hg]
      | none =>
        rw [variantGuard_tag hg hneeds, variantGuard_tag hg hneeds']
        rfl

end

end Scope

namespace Schema

variable {s s' : Schema} {c : Config}

/-- A block is the same wherever the declarations in it say the same. -/
theorem block_congr {x : String × Node} (h : Scope.AgreeOn ⟨s, c⟩ ⟨s', c⟩ x.2.inspected) :
    s'.block c x = s.block c x := by
  unfold block
  rw [h.encoder]

theorem nodeTypes_append (a b : Entries Node) (c : Config) :
    nodeTypes ⟨a ++ b⟩ c = nodeTypes ⟨a⟩ c ++ nodeTypes ⟨b⟩ c := List.filterMap_append

/-! ## A further message -/

theorem facade?_further {before after : Entries Node} {m : Node} (hm : m.kind = .message)
    (hk : m.name ∉ Entries.keys (before ++ after)) (name : String) :
    facade? ⟨before ++ (m.name, m) :: after⟩ name = facade? ⟨before ++ after⟩ name ∨
      facade? ⟨before ++ after⟩ name = none ∧
        ∃ variants, facade? ⟨before ++ (m.name, m) :: after⟩ name = some (.message, variants) := by
  have hget := Entries.get?_append_cons before after m hk name
  by_cases h : name = m.name
  · refine Or.inr ⟨?_, m.unionVariants?, ?_⟩
    · rw [facade?_eq_none_iff, h]
      exact Entries.get?_eq_none_of_not_mem hk
    · rw [if_pos h] at hget
      rw [facade?_of_get? hget, hm]
  · refine Or.inl ?_
    rw [if_neg h] at hget
    unfold facade? get?
    rw [hget]

theorem nodeTypes_message {m : Node} (hm : m.kind = .message) (c : Config) :
    nodeTypes ⟨[(m.name, m)]⟩ c =
      if endsWith m.name c.nodeSuffix then [stripSuffix m.name c.nodeSuffix] else [] := by
  unfold nodeTypes
  cases hs : endsWith m.name c.nodeSuffix <;> simp [hm, hs]

theorem flatMap_further {before after : Entries Node} {x : String × Node}
    {f g : String × Node → List String} (hf : ∀ y ∈ before ++ after, s.block c y = .ok (f y))
    (hg : ∀ y ∈ before ++ x :: after, s.block c y = .ok (g y)) :
    (before ++ x :: after).flatMap g = before.flatMap f ++ g x ++ after.flatMap f := by
  have hb : ∀ y ∈ before, g y = f y := fun y hy =>
    Except.ok.inj ((hg y (by simp [hy])).symm.trans (hf y (by simp [hy])))
  have ha : ∀ y ∈ after, g y = f y := fun y hy =>
    Except.ok.inj ((hg y (by simp [hy])).symm.trans (hf y (by simp [hy])))
  rw [List.flatMap_append, List.flatMap_cons, List.append_assoc]
  simp only [List.flatMap_def, List.map_congr_left hb, List.map_congr_left ha]

/-- **A further message.** Let a message with a new name join the nodes at the top level, at any
place, of a schema whose encoders are written. Then the blocks of the other nodes stay as they are.
The encoders are written exactly if the message has a block, with this block at its place between
the others. The tags of nodes are as before, but for the tag of the message at its place if its name
has the suffix of nodes. -/
theorem encoderLines_further {before after : Entries Node} {m : Node} {ls : List String}
    (hm : m.kind = .message) (hk : m.name ∉ Entries.keys (before ++ after))
    (h : encoderLines ⟨before ++ after⟩ c = .ok ls) :
    let s : Schema := ⟨before ++ after⟩
    let s' : Schema := ⟨before ++ (m.name, m) :: after⟩
    (∃ f : String × Node → List String,
      (∀ x ∈ s.nodes, s.block c x = .ok (f x) ∧ s'.block c x = .ok (f x)) ∧
      ls = before.flatMap f ++ after.flatMap f ∧
      ∀ ls', s'.encoderLines c = .ok ls' ↔
        ∃ b, s'.block c (m.name, m) = .ok b ∧ ls' = before.flatMap f ++ b ++ after.flatMap f) ∧
    s.nodeTypes c = nodeTypes ⟨before⟩ c ++ nodeTypes ⟨after⟩ c ∧
    s'.nodeTypes c = nodeTypes ⟨before⟩ c ++
      (if endsWith m.name c.nodeSuffix then [stripSuffix m.name c.nodeSuffix] else []) ++
      nodeTypes ⟨after⟩ c := by
  intro s s'
  obtain ⟨f, hf, hls⟩ := blocks_of_encoderLines h
  have hf' : ∀ x ∈ s.nodes, s'.block c x = .ok (f x) := by
    intro x hx
    rw [← hf x hx]
    refine block_congr (.of_further (facade?_further hm hk) fun d hd => ?_)
    exact fault?_eq_none_of_encoderLines h d (Node.inspected_subset hx hd)
  refine ⟨⟨f, fun x hx => ⟨hf x hx, hf' x hx⟩, ?_, fun ls' => ?_⟩,
    nodeTypes_append before after c, ?_⟩
  · rw [hls, List.flatMap_append]
  · constructor
    · intro h'
      obtain ⟨g, hg, rfl⟩ := blocks_of_encoderLines h'
      exact ⟨g (m.name, m), hg _ (by simp [s']), flatMap_further hf' hg⟩
    · rintro ⟨b, hb, rfl⟩
      have hall : ∀ x ∈ s'.nodes, ∃ b, s'.block c x = .ok b := by
        intro x hx
        rcases List.mem_append.1 hx with hx | hx
        · exact ⟨f x, hf' x (List.mem_append_left _ hx)⟩
        · rcases List.mem_cons.1 hx with rfl | hx
          · exact ⟨b, hb⟩
          · exact ⟨f x, hf' x (List.mem_append_right _ hx)⟩
      obtain ⟨g, hg⟩ := exists_block_function hall
      obtain rfl : g (m.name, m) = b := Except.ok.inj ((hg _ (by simp [s'])).symm.trans hb)
      rw [encoderLines_of_blocks hg]
      exact congrArg Except.ok (flatMap_further hf' hg)
  · rw [← nodeTypes_message hm, ← nodeTypes_append, ← nodeTypes_append, List.append_assoc]
    rfl

/-- A union joins between two nodes, one of which has a field of its type. -/
theorem encoderLines_further_union :
    let c := Config.standard
    let before : Entries Node :=
      [("Expr", ⟨"Expr", 1, .message, [], [("kind", .oneof ["ANode a;"])]⟩)]
    let after : Entries Node :=
      [("PNode", ⟨"PNode", 6, .message, [], [("Stmt body = 1;", .plain)]⟩)]
    let m : Node := ⟨"Stmt", 9, .message, [], [("kind", .oneof ["Expr e;"])]⟩
    m.kind = .message ∧ m.name ∉ Entries.keys (before ++ after) ∧
      ∃ ls b f, encoderLines ⟨before ++ after⟩ c = .ok ls ∧
        ls = before.flatMap f ++ after.flatMap f ∧
        encoderLines ⟨before ++ (m.name, m) :: after⟩ c =
          .ok (before.flatMap f ++ b ++ after.flatMap f) := by
  intro c before after m
  have hk : m.name ∉ Entries.keys (before ++ after) := by subst before after m; decide
  obtain ⟨ls, h⟩ : ∃ ls, encoderLines ⟨before ++ after⟩ c = .ok ls := by
    subst before after c
    exact ⟨_, rfl⟩
  obtain ⟨b, hb⟩ : ∃ b, block ⟨before ++ (m.name, m) :: after⟩ c (m.name, m) = .ok b := by
    subst before after m c
    exact ⟨_, rfl⟩
  obtain ⟨⟨f, -, hls, hf⟩, -⟩ := encoderLines_further rfl hk h
  exact ⟨rfl, hk, ls, b, f, h, hls, (hf _).2 ⟨b, hb, rfl⟩⟩

/-! ## The order of nodes -/

theorem facade?_perm (hp : s.nodes.Perm s'.nodes) (hn : (Entries.keys s.nodes).Nodup)
    (name : String) : s'.facade? name = s.facade? name := by
  unfold facade? get?
  rw [Entries.get?_perm hp hn]

theorem nodeTypes_eq_flatMap (s : Schema) (c : Config) :
    s.nodeTypes c = s.nodes.flatMap fun x => nodeTypes ⟨[x]⟩ c := by
  obtain ⟨nodes⟩ := s
  induction nodes with
  | nil => rfl
  | cons x rest ih => rw [List.flatMap_cons, ← ih, ← nodeTypes_append, List.singleton_append]

/-- **The order of nodes.** Schemas with the same entries at the top level in another order are
written or not written together. Each entry has the same block in both, the blocks stand in the
order of the entries with nothing between them, and so do the tags of nodes. -/
theorem encoderLines_perm (c : Config) (hp : s.nodes.Perm s'.nodes)
    (hn : (Entries.keys s.nodes).Nodup) :
    ((∃ ls, s.encoderLines c = .ok ls) ↔ ∃ ls, s'.encoderLines c = .ok ls) ∧
    (∀ ls ls', s.encoderLines c = .ok ls → s'.encoderLines c = .ok ls' →
      ∃ f : String × Node → List String,
        (∀ x ∈ s.nodes, s.block c x = .ok (f x) ∧ s'.block c x = .ok (f x)) ∧
        ls = s.nodes.flatMap f ∧ ls' = s'.nodes.flatMap f) ∧
    s.nodeTypes c = s.nodes.flatMap (fun x => nodeTypes ⟨[x]⟩ c) ∧
    s'.nodeTypes c = s'.nodes.flatMap (fun x => nodeTypes ⟨[x]⟩ c) ∧
    (s.nodeTypes c).Perm (s'.nodeTypes c) := by
  have hblock : ∀ x, s'.block c x = s.block c x := fun x =>
    block_congr (.of_facade? (facade?_perm hp hn) c _)
  refine ⟨?_, ?_, nodeTypes_eq_flatMap s c, nodeTypes_eq_flatMap s' c, hp.filterMap _⟩
  · simp only [exists_encoderLines_iff, hblock, hp.mem_iff]
  · intro ls ls' h h'
    obtain ⟨f, hf, hls⟩ := blocks_of_encoderLines h
    have hf' : ∀ x ∈ s'.nodes, s'.block c x = .ok (f x) := by
      intro x hx
      rw [hblock, hf x (hp.mem_iff.2 hx)]
    rw [encoderLines_of_blocks hf'] at h'
    exact ⟨f, fun x hx => ⟨hf x hx, hf' x (hp.mem_iff.1 hx)⟩, hls, (Except.ok.inj h').symm⟩

/-- A union is declared after and before a union that it is a variant of. -/
theorem encoderLines_perm_union :
    let c := Config.standard
    let x : String × Node := ("P", ⟨"P", 1, .message, [], [("kind", .oneof ["Expr e;"])]⟩)
    let y : String × Node := ("Expr", ⟨"Expr", 6, .message, [], [("kind", .oneof ["ANode a;"])]⟩)
    [x, y].Perm [y, x] ∧ (Entries.keys [x, y]).Nodup ∧
      ∃ f : String × Node → List String, encoderLines ⟨[x, y]⟩ c = .ok (f x ++ f y) ∧
        encoderLines ⟨[y, x]⟩ c = .ok (f y ++ f x) := by
  intro c x y
  have hp : [x, y].Perm [y, x] := .swap y x []
  have hn : (Entries.keys [x, y]).Nodup := by subst x y; decide
  obtain ⟨hex, hf, -⟩ := @encoderLines_perm ⟨[x, y]⟩ ⟨[y, x]⟩ c hp hn
  obtain ⟨ls, h⟩ : ∃ ls, encoderLines ⟨[x, y]⟩ c = .ok ls := by
    subst x y c
    exact ⟨_, rfl⟩
  obtain ⟨ls', h'⟩ := hex.1 ⟨ls, h⟩
  obtain ⟨f, -, rfl, rfl⟩ := hf ls ls' h h'
  exact ⟨hp, hn, f, by simpa using h, by simpa using h'⟩

end Schema

end TreeSchema
