import TreeSchema.Module
/-!
# When generation fails

Generating a module reads the declarations of the schema one after another, and the first one that
it cannot use ends the run. Which declarations are read, in which order, and which of them are bad
is said here without the encoders:

* `Schema.Visits` are the nodes that are reached from the top level through messages, and
  `Node.inspects` the declarations of such a node that are read.
* `Schema.inspected` lists them all in order: the nodes inside a message come before its own
  declarations.
* `Scope.Fault` says what is wrong with a declaration.

`moduleText_result_iff` says that generation succeeds exactly when no declaration that is read is
bad, and that it fails otherwise with the error of the first bad one.
-/
namespace TreeSchema

/-! ## Bad declarations -/

/-- A declaration that generation reads, with the form that it should have. -/
structure Declared where
  form : Form
  text : String
deriving DecidableEq, Repr

namespace Declared

/-- The declaration has its form. -/
def Readable (d : Declared) : Prop :=
  match d.form with
  | .field => ∃ f, (Field.ofDeclaration d.text).result = .ok f
  | .variant => ∃ v, Variant.ofDeclaration d.text = .ok v
  | .enumValue => ∃ v, EnumValue.ofDeclaration d.text = .ok v

end Declared

namespace Scope

/-- The guard of a variant hangs on a node that is declared at the top level: the variant has no
guard of its own, and its type has neither the suffix of nodes nor only small letters. -/
def NeedsNode (cx : Scope) (v : Variant) : Prop :=
  v.override.guard = none ∧ endsWith v.type cx.config.nodeSuffix = false ∧
    Text.isOwnLowercase v.type.toList = false

/-- What is wrong with a declaration. -/
inductive Fault (cx : Scope) : Declared → Error → Prop
  /-- It has not its form. -/
  | unreadable {d : Declared} : ¬ d.Readable → Fault cx d (.declaration d.text d.form)
  /-- It is a variant of a type that is not declared at the top level and has to be. -/
  | unknown {text : String} {v : Variant} :
    Variant.ofDeclaration text = .ok v → cx.NeedsNode v → cx.schema.get? v.type = none →
    Fault cx ⟨.variant, text⟩ (.unknownType v.type)
  /-- It is a variant whose type is a union with a variant that has not its form. The first such
  variant of the union is the one that is named. -/
  | member {text : String} {v : Variant} {n : Node} {before after : List String} {m : String} :
    Variant.ofDeclaration text = .ok v → cx.NeedsNode v → cx.schema.get? v.type = some n →
    n.unionVariants? = some (before ++ m :: after) →
    (∀ b ∈ before, Declared.Readable ⟨.variant, b⟩) → ¬ Declared.Readable ⟨.variant, m⟩ →
    Fault cx ⟨.variant, text⟩ (.declaration m .variant)

/-- Something is wrong with a declaration. -/
def Bad (cx : Scope) (d : Declared) : Prop := ∃ e, cx.Fault d e

end Scope

/-! ## The declarations that are read -/

/-- The declarations that stand under a key of a message. -/
def Member.declared : String × Member → List Declared
  | (text, .plain) => [⟨.field, text⟩]
  | (_, .oneof variants) => variants.map (Declared.mk .variant)

namespace Node

/-- The declarations of a node that are read, in order: the keys of an enum, the variants of a
union and nothing else of it, and all that stands in another message. -/
def inspects (n : Node) : List Declared :=
  match n.kind with
  | .enum => (Entries.keys n.fields).map (Declared.mk .enumValue)
  | .message =>
    match n.unionVariants? with
    | some variants => variants.map (Declared.mk .variant)
    | none => n.fields.flatMap Member.declared

mutual

/-- The declarations of a node and of the nodes inside it, in the order in which they are read. -/
def inspected : Node → List Declared
  | ⟨name, line, .enum, nested, fields⟩ => inspects ⟨name, line, .enum, nested, fields⟩
  | ⟨name, line, .message, nested, fields⟩ =>
    inspectedAll nested ++ inspects ⟨name, line, .message, nested, fields⟩

def inspectedAll : List (String × Node) → List Declared
  | [] => []
  | (_, n) :: rest => inspected n ++ inspectedAll rest

end

end Node

namespace Schema

/-- The nodes that generation comes to: those at the top level, and those inside a message that it
comes to. -/
inductive Visits (s : Schema) : Node → Prop
  | top {key : String} {n : Node} : (key, n) ∈ s.nodes → Visits s n
  | nested {m n : Node} {key : String} :
    Visits s m → m.kind = .message → (key, n) ∈ m.nested → Visits s n

/-- All declarations that are read, in order. -/
def inspected (s : Schema) : List Declared := Node.inspectedAll s.nodes

end Schema

namespace Node

theorem inspects_subset (n : Node) : n.inspects ⊆ n.inspected := by
  obtain ⟨_, _, kind, _, _⟩ := n
  cases kind with
  | enum => exact fun _ h => h
  | message => exact fun _ h => List.mem_append_right _ h

theorem inspectedAll_subset {n : Node} (h : n.kind = .message) :
    inspectedAll n.nested ⊆ n.inspected := by
  obtain ⟨_, _, kind, _, _⟩ := n
  obtain rfl : kind = .message := h
  exact fun _ h => List.mem_append_left _ h

theorem inspected_subset {nodes : List (String × Node)} {key : String} {n : Node}
    (h : (key, n) ∈ nodes) : n.inspected ⊆ inspectedAll nodes := by
  induction nodes with
  | nil => simp at h
  | cons x rest ih =>
    intro d hd
    simp only [inspectedAll, List.mem_append]
    rcases List.mem_cons.1 h with rfl | h
    · exact Or.inl hd
    · exact Or.inr (ih h hd)

end Node

namespace Schema

mutual

theorem visits_of_mem_inspected (s : Schema) {d : Declared} : ∀ {n : Node}, s.Visits n →
    d ∈ n.inspected → ∃ m, s.Visits m ∧ d ∈ m.inspects
  | ⟨_, _, .enum, _, _⟩, hn, h => ⟨_, hn, h⟩
  | ⟨_, _, .message, nested, _⟩, hn, h => by
    simp only [Node.inspected, List.mem_append] at h
    rcases h with h | h
    · exact visits_of_mem_inspectedAll s (fun k m hm => .nested hn rfl hm) h
    · exact ⟨_, hn, h⟩

theorem visits_of_mem_inspectedAll (s : Schema) {d : Declared} : ∀ {nodes : List (String × Node)},
    (∀ k n, (k, n) ∈ nodes → s.Visits n) → d ∈ Node.inspectedAll nodes →
    ∃ m, s.Visits m ∧ d ∈ m.inspects
  | [], _, h => by simp [Node.inspectedAll] at h
  | (k, n) :: rest, hn, h => by
    simp only [Node.inspectedAll, List.mem_append] at h
    rcases h with h | h
    · exact visits_of_mem_inspected s (hn k n List.mem_cons_self) h
    · exact visits_of_mem_inspectedAll s (fun j m hm => hn j m (List.mem_cons_of_mem _ hm)) h

end

theorem inspected_subset_of_visits {s : Schema} {n : Node} (h : s.Visits n) :
    n.inspected ⊆ s.inspected := by
  induction h with
  | top hn => exact Node.inspected_subset hn
  | nested _ hk hn ih =>
    exact fun d hd => ih (Node.inspectedAll_subset hk (Node.inspected_subset hn hd))

/-- What is read are the declarations of the visited nodes. -/
theorem mem_inspected {s : Schema} {d : Declared} :
    d ∈ s.inspected ↔ ∃ n, s.Visits n ∧ d ∈ n.inspects := by
  constructor
  · exact visits_of_mem_inspectedAll s fun _ _ hn => .top hn
  · rintro ⟨n, hn, hd⟩
    exact inspected_subset_of_visits hn (n.inspects_subset hd)

end Schema

/-! ## The first failure of a run -/

/-- The error of a run that fails. -/
def failure? {α : Type} : Except Error α → Option Error
  | .ok _ => none
  | .error e => some e

section
variable {α β : Type}

@[simp] theorem failure?_ok (a : α) : failure? (.ok a) = none := rfl

@[simp] theorem failure?_error (e : Error) : failure? (.error e : Except Error α) = some e := rfl

@[simp] theorem failure?_pure (a : α) : failure? (pure a) = none := rfl

theorem ok_bind (a : α) (f : α → Except Error β) : (.ok a >>= f) = f a := rfl

theorem bind_eq_ok {x : Except Error α} {f : α → Except Error β} {b : β} :
    x >>= f = .ok b ↔ ∃ a, x = .ok a ∧ f a = .ok b := by
  cases x with
  | error e => exact ⟨nofun, nofun⟩
  | ok a => simp [ok_bind]

theorem failure?_eq_none_iff {x : Except Error α} : failure? x = none ↔ ∃ a, x = .ok a := by
  cases x <;> simp

theorem failure?_eq_some_iff {x : Except Error α} {e : Error} :
    failure? x = some e ↔ x = .error e := by
  cases x <;> simp

/-- A run that goes on after `x`, and then fails in a way that does not hang on what `x` gave,
fails as `x` does or else in that way. -/
theorem failure?_bind {x : Except Error α} {f : α → Except Error β} {o : Option Error}
    (h : ∀ a, x = .ok a → failure? (f a) = o) : failure? (x >>= f) = (failure? x).or o := by
  cases x with
  | error e => rfl
  | ok a => exact h a rfl

theorem failure?_bind_congr {γ : Type} (x : Except Error α) {f : α → Except Error β}
    {g : α → Except Error γ} (h : ∀ a, failure? (f a) = failure? (g a)) :
    failure? (x >>= f) = failure? (x >>= g) := by
  cases x with
  | error e => rfl
  | ok a => exact h a

theorem failure?_bind_pure (x : Except Error α) (f : α → β) :
    failure? (x >>= fun a => pure (f a)) = failure? x := by
  rw [failure?_bind (o := none) (fun _ _ => rfl), Option.or_none]

/-- A step of a walk along a list. -/
theorem failure?_bind_cons (x : Except Error α) (y : Except Error (List α)) :
    failure? (x >>= fun a => y >>= fun as => pure (a :: as)) = (failure? x).or (failure? y) :=
  failure?_bind fun a _ => failure?_bind_pure y (a :: ·)

end

/-! ## Readers fail on what is not readable -/

namespace Declared

theorem field_error {text : String} {e : Error} (h : (Field.ofDeclaration text).result = .error e) :
    e = .declaration text .field := by
  simp only [Field.ofDeclaration] at h
  split at h
  · split at h
    · cases h
    · simp [bind] at h
      cases h
  · cases h
  · cases h; rfl

theorem variant_error {text : String} {e : Error} (h : Variant.ofDeclaration text = .error e) :
    e = .declaration text .variant := by
  simp only [Variant.ofDeclaration] at h
  split at h
  · cases h
  · cases h; rfl

theorem enumValue_error {text : String} {e : Error} (h : EnumValue.ofDeclaration text = .error e) :
    e = .declaration text .enumValue := by
  simp only [EnumValue.ofDeclaration] at h
  split at h
  · cases h; rfl
  · cases h

/-- The error of reading a declaration in its form. -/
def fault? (d : Declared) : Option Error :=
  match d.form with
  | .field => failure? (Field.ofDeclaration d.text).result
  | .variant => failure? (Variant.ofDeclaration d.text)
  | .enumValue => failure? (EnumValue.ofDeclaration d.text)

theorem fault?_eq_none_iff {d : Declared} : d.fault? = none ↔ d.Readable := by
  unfold fault? Readable
  split <;> rw [failure?_eq_none_iff]

theorem eq_of_fault? {d : Declared} {e : Error} (h : d.fault? = some e) :
    e = .declaration d.text d.form := by
  obtain ⟨form, text⟩ := d
  cases form with
  | field => exact field_error (failure?_eq_some_iff.1 h)
  | variant => exact variant_error (failure?_eq_some_iff.1 h)
  | enumValue => exact enumValue_error (failure?_eq_some_iff.1 h)

theorem fault?_eq_some_iff {d : Declared} {e : Error} :
    d.fault? = some e ↔ ¬ d.Readable ∧ e = .declaration d.text d.form := by
  rw [← fault?_eq_none_iff]
  constructor
  · intro h
    exact ⟨by simp [h], eq_of_fault? h⟩
  · rintro ⟨h, rfl⟩
    obtain ⟨e, he⟩ := Option.ne_none_iff_exists'.1 h
    rw [he, eq_of_fault? he]

end Declared

/-! ## The failure of each part -/

namespace Scope

/-- The error of a declaration where it is read. -/
def fault? (cx : Scope) (d : Declared) : Option Error :=
  match d.form with
  | .variant => failure? (Variant.ofDeclaration d.text >>= cx.variantGuard)
  | .field | .enumValue => d.fault?

theorem failure?_types (variants : List String) :
    failure? (Variant.types variants) =
      variants.findSome? fun m => Declared.fault? ⟨.variant, m⟩ := by
  induction variants with
  | nil => rfl
  | cons m rest ih =>
    simp only [Variant.types, List.findSome?_cons, ← ih]
    rw [failure?_bind fun v _ => failure?_bind_pure (Variant.types rest) (v.type :: ·)]
    unfold Declared.fault?
    cases failure? (Variant.ofDeclaration m) <;> rfl

/-! ### The guard of a variant -/

section
variable {cx : Scope} {v : Variant}

theorem variantGuard_custom {expression : String} (h : v.override.guard = some expression) :
    cx.variantGuard v = .ok (.single expression) := by
  unfold variantGuard
  rw [h]

theorem variantGuard_tag (hg : v.override.guard = none) (h : ¬ cx.NeedsNode v) :
    cx.variantGuard v = .ok (.single (cx.tag v.type)) := by
  have hc : (endsWith v.type cx.config.nodeSuffix || Text.isOwnLowercase v.type.toList) = true := by
    cases hs : endsWith v.type cx.config.nodeSuffix with
    | true => rfl
    | false =>
      cases hl : Text.isOwnLowercase v.type.toList with
      | true => rfl
      | false => exact absurd ⟨hg, hs, hl⟩ h
  unfold variantGuard Schema.variantClass
  simp only [hg, hc, ite_true]
  rfl

theorem variantClass_of_needsNode (h : cx.NeedsNode v) :
    cx.schema.variantClass v.type cx.config.nodeSuffix =
      (cx.schema.get? v.type).elim (.error (.unknownType v.type))
        fun n => .ok (n.unionVariants?.elim .tag .union) := by
  obtain ⟨-, hs, hl⟩ := h
  unfold Schema.variantClass
  rw [hs, hl]
  cases cx.schema.get? v.type with
  | none => rfl
  | some n =>
    cases hu : n.unionVariants? with
    | none => simp [hu]
    | some variants => simp [hu]

theorem variantGuard_unknown (h : cx.NeedsNode v) (hn : cx.schema.get? v.type = none) :
    cx.variantGuard v = .error (.unknownType v.type) := by
  unfold variantGuard
  rw [variantClass_of_needsNode h, h.1, hn]
  rfl

theorem variantGuard_flat (h : cx.NeedsNode v) {n : Node} (hn : cx.schema.get? v.type = some n)
    (hu : n.unionVariants? = none) : cx.variantGuard v = .ok (.single (cx.tag v.type)) := by
  unfold variantGuard
  rw [variantClass_of_needsNode h, h.1, hn, Option.elim_some, hu]
  rfl

theorem variantGuard_union (h : cx.NeedsNode v) {n : Node} (hn : cx.schema.get? v.type = some n)
    {variants : List String} (hu : n.unionVariants? = some variants) :
    cx.variantGuard v = Variant.types variants >>= fun types => pure (.anyOf (types.map cx.tag)) := by
  unfold variantGuard
  rw [variantClass_of_needsNode h, h.1, hn, Option.elim_some, hu]
  rfl

theorem failure?_variantGuard {e : Error} :
    failure? (cx.variantGuard v) = some e ↔ cx.NeedsNode v ∧
      (cx.schema.get? v.type = none ∧ e = .unknownType v.type ∨
        ∃ n variants, cx.schema.get? v.type = some n ∧ n.unionVariants? = some variants ∧
          failure? (Variant.types variants) = some e) := by
  by_cases h : cx.NeedsNode v
  · cases hn : cx.schema.get? v.type with
    | none => simp [variantGuard_unknown h hn, h, eq_comm]
    | some n =>
      cases hu : n.unionVariants? with
      | none => simp [variantGuard_flat h hn hu, h, hu]
      | some variants =>
        rw [variantGuard_union h hn hu, failure?_bind_pure]
        simp [h, hu]
  · cases hg : v.override.guard with
    | some expression => simp [variantGuard_custom hg, h]
    | none => simp [variantGuard_tag hg h, h]

end

theorem findSome?_fault?_eq_some_iff {variants : List String} {e : Error} :
    variants.findSome? (fun m => Declared.fault? ⟨.variant, m⟩) = some e ↔
      ∃ before m after, variants = before ++ m :: after ∧
        (∀ b ∈ before, Declared.Readable ⟨.variant, b⟩) ∧ ¬ Declared.Readable ⟨.variant, m⟩ ∧
        e = .declaration m .variant := by
  simp only [List.findSome?_eq_some_iff, Declared.fault?_eq_some_iff, Declared.fault?_eq_none_iff]
  constructor
  · rintro ⟨before, m, after, rfl, ⟨hm, rfl⟩, hb⟩
    exact ⟨before, m, after, rfl, hb, hm, rfl⟩
  · rintro ⟨before, m, after, rfl, hb, hm, rfl⟩
    exact ⟨before, m, after, rfl, ⟨hm, rfl⟩, hb⟩

theorem fault?_field (cx : Scope) (text : String) :
    cx.fault? ⟨.field, text⟩ = Declared.fault? ⟨.field, text⟩ := rfl

theorem fault?_enumValue (cx : Scope) (text : String) :
    cx.fault? ⟨.enumValue, text⟩ = Declared.fault? ⟨.enumValue, text⟩ := rfl

theorem fault?_variant_error (cx : Scope) {text : String} {e : Error}
    (h : Variant.ofDeclaration text = .error e) :
    cx.fault? ⟨.variant, text⟩ = Declared.fault? ⟨.variant, text⟩ := by
  simp only [fault?, Declared.fault?, h]
  rfl

theorem fault?_variant_ok (cx : Scope) {text : String} {v : Variant}
    (h : Variant.ofDeclaration text = .ok v) :
    cx.fault? ⟨.variant, text⟩ = failure? (cx.variantGuard v) := by
  simp only [fault?, h]
  rfl

theorem fault_of_fault? {cx : Scope} {d : Declared} {e : Error} (h : cx.fault? d = some e) :
    cx.Fault d e := by
  obtain ⟨form, text⟩ := d
  cases form with
  | field =>
    rw [fault?_field] at h
    obtain ⟨hr, rfl⟩ := Declared.fault?_eq_some_iff.1 h
    exact .unreadable hr
  | enumValue =>
    rw [fault?_enumValue] at h
    obtain ⟨hr, rfl⟩ := Declared.fault?_eq_some_iff.1 h
    exact .unreadable hr
  | variant =>
    cases hv : Variant.ofDeclaration text with
    | error e' =>
      rw [fault?_variant_error cx hv] at h
      obtain ⟨hr, rfl⟩ := Declared.fault?_eq_some_iff.1 h
      exact .unreadable hr
    | ok v =>
      rw [fault?_variant_ok cx hv] at h
      obtain ⟨hn, ⟨hs, rfl⟩ | ⟨n, variants, hs, hu, ht⟩⟩ := failure?_variantGuard.1 h
      · exact .unknown hv hn hs
      · rw [failure?_types] at ht
        obtain ⟨before, m, after, rfl, hb, hm, rfl⟩ := findSome?_fault?_eq_some_iff.1 ht
        exact .member hv hn hs hu hb hm

theorem fault?_of_not_readable (cx : Scope) {d : Declared} (h : ¬ d.Readable) :
    cx.fault? d = some (.declaration d.text d.form) := by
  have hd := Declared.fault?_eq_some_iff.2 ⟨h, rfl⟩
  obtain ⟨form, text⟩ := d
  cases form with
  | field => rw [fault?_field, hd]
  | enumValue => rw [fault?_enumValue, hd]
  | variant =>
    cases hv : Variant.ofDeclaration text with
    | error e => rw [fault?_variant_error cx hv, hd]
    | ok v => exact absurd ⟨v, hv⟩ h

/-- The error where a declaration is read is what is wrong with it. -/
theorem fault?_eq_some_iff {cx : Scope} {d : Declared} {e : Error} :
    cx.fault? d = some e ↔ cx.Fault d e := by
  refine ⟨fault_of_fault?, fun h => ?_⟩
  cases h with
  | unreadable hr => exact fault?_of_not_readable cx hr
  | unknown hv hn hs =>
    rw [fault?_variant_ok cx hv]
    exact failure?_variantGuard.2 ⟨hn, Or.inl ⟨hs, rfl⟩⟩
  | member hv hn hs hu hb hm =>
    rw [fault?_variant_ok cx hv]
    refine failure?_variantGuard.2 ⟨hn, Or.inr ⟨_, _, hs, hu, ?_⟩⟩
    rw [failure?_types]
    exact findSome?_fault?_eq_some_iff.2 ⟨_, _, _, rfl, hb, hm, rfl⟩

theorem fault?_eq_none_iff {cx : Scope} {d : Declared} : cx.fault? d = none ↔ ¬ cx.Bad d := by
  unfold Bad
  simp only [← fault?_eq_some_iff]
  cases cx.fault? d <;> simp

/-! ### The walks -/

theorem failure?_arm (cx : Scope) (inUnion : Bool) (source : Source) (text : String) :
    failure? (cx.arm inUnion source text) = cx.fault? ⟨.variant, text⟩ := by
  unfold arm
  cases hv : Variant.ofDeclaration text with
  | error e =>
    rw [fault?_variant_error cx hv]
    simp only [Declared.fault?, hv]
    rfl
  | ok v =>
    rw [fault?_variant_ok cx hv]
    exact failure?_bind_pure (cx.variantGuard v) (Arm.mk · (v.body inUnion source))

theorem failure?_arms (cx : Scope) (inUnion : Bool) (source : Source) (variants : List String) :
    failure? (cx.arms inUnion source variants) =
      (variants.map (Declared.mk .variant)).findSome? cx.fault? := by
  induction variants with
  | nil => rfl
  | cons text rest ih =>
    simp only [arms, failure?_bind_cons, failure?_arm, ih, List.map_cons, List.findSome?_cons]
    cases cx.fault? ⟨.variant, text⟩ <;> rfl

theorem failure?_enumValues (cx : Scope) (texts : List String) :
    failure? (enumValues texts) = (texts.map (Declared.mk .enumValue)).findSome? cx.fault? := by
  induction texts with
  | nil => rfl
  | cons text rest ih =>
    have h : failure? (EnumValue.ofDeclaration text) = cx.fault? ⟨.enumValue, text⟩ := rfl
    simp only [enumValues, failure?_bind_cons, h, ih, List.map_cons, List.findSome?_cons]
    cases cx.fault? ⟨.enumValue, text⟩ <;> rfl

/-- A field that has been read always becomes a property. -/
theorem failure?_plainProperty (cx : Scope) (text : String) :
    failure? (cx.plainProperty text).result = cx.fault? ⟨.field, text⟩ := by
  unfold plainProperty
  rw [Traced.result_bind, failure?_bind (o := none), Option.or_none]
  · rfl
  · intro field _
    split
    · rfl
    · cases field.modifier with
      | required => rfl
      | optional => rfl
      | repeated => cases cx.schema.typeClass field.type <;> rfl

theorem failure?_choiceProperty (cx : Scope) (qualified key : String) (variants : List String) :
    failure? (cx.choiceProperty qualified key variants) =
      (variants.map (Declared.mk .variant)).findSome? cx.fault? := by
  unfold choiceProperty
  split
  · simp only [failure?_bind_pure, failure?_arms]
  · simp only [failure?_bind_pure, failure?_arms]

theorem failure?_property (cx : Scope) (qualified : String) (x : String × Member) :
    failure? (cx.property qualified x).result = (Member.declared x).findSome? cx.fault? := by
  obtain ⟨key, member⟩ := x
  cases member with
  | plain =>
    simp only [property, failure?_plainProperty, Member.declared, List.findSome?_cons]
    cases cx.fault? ⟨.field, key⟩ <;> rfl
  | oneof variants => exact failure?_choiceProperty cx qualified key variants

theorem failure?_properties (cx : Scope) (qualified : String) (fields : Entries Member) :
    failure? (Traced.forEach (cx.property qualified) fields).result =
      (fields.flatMap Member.declared).findSome? cx.fault? := by
  induction fields with
  | nil => rfl
  | cons x rest ih =>
    simp only [Traced.forEach, Traced.result_bind, Traced.result_pure, List.flatMap_cons,
      List.findSome?_append, ← ih, ← failure?_property cx qualified]
    exact failure?_bind_cons _ _

theorem failure?_dispatch (cx : Scope) (qualified : String) {n : Node} (h : n.kind = .message) :
    failure? (cx.dispatch qualified n).result = n.inspects.findSome? cx.fault? := by
  unfold dispatch Node.inspects
  rw [h]
  cases n.unionVariants? with
  | some variants =>
    simp only [Traced.result_bind, Traced.result_pure, Traced.result_liftM]
    rw [← failure?_arms cx true .node]
    exact failure?_bind_pure _ Dispatch.union
  | none =>
    simp only [Traced.result_bind, Traced.result_pure]
    rw [← failure?_properties cx qualified]
    exact failure?_bind_pure _ (Dispatch.flat _)

mutual

theorem failure?_encoder (cx : Scope) (path : List String) (key : String) :
    ∀ n : Node, failure? (cx.encoder path key n).result = n.inspected.findSome? cx.fault?
  | ⟨name, line, .enum, nested, fields⟩ => by
    simp only [encoder, Traced.result_bind, Traced.result_pure, Traced.result_note,
      Traced.result_liftM, Node.inspected, Node.inspects]
    rw [← failure?_enumValues]
    exact failure?_bind_pure _ (Encoder.enum key _)
  | ⟨name, line, .message, nested, fields⟩ => by
    simp only [encoder, Traced.result_bind, Traced.result_pure, Traced.result_note, ok_bind,
      Node.inspected, List.findSome?_append]
    rw [← failure?_encoders cx (path ++ [key]) nested]
    rw [← failure?_dispatch cx (cx.qualify (path ++ [key])) rfl]
    exact failure?_bind fun inner _ => failure?_bind_pure _ (Encoder.message key _ _ inner)

theorem failure?_encoders (cx : Scope) (path : List String) : ∀ nodes : List (String × Node),
    failure? (cx.encoders path nodes).result = (Node.inspectedAll nodes).findSome? cx.fault?
  | [] => rfl
  | (key, n) :: rest => by
    simp only [encoders, Traced.result_bind, Traced.result_pure, Node.inspectedAll,
      List.findSome?_append]
    rw [← failure?_encoder cx path key n, ← failure?_encoders cx path rest]
    exact failure?_bind_cons _ _

end

/-! ## What a run that succeeds has built -/

section
variable {cx : Scope} {path : List String} {key name : String} {line : Nat}
  {nested : List (String × Node)} {fields : Entries Member}

theorem encoder_enum_eq_ok {e : Encoder} :
    (cx.encoder path key ⟨name, line, .enum, nested, fields⟩).result = .ok e ↔
      ∃ values, enumValues (Entries.keys fields) = .ok values ∧
        .enum key (cx.qualify (path ++ [key])) values = e := by
  simp only [encoder, Traced.result_bind, Traced.result_pure, Traced.result_note,
    Traced.result_liftM, ok_bind, bind_eq_ok, Except.ok.injEq]

theorem encoder_message_eq_ok {e : Encoder} :
    (cx.encoder path key ⟨name, line, .message, nested, fields⟩).result = .ok e ↔
      ∃ inner, (cx.encoders (path ++ [key]) nested).result = .ok inner ∧
        ∃ d, (cx.dispatch (cx.qualify (path ++ [key]))
            ⟨name, line, .message, nested, fields⟩).result = .ok d ∧
          .message key (cx.qualify (path ++ [key]))
            (cx.config.isNullable (cx.qualify (path ++ [key]))) inner d = e := by
  simp only [encoder, Traced.result_bind, Traced.result_pure, Traced.result_note, ok_bind,
    bind_eq_ok, Except.ok.injEq]

theorem encoders_cons_eq_ok {n : Node} {rest : List (String × Node)} {es : List Encoder} :
    (cx.encoders path ((key, n) :: rest)).result = .ok es ↔
      ∃ e, (cx.encoder path key n).result = .ok e ∧
        ∃ es', (cx.encoders path rest).result = .ok es' ∧ e :: es' = es := by
  simp only [encoders, Traced.result_bind, Traced.result_pure, bind_eq_ok, Except.ok.injEq]

end

end Scope

/-! ## Generation -/

namespace Schema

/-- The error of generation is that of the first bad declaration. -/
theorem failure?_moduleText (s : Schema) (c : Config) :
    failure? (s.moduleText c).result = s.inspected.findSome? (Scope.fault? ⟨s, c⟩) := by
  have h := Scope.failure?_encoders ⟨s, c⟩ [] s.nodes
  rw [inspected, ← h]
  simp only [moduleText, moduleLines, Traced.result_bind, Traced.result_pure, Traced.result_note,
    ok_bind]
  refine (failure?_bind_pure _ _).trans ?_
  exact failure?_bind_pure _ _

/-- **When generation fails.** A module is generated exactly if no declaration of a visited node
that is read is bad. Otherwise the error is that of the first bad declaration in the order in which
they are read. -/
theorem moduleText_result_iff (s : Schema) (c : Config) :
    ((∃ text, (s.moduleText c).result = .ok text) ↔
      ∀ n, s.Visits n → ∀ d ∈ n.inspects, ¬ Scope.Bad ⟨s, c⟩ d) ∧
    ∀ e, (s.moduleText c).result = .error e ↔
      ∃ before d after, s.inspected = before ++ d :: after ∧
        (∀ b ∈ before, ¬ Scope.Bad ⟨s, c⟩ b) ∧ Scope.Fault ⟨s, c⟩ d e := by
  constructor
  · rw [← failure?_eq_none_iff, failure?_moduleText, List.findSome?_eq_none_iff]
    simp only [Scope.fault?_eq_none_iff, mem_inspected]
    constructor
    · intro h n hn d hd
      exact h d ⟨n, hn, hd⟩
    · rintro h d ⟨n, hn, hd⟩
      exact h n hn d hd
  · intro e
    rw [← failure?_eq_some_iff, failure?_moduleText, List.findSome?_eq_some_iff]
    simp only [Scope.fault?_eq_none_iff, Scope.fault?_eq_some_iff]
    constructor
    · rintro ⟨before, d, after, hs, hd, hb⟩
      exact ⟨before, d, after, hs, hb, hd⟩
    · rintro ⟨before, d, after, hs, hb, hd⟩
      exact ⟨before, d, after, hs, hd, hb⟩

end Schema

end TreeSchema
