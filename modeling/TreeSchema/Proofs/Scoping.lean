import TreeSchema.Proofs.Dispatch
import TreeSchema.Proofs.Literals
import TreeSchema.Proofs.Templates
/-!
# Enums and scopes

The encoder of a nested node stands in the body of the encoder of its parent, so a call `encodeT`
in the encoder of a message means the nearest declaration of `T`: the one inside the message, else
inside the message around it, and so on up to the top level (`Schema.nearest?`). A call of the
decoder of an enum is to be wrapped, so that its errors get a position (`Wraps`).

Only declarations at the top level are visible where the class of a type is looked up.
`wraps_iff_topLevel` says what follows: the call is wrapped exactly if the declaration at the top
level is an enum, which is the nearest one unless a node around the field declares the type again.
`nearest_not_asked` has the two ways in which the two disagree.
-/
namespace TreeSchema

open Text

/-! ## The nearest declaration -/

/-- The innermost declaration of a type inside the nodes along a path. -/
def Node.inner? (nodes : Entries Node) (type : String) : List String → Option Node
  | [] => none
  | key :: path =>
    (nodes.get? key).bind fun n => (inner? n.nested type path).or (Entries.get? n.nested type)

/-- The declaration that a type means in the node that a path leads to. -/
def Schema.nearest? (s : Schema) (path : List String) (type : String) : Option Node :=
  (Node.inner? s.nodes type path).or (s.get? type)

theorem Node.under_of_inner? {type : String} {d : Node} {path : List String} :
    ∀ {nodes : Entries Node}, Node.inner? nodes type path = some d → Node.Under nodes type d := by
  induction path with
  | nil => nofun
  | cons key path ih =>
    intro nodes h
    obtain ⟨n, hn, h⟩ := Option.bind_eq_some_iff.1 h
    refine .inside (Entries.mem_of_get?_eq_some hn) ?_
    rcases Option.or_eq_some_iff.1 h with h | ⟨-, h⟩
    · exact ih h
    · exact .here (Entries.mem_of_get?_eq_some h)

theorem Schema.under_of_nearest? {s : Schema} {path : List String} {type : String} {d : Node}
    (h : s.nearest? path type = some d) : Node.Under s.nodes type d := by
  rcases Option.or_eq_some_iff.1 h with h | ⟨-, h⟩
  · exact Node.under_of_inner? h
  · exact .here (Entries.mem_of_get?_eq_some h)

theorem Schema.get?_of_inner?_eq_none {s : Schema} {path : List String} {type : String}
    {d : Node} (h : s.nearest? path type = some d) (hinner : Node.inner? s.nodes type path = none) :
    s.get? type = some d := by
  unfold Schema.nearest? at h
  rwa [hinner, Option.none_or] at h

/-! ## Wrapped calls -/

/-- The line has a call of the encoder of a type inside the adapter that gives errors a position. -/
def Wraps (type line : String) : Prop :=
  ("interceptEnumError(() => encode" ++ type ++ "(").toList <:+: line.toList

namespace Text

/-- A text that every wrapped call has in it and no other line of a field: the brackets and the sign
of a function without arguments. -/
def arrow : List Char := ['(', ')', ' ', '=']

/-- No arrow stands in the text, and none ends there whose first bracket stands before it. -/
structure Arrowless (s : List Char) : Prop where
  notInfix : ¬ arrow <:+: s
  notPrefix : ¬ [')', ' ', '='] <+: s

theorem arrow_append_cases {x y : List Char} (h : arrow <:+: x ++ y) :
    arrow <:+: x ∨ arrow <:+: y ∨ (['('] <:+ x ∧ [')', ' ', '='] <+: y) ∨
      (['(', ')'] <:+ x ∧ [' ', '='] <+: y) ∨ (['(', ')', ' '] <:+ x ∧ ['='] <+: y) := by
  rcases List.infix_append_iff_ne_nil.1 h with h | h | ⟨l₁, l₂, hne₁, hne₂, heq, hx, hy⟩
  · exact .inl h
  · exact .inr (.inl h)
  · refine .inr (.inr ?_)
    match l₁, heq with
    | [], _ => exact absurd rfl hne₁
    | [_], heq => cases heq; exact .inl ⟨hx, hy⟩
    | [_, _], heq => cases heq; exact .inr (.inl ⟨hx, hy⟩)
    | [_, _, _], heq => cases heq; exact .inr (.inr ⟨hx, hy⟩)
    | [_, _, _, _], heq => cases heq; exact absurd rfl hne₂
    | _ :: _ :: _ :: _ :: _ :: _, heq => cases heq

namespace Arrowless

variable {x y : List Char}

theorem of_not_mem (h : '(' ∉ x) (hstart : ¬ [')', ' ', '='] <+: x) : Arrowless x :=
  ⟨fun ha => h (ha.subset (by decide)), hstart⟩

theorem not_prefix_append (hx : x.head? ≠ some ')') (hy : Arrowless y) :
    ¬ [')', ' ', '='] <+: x ++ y := by
  cases x with
  | nil => exact hy.notPrefix
  | cons c x =>
    intro hp
    exact hx (by rw [(List.cons_prefix_cons.1 hp).1]; rfl)

/-- A text without a closing bracket may stand before. -/
theorem append_of_not_mem_close (hx : ')' ∉ x) (hy : Arrowless y) : Arrowless (x ++ y) := by
  refine ⟨fun h => ?_, not_prefix_append (fun hc => hx (List.mem_of_mem_head? hc)) hy⟩
  rcases arrow_append_cases h with h | h | ⟨-, h⟩ | ⟨h, -⟩ | ⟨h, -⟩
  · exact hx (h.subset (by decide))
  · exact hy.notInfix h
  · exact hy.notPrefix h
  · exact hx (h.subset (by decide))
  · exact hx (h.subset (by decide))

/-- A text without an opening bracket may stand before. -/
theorem append_of_not_mem_open (hx : '(' ∉ x) (hstart : x.head? ≠ some ')') (hy : Arrowless y) :
    Arrowless (x ++ y) := by
  refine ⟨fun h => ?_, not_prefix_append hstart hy⟩
  rcases arrow_append_cases h with h | h | ⟨h, -⟩ | ⟨h, -⟩ | ⟨h, -⟩
  · exact hx (h.subset (by decide))
  · exact hy.notInfix h
  · exact hx (h.subset (by decide))
  · exact hx (h.subset (by decide))
  · exact hx (h.subset (by decide))

/-- A text without a space may stand before, if what follows does not go on with one and `=`. -/
theorem append_of_not_mem_space (hx : ' ' ∉ x) (hstart : x.head? ≠ some ')') (hy : Arrowless y)
    (hgap : ¬ [' ', '='] <+: y) : Arrowless (x ++ y) := by
  refine ⟨fun h => ?_, not_prefix_append hstart hy⟩
  rcases arrow_append_cases h with h | h | ⟨-, h⟩ | ⟨-, h⟩ | ⟨h, -⟩
  · exact hx (h.subset (by decide))
  · exact hy.notInfix h
  · exact hy.notPrefix h
  · exact hgap h
  · exact hx (h.subset (by decide))

end Arrowless

/-- What can be read for a field: an expression from an override has no closing bracket, and the
property of a name has no space. -/
def IsSource (s : List Char) : Prop := ')' ∉ s ∨ (' ' ∉ s ∧ s.head? ≠ some ')')

theorem IsSource.arrowless_append {s y : List Char} (hs : IsSource s) (hy : Arrowless y)
    (hgap : ¬ [' ', '='] <+: y) : Arrowless (s ++ y) := by
  rcases hs with hs | ⟨hs, hstart⟩
  · exact hy.append_of_not_mem_close hs
  · exact hy.append_of_not_mem_space hs hstart hgap

theorem not_mem_quoted {s : List Char} (h : ' ' ∉ s) : ' ' ∉ quoted s := by
  have hdigit : ∀ n < 16, hexDigit n ≠ ' ' := by decide
  have hescape : ∀ c ∈ s, ' ' ∉ escapeQuoted c := by
    intro c hc hm
    rcases JsonText.escapeQuoted_cases c with ⟨e, he, -, hshort⟩ | ⟨he, hlow⟩ | ⟨he, -⟩
    · rw [he] at hm
      obtain rfl : ' ' = e := by simpa using hm
      cases hshort
    · rw [he] at hm
      have hhigh := hdigit (c.toNat / 16) (by omega)
      have hrest := hdigit (c.toNat % 16) (by omega)
      simp [hhigh.symm, hrest.symm] at hm
    · rw [he] at hm
      exact h (List.mem_singleton.1 hm ▸ hc)
  simpa [quoted] using hescape

end Text

/-! ## The line of a field -/

theorem Override.expressible_ofLine (line : List Char) : (ofLine line).Expressible := by
  unfold ofLine
  split
  · exact expressible_ofComment _
  · trivial

theorem Override.isSource {o : Override} (h : o.Expressible) {name : String}
    (hname : ' ' ∉ name.toList) : IsSource (o.source name).toList := by
  match o, h with
  | ⟨some _, none⟩, h => exact .inl h.notMem
  | ⟨some _, some _⟩, h => exact .inl h.2.1.notMem
  | ⟨none, none⟩, _ =>
    have hquote := not_mem_quoted hname
    refine .inr ⟨?_, ?_⟩
    · simp [source, quote, hquote]
    · simp [source]

namespace Text

theorem visible_of_mem_words {s w : List Char} (h : w ∈ words s) : ∀ c ∈ w, isBlank c = false :=
  of_mem_split s w (List.mem_filter.1 h).1

end Text

namespace Field

variable {declaration : String} {field : Field}

/-- The name of a field is a word of its line, and the override is the one of the line. -/
theorem ofDeclaration_parts (h : (ofDeclaration declaration).result = .ok field) :
    field.name.toList ∈ declaredWords declaration.toList ∧
      field.override = .ofLine declaration.toList := by
  have hmem : ∀ {ws : List String} {w : String},
      (declaredWords declaration.toList).map String.ofList = ws → w ∈ ws →
        w.toList ∈ declaredWords declaration.toList := by
    rintro ws w rfl hw
    obtain ⟨cs, hcs, rfl⟩ := List.mem_map.1 hw
    rwa [String.toList_ofList]
  simp only [ofDeclaration] at h
  split at h
  · rename_i hwords
    split at h
    · cases h
      exact ⟨hmem hwords (by simp), rfl⟩
    · rw [Traced.result_bind, Traced.result_note, ok_bind] at h
      cases h
      exact ⟨hmem hwords (by simp), rfl⟩
  · rename_i hwords
    cases h
    exact ⟨hmem hwords (by simp), rfl⟩
  · cases h

theorem isSource_ofDeclaration (h : (ofDeclaration declaration).result = .ok field) :
    IsSource (field.override.source field.name).toList := by
  obtain ⟨hname, hoverride⟩ := ofDeclaration_parts h
  rw [hoverride]
  refine Override.isSource (Override.expressible_ofLine _) fun hm => ?_
  have hblank := visible_of_mem_words hname ' ' hm
  exact absurd hblank (by decide)

end Field

namespace TypeClass

variable {cls : TypeClass} {type source : String}

theorem arrowless_single (hcls : cls ≠ .enum) (htype : isName type.toList = true)
    (hsource : IsSource source.toList) {y : List Char} (hy : Arrowless y)
    (hclose : Arrowless (')' :: y)) (hgap : ¬ [' ', '='] <+: y) :
    Arrowless (((cls.single type).fill source).toList ++ y) := by
  cases cls with
  | enum => exact absurd rfl hcls
  | primitive => simpa [single] using hsource.arrowless_append hy hgap
  | message =>
    have hcall : ')' ∉ "encode".toList ++ type.toList ++ ['('] := by
      simp [not_mem_of_isName htype (c := ')') (by decide)]
    have h := (hsource.arrowless_append hclose (by simp)).append_of_not_mem_close hcall
    simpa [single] using h

theorem arrowless_repeated (hcls : cls ≠ .enum) (htype : isName type.toList = true)
    (hsource : IsSource source.toList) :
    Arrowless (((cls.repeated type).fill source).toList ++ [',']) := by
  cases cls with
  | enum => exact absurd rfl hcls
  | primitive =>
    have hcomma : Arrowless [','] := .of_not_mem (by decide) (by decide)
    simpa [repeated] using hsource.arrowless_append hcomma (by decide)
  | message =>
    -- the only closing bracket before the call follows a letter
    have hend : Arrowless ")),".toList := .of_not_mem (by decide) (by decide)
    have hitem := hend.append_of_not_mem_close (x := "(item".toList) (by decide)
    have hcall : '(' ∉ "e) => encode".toList ++ type.toList := by
      simp [not_mem_of_isName htype (c := '(') (by decide)]
    have hlambda := hitem.append_of_not_mem_open hcall (by simp)
    have hmap := hlambda.append_of_not_mem_close (x := ".map((item: ASTNod".toList) (by decide)
    simpa [repeated] using hsource.arrowless_append hmap (by simp)

end TypeClass

namespace Field

variable {cls : TypeClass} {field : Field} {source : String}

theorem arrowless_template (hcls : cls ≠ .enum) (htype : isName field.type.toList = true)
    (hsource : IsSource source.toList) : Arrowless ((field.template cls).fill source).toList := by
  have hkey : ')' ∉ (outputName field.name).toList ++ ": ".toList := by
    simp [not_mem_outputName field.name (c := ')') (by decide)]
  have hvalue : Arrowless (((field.value cls).fill source).toList ++ [',']) := by
    unfold value
    cases field.modifier with
    | required =>
      exact TypeClass.arrowless_single hcls htype hsource (.of_not_mem (by decide) (by decide))
        (.of_not_mem (by decide) (by decide)) (by decide)
    | optional =>
      have hsingle := TypeClass.arrowless_single hcls htype hsource
        (y := " : undefined,".toList) (.of_not_mem (by decide) (by decide))
        (.of_not_mem (by decide) (by decide)) (by decide)
      have hthen := hsingle.append_of_not_mem_close (x := " ? ".toList) (by decide)
      simpa [Template.fill_append] using hsource.arrowless_append hthen (by simp)
    | repeated => exact TypeClass.arrowless_repeated hcls htype hsource
  simpa [fill_template] using hvalue.append_of_not_mem_close hkey

theorem wraps_template (field : Field) (source : String) :
    Wraps field.type ((field.template .enum).fill source) := by
  cases hm : field.modifier with
  | required =>
    refine ⟨(outputName field.name ++ ": ").toList, (source ++ "), start, end),").toList, ?_⟩
    simp [template, value, hm, TypeClass.single]
  | optional =>
    refine ⟨(outputName field.name ++ ": " ++ source ++ " ? ").toList,
      (source ++ "), start, end) : undefined,").toList, ?_⟩
    simp [template, value, hm, TypeClass.single]
  | repeated =>
    refine ⟨(outputName field.name ++ ": " ++ source ++ ".map((item: string) => ").toList,
      "item), start, end)),".toList, ?_⟩
    simp [template, value, hm, TypeClass.repeated]

/-- The call in the line of a field is wrapped exactly if the class of its type is an enum. -/
theorem wraps_template_iff {cls : TypeClass} (htype : isName field.type.toList = true)
    (hsource : IsSource source.toList) :
    Wraps field.type ((field.template cls).fill source) ↔ cls = .enum := by
  constructor
  · intro h
    refine Decidable.byContradiction fun hcls => ?_
    refine (arrowless_template hcls htype hsource).notInfix (List.IsInfix.trans ?_ h)
    exact ⟨"interceptEnumError(".toList, ("> encode" ++ field.type ++ "(").toList, by simp [arrow]⟩
  · rintro rfl
    exact wraps_template field source

end Field

/-! ## The field of a message -/

namespace Schema

variable {s : Schema}

theorem isEnum_iff {type : String} :
    s.isEnum type = true ↔ ∃ e, s.get? type = some e ∧ e.kind = .enum := by
  unfold isEnum
  cases s.get? type <;> simp

theorem typeClass_eq_enum_iff {type : String} :
    s.typeClass type = .enum ↔ s.isEnum type = true := by
  unfold typeClass
  split
  · rename_i h
    exact iff_of_true rfl h
  · rename_i h
    refine iff_of_false ?_ h
    split <;> nofun

/-- A message that is no union has a declaration that is read as a field, which is no position. -/
structure HasField (s : Schema) (path : List String) (declaration : String) (field : Field) :
    Prop where
  node : ∃ n, s.find? path = some n ∧ n.kind = .message ∧ n.unionVariants? = none ∧
    (declaration, Member.plain) ∈ n.fields
  read : (Field.ofDeclaration declaration).result = .ok field
  start : field.name ≠ "start"
  finish : field.name ≠ "end"

end Schema

theorem Traced.exists_mem_forEach {α β : Type} {f : α → Traced β} {xs : List α} {ys : List β}
    (h : (Traced.forEach f xs).result = .ok ys) {x : α} (hx : x ∈ xs) :
    ∃ y ∈ ys, (f x).result = .ok y := by
  induction xs generalizing ys with
  | nil => cases hx
  | cons z xs ih =>
    simp only [Traced.forEach, Traced.result_bind] at h
    obtain ⟨y, hy, h⟩ := bind_eq_ok.1 h
    obtain ⟨ys, hys, h⟩ := bind_eq_ok.1 h
    cases h
    rcases List.mem_cons.1 hx with rfl | hx
    · exact ⟨y, List.mem_cons_self, hy⟩
    · obtain ⟨w, hw, hfx⟩ := ih hys hx
      exact ⟨w, List.mem_cons_of_mem _ hw, hfx⟩

namespace Schema

variable {s : Schema} {path : List String} {declaration : String} {field : Field}

/-- The property of a field stands in the encoder of its message. -/
theorem HasField.mem_dispatch (h : s.HasField path declaration field) (hs : s.Printable)
    {c : Config} {es : List Encoder} (hes : (s.encoders c).result = .ok es) {p : Property}
    (hp : (Scope.plainProperty ⟨s, c⟩ declaration).result = .ok p) :
    ∃ guard properties, Encoder.dispatchAt? es path = some (.flat guard properties) ∧
      p ∈ properties := by
  obtain ⟨n, hn, hkind, hflat, hmem⟩ := h.node
  obtain ⟨d, hd, hdispatch⟩ := Scope.dispatchAt?_encoders hs hes hn hkind
  simp only [Scope.dispatch, hflat, Traced.result_bind] at hdispatch
  obtain ⟨properties, hproperties, hdispatch⟩ := bind_eq_ok.1 hdispatch
  cases hdispatch
  refine ⟨_, properties, hd, ?_⟩
  obtain ⟨q, hq, hread⟩ := Traced.exists_mem_forEach hproperties hmem
  cases hp.symm.trans hread
  exact hq

/-- Whether the call in the line of a field is wrapped is settled at the top level. -/
theorem HasField.wraps_iff (h : s.HasField path declaration field) (hs : s.Printable) (c : Config)
    {d : Node} (hd : s.nearest? path field.type = some d) :
    ∃ p line, (Scope.plainProperty ⟨s, c⟩ declaration).result = .ok p ∧ p.lines = [line] ∧
      (Wraps field.type line ↔ s.isEnum field.type = true) := by
  have hdecl := hs.nodes _ d (under_of_nearest? hd)
  have htype : isName field.type.toList = true := hdecl.key_eq ▸ hdecl.isName
  have hsource := Field.isSource_ofDeclaration h.read
  obtain ⟨p, hp, hlines⟩ := Scope.lines_plainProperty ⟨s, c⟩ h.read h.start h.finish
  exact ⟨p, _, hp, hlines,
    (Field.wraps_template_iff htype hsource).trans typeClass_eq_enum_iff⟩

/-- A field of a type that is declared around it has one line, which stands in the encoder of its
message. The call there is wrapped exactly if the declaration at the top level is an enum: this is
the nearest one if no node around the field declares the type. -/
theorem wraps_iff_topLevel {text : String} (hs : (ofText text).result = .ok s) (c : Config)
    (h : s.HasField path declaration field) {d : Node}
    (hd : s.nearest? path field.type = some d) :
    ∃ p line, (Scope.plainProperty ⟨s, c⟩ declaration).result = .ok p ∧ p.lines = [line] ∧
      (∀ es, (s.encoders c).result = .ok es → ∃ guard properties,
        Encoder.dispatchAt? es path = some (.flat guard properties) ∧ p ∈ properties) ∧
      (Wraps field.type line ↔ ∃ e, s.get? field.type = some e ∧ e.kind = .enum) ∧
      (Node.inner? s.nodes field.type path = none → (Wraps field.type line ↔ d.kind = .enum)) := by
  have hprint := printable_of_ofText hs
  obtain ⟨p, line, hp, hline, hwraps⟩ := h.wraps_iff hprint c hd
  rw [isEnum_iff] at hwraps
  refine ⟨p, line, hp, hline, fun es hes => h.mem_dispatch hprint hes hp, hwraps, ?_⟩
  intro hinner
  have htop := get?_of_inner?_eq_none hd hinner
  rw [hwraps]
  constructor
  · rintro ⟨e, he, hkind⟩
    cases htop.symm.trans he
    exact hkind
  · intro hkind
    exact ⟨d, htop, hkind⟩

/-- A list of values of an enum in a message inside another one. -/
theorem wraps_iff_topLevel_nested :
    let text := "enum K \x7b\n  X = 0;\n\x7d\nmessage A \x7b\n  message B \x7b\n" ++
      "    repeated K k = 1;\n  \x7d\n\x7d\n"
    let enum : Node := ⟨"K", 1, .enum, [], [("X = 0;", .plain)]⟩
    let s : Schema := ⟨[("K", enum), ("A", ⟨"A", 4, .message,
      [("B", ⟨"B", 5, .message, [], [("repeated K k = 1;", .plain)]⟩)], []⟩)]⟩
    let field : Field := ⟨.repeated, "K", "k", .empty⟩
    (ofText text).result = .ok s ∧ s.HasField ["A", "B"] "repeated K k = 1;" field ∧
      s.nearest? ["A", "B"] "K" = some enum ∧
      ∃ p line, (Scope.plainProperty ⟨s, .standard⟩ "repeated K k = 1;").result = .ok p ∧
        p.lines = [line] ∧ Wraps "K" line := by
  intro text enum s field
  have hs : (ofText text).result = .ok s := by subst text s; rfl
  have hread : (Field.ofDeclaration "repeated K k = 1;").result = .ok field :=
    Scope.eq_ok_of_toOption (by decide +kernel)
  have h : s.HasField ["A", "B"] "repeated K k = 1;" field :=
    ⟨⟨_, rfl, rfl, rfl, List.mem_singleton.2 rfl⟩, hread, by decide, by decide⟩
  have hd : s.nearest? ["A", "B"] field.type = some enum := rfl
  obtain ⟨p, line, hp, hline, -, -, hwraps⟩ := wraps_iff_topLevel hs .standard h hd
  exact ⟨hs, h, hd, p, line, hp, hline, (hwraps rfl).2 rfl⟩

/-- The encoder of some message has a field whose call is wrapped though the nearest declaration of
its type is no enum, or the other way round. -/
def Misjudges (s : Schema) (c : Config) : Prop :=
  ∃ es path declaration field d guard properties p line, (s.encoders c).result = .ok es ∧
    s.HasField path declaration field ∧ s.nearest? path field.type = some d ∧
    Encoder.dispatchAt? es path = some (.flat guard properties) ∧ p ∈ properties ∧
    (Scope.plainProperty ⟨s, c⟩ declaration).result = .ok p ∧ p.lines = [line] ∧
    ¬ (Wraps field.type line ↔ d.kind = .enum)

theorem HasField.misjudges (h : s.HasField path declaration field) {text : String}
    (hs : (ofText text).result = .ok s) {c : Config}
    (hes : ∃ es, (s.encoders c).result = .ok es) {d : Node}
    (hd : s.nearest? path field.type = some d)
    (hkind : ¬ (s.isEnum field.type = true ↔ d.kind = .enum)) :
    ∃ s, (ofText text).result = .ok s ∧ s.Misjudges c := by
  have hprint := printable_of_ofText hs
  obtain ⟨es, hes⟩ := hes
  obtain ⟨p, line, hp, hline, hwraps⟩ := h.wraps_iff hprint c hd
  obtain ⟨guard, properties, hat, hmem⟩ := h.mem_dispatch hprint hes hp
  refine ⟨s, hs, es, path, declaration, field, d, guard, properties, p, line, hes, h, hd, hat, hmem,
    hp, hline, ?_⟩
  rwa [hwraps]

/-- An enum inside the message of the field is not found, and an enum at the top level is found
though a message inside the message of the field has its name. -/
theorem nearest_not_asked :
    (∃ s, (ofText ("message A \x7b\n  enum K \x7b\n    X = 0;\n  \x7d\n" ++
        "  K k = 1;\n\x7d\n")).result = .ok s ∧ s.Misjudges .standard) ∧
      ∃ s, (ofText ("enum K \x7b\n  X = 0;\n\x7d\nmessage A \x7b\n  message K \x7b\n" ++
        "    string s = 1;\n  \x7d\n  K k = 1;\n\x7d\n")).result = .ok s ∧
        s.Misjudges .standard := by
  have hread : (Field.ofDeclaration "K k = 1;").result = .ok ⟨.required, "K", "k", .empty⟩ :=
    Scope.eq_ok_of_toOption (by decide +kernel)
  constructor
  · have h : HasField ⟨[("A", ⟨"A", 1, .message, [("K", ⟨"K", 2, .enum, [], [("X = 0;", .plain)]⟩)],
        [("K k = 1;", .plain)]⟩)]⟩ ["A"] "K k = 1;" ⟨.required, "K", "k", .empty⟩ :=
      ⟨⟨_, rfl, rfl, rfl, List.mem_singleton.2 rfl⟩, hread, by decide, by decide⟩
    exact h.misjudges rfl ⟨_, rfl⟩ rfl (by decide)
  · have h : HasField ⟨[("K", ⟨"K", 1, .enum, [], [("X = 0;", .plain)]⟩), ("A", ⟨"A", 4, .message,
        [("K", ⟨"K", 5, .message, [], [("string s = 1;", .plain)]⟩)], [("K k = 1;", .plain)]⟩)]⟩
        ["A"] "K k = 1;" ⟨.required, "K", "k", .empty⟩ :=
      ⟨⟨_, rfl, rfl, rfl, List.mem_singleton.2 rfl⟩, hread, by decide, by decide⟩
    exact h.misjudges rfl ⟨_, rfl⟩ rfl (by decide)

end Schema

end TreeSchema
