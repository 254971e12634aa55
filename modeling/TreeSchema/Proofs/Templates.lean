import TreeSchema.Proofs.Openings
import TreeSchema.Proofs.Overrides
/-!
# Overrides of values

A field is written to the output as a value that is read from the node of the syntax tree, in the
form that its modifier and its type ask for. An override puts another expression in the place of
what is read. `Template` is a text with holes for that expression.

`plainProperty_template` says that an override can do nothing else: lines with the same code, and
whatever comments, give one template with its holes filled in different ways. So a comment has no
say in the modifier, the type, the name or the text around the value.
-/
namespace TreeSchema

open Text

/-! ## Templates -/

/-- A part of a template: a text that stands as it is, or a hole. -/
inductive Piece where
  | text (text : String)
  | hole
deriving DecidableEq, Repr

/-- A text with holes in it. -/
abbrev Template := List Piece

namespace Template

/-- Puts a text into every hole. -/
def fill (source : String) : Template → String
  | [] => ""
  | .text text :: rest => text ++ fill source rest
  | .hole :: rest => source ++ fill source rest

def holes (t : Template) : Nat := t.count .hole

@[simp] theorem fill_nil (source : String) : fill source [] = "" := rfl

@[simp] theorem fill_text (source text : String) (rest : Template) :
    fill source (.text text :: rest) = text ++ fill source rest := rfl

@[simp] theorem fill_hole (source : String) (rest : Template) :
    fill source (.hole :: rest) = source ++ fill source rest := rfl

theorem fill_append (source : String) (t u : Template) :
    fill source (t ++ u) = fill source t ++ fill source u := by
  induction t with
  | nil => simp
  | cons piece t ih => cases piece <;> simp [ih, String.append_assoc]

end Template

/-! ## The template of a field -/

/-- What is read for a field: the value of its override, else the guard, else the property of its
name. -/
def Override.source (o : Override) (name : String) : String :=
  match o.value, o.guard with
  | some value, _ => value
  | none, some guard => guard
  | none, none => "props[" ++ quote name ++ "]"

/-- A single value of a type. -/
def TypeClass.single : TypeClass → String → Template
  | .enum, type =>
    [.text ("interceptEnumError(() => encode" ++ type ++ "("), .hole, .text "), start, end)"]
  | .message, type => [.text ("encode" ++ type ++ "("), .hole, .text ")"]
  | .primitive, _ => [.hole]

/-- A list of values of a type. -/
def TypeClass.repeated : TypeClass → String → Template
  | .enum, type =>
    [.hole, .text (".map((item: string) => interceptEnumError(() => encode" ++ type ++
      "(item), start, end))")]
  | .message, type => [.hole, .text (".map((item: ASTNode) => encode" ++ type ++ "(item))")]
  | .primitive, _ => [.hole]

namespace Field

/-- The value of a field whose type has a class. -/
def value (f : Field) (cls : TypeClass) : Template :=
  match f.modifier with
  | .required => cls.single f.type
  | .optional => [.hole, .text " ? "] ++ cls.single f.type ++ [.text " : undefined"]
  | .repeated => cls.repeated f.type

/-- The line of a field whose type has a class. -/
def template (f : Field) (cls : TypeClass) : Template :=
  [.text (outputName f.name ++ ": ")] ++ f.value cls ++ [.text ","]

theorem one_le_holes_template (f : Field) (cls : TypeClass) : 1 ≤ (f.template cls).holes := by
  refine List.count_pos_iff.2 ?_
  cases hm : f.modifier <;> cases cls <;>
    simp [template, value, hm, TypeClass.single, TypeClass.repeated]

theorem fill_template (f : Field) (cls : TypeClass) (source : String) :
    (f.template cls).fill source = outputName f.name ++ ": " ++ (f.value cls).fill source ++ "," := by
  simp [template, Template.fill_append, String.append_assoc]

end Field

theorem TypeClass.fill_single (cls : TypeClass) (type source : String) :
    (cls.single type).fill source = Scope.single cls type source := by
  cases cls with
  | primitive => exact String.append_empty
  | enum =>
    show "interceptEnumError(() => encode" ++ type ++ "(" ++ (source ++ ("), start, end)" ++ "")) =
      "interceptEnumError(() => encode" ++ type ++ "(" ++ source ++ "), start, end)"
    simp only [String.append_assoc, String.append_empty]
  | message =>
    show "encode" ++ type ++ "(" ++ (source ++ (")" ++ "")) = "encode" ++ type ++ "(" ++ source ++ ")"
    simp only [String.append_assoc, String.append_empty]

theorem TypeClass.result_repeated (cls : TypeClass) (type source declaration : String) :
    (Scope.repeated cls type source declaration).result =
      .ok ((cls.repeated type).fill source) := by
  cases cls with
  | primitive =>
    show Except.ok source = Except.ok (source ++ "")
    rw [String.append_empty]
  | enum =>
    show Except.ok (source ++ ".map((item: string) => interceptEnumError(() => encode" ++ type ++
        "(item), start, end))") =
      Except.ok (source ++ (".map((item: string) => interceptEnumError(() => encode" ++ type ++
        "(item), start, end))" ++ ""))
    simp only [String.append_assoc, String.append_empty]
  | message =>
    show Except.ok (source ++ ".map((item: ASTNode) => encode" ++ type ++ "(item))") =
      Except.ok (source ++ (".map((item: ASTNode) => encode" ++ type ++ "(item))" ++ ""))
    simp only [String.append_assoc, String.append_empty]

/-! ## The line of a declaration -/

namespace Scope

theorem source_eq (o : Override) (name : String) :
    (o.value <|> o.guard).getD (propertyOf name) = o.source name := by
  obtain ⟨guard, value⟩ := o
  cases value <;> cases guard <;> rfl

theorem lines_plainProperty (cx : Scope) {text : String} {field : Field}
    (hfield : (Field.ofDeclaration text).result = .ok field) (hstart : field.name ≠ "start")
    (hend : field.name ≠ "end") :
    ∃ p, (cx.plainProperty text).result = .ok p ∧
      p.lines = [(field.template (cx.schema.typeClass field.type)).fill
        (field.override.source field.name)] := by
  have hname : ¬ (field.name = "start" ∨ field.name = "end") := not_or.2 ⟨hstart, hend⟩
  rw [Field.fill_template]
  refine ⟨.value (outputName field.name) ((field.value (cx.schema.typeClass field.type)).fill
    (field.override.source field.name)), ?_, rfl⟩
  simp only [plainProperty, Traced.result_bind, hfield, ok_bind, if_neg hname, source_eq]
  cases hm : field.modifier with
  | required => simp [Field.value, hm, TypeClass.fill_single]; rfl
  | optional =>
    simp [Field.value, hm, Template.fill_append, TypeClass.fill_single, String.append_assoc]
    rfl
  | repeated => simp [Field.value, hm, TypeClass.result_repeated]; rfl

end Scope

/-! ## Lines with the same code -/

theorem Text.code_eq_self {s : List Char} (h : ¬ ['/', '/'] <:+: s) : code s = s := by
  simp only [code, codeAndComment, cutComment?_eq_none_iff.2 h]

/-- Two lines with the same words declare the same, but for the override. -/
theorem Field.ofDeclaration_congr {line text : String} {field : Field}
    (hwords : declaredWords line.toList = declaredWords text.toList)
    (h : (Field.ofDeclaration text).result = .ok field) :
    (Field.ofDeclaration line).result = .ok { field with override := .ofLine line.toList } := by
  simp only [Field.ofDeclaration] at h ⊢
  rw [hwords]
  -- both lines are matched on the same words, so each split opens both
  split at h
  · split at h
    · cases h
      rfl
    · rw [Traced.result_bind, Traced.result_note, ok_bind] at h
      cases h
      rfl
  · cases h
    rfl
  · cases h

namespace Scope

/-- A comment after a declaration changes what is read and nothing else. The template comes before
the settings and the line, so it hangs on neither. -/
theorem plainProperty_template {s : Schema} {c : Config} {text : String} {p : Property}
    (htext : ¬ ['/', '/'] <:+: text.toList) (hp : (plainProperty ⟨s, c⟩ text).result = .ok p) :
    ∃ field, (Field.ofDeclaration text).result = .ok field ∧
      (field.name ≠ "start" → field.name ≠ "end" →
        ∃ t : Template, 1 ≤ t.holes ∧
          (∀ (c' : Config) (line : String), code line.toList = text.toList →
            ∃ q, (plainProperty ⟨s, c'⟩ line).result = .ok q ∧
              q.lines = [t.fill ((Override.ofLine line.toList).source field.name)]) ∧
          (field.modifier = .required → s.typeClass field.type = .primitive →
            t = [.text (outputName field.name ++ ": "), .hole, .text ","])) := by
  obtain ⟨field, hfield, -⟩ := plainProperty_cases hp
  refine ⟨field, hfield, fun hstart hend => ?_⟩
  refine ⟨field.template (s.typeClass field.type), field.one_le_holes_template _, ?_, ?_⟩
  · intro c' line hline
    have hwords : declaredWords line.toList = declaredWords text.toList := by
      rw [declaredWords, hline, declaredWords, code_eq_self htext]
    have hread := Field.ofDeclaration_congr hwords hfield
    exact lines_plainProperty ⟨s, c'⟩ hread hstart hend
  · intro hrequired hprimitive
    rw [Field.template, Field.value, hrequired, hprimitive]
    rfl

theorem eq_ok_of_toOption {α : Type} {x : Except Error α} {a : α} (h : x.toOption = some a) :
    x = .ok a := by
  cases x with
  | error e => cases h
  | ok b => cases h; rfl

/-- An optional enum, whose template has two holes. -/
theorem plainProperty_template_optional :
    let s : Schema := ⟨[("K", ⟨"K", 1, .enum, [], []⟩)]⟩
    let text := "optional K my_key = 1;"
    ¬ ['/', '/'] <:+: text.toList ∧
      (plainProperty ⟨s, .standard⟩ text).result = .ok (.value "myKey"
        "props[\"my_key\"] ? interceptEnumError(() => encodeK(props[\"my_key\"]), start, end) : undefined") ∧
      ∃ t : Template, 1 ≤ t.holes ∧
        ∃ q, (plainProperty ⟨s, .standard⟩ "optional K my_key = 1; // (a: b ? c)").result = .ok q ∧
          q.lines = [t.fill "b ? c"] := by
  intro s text
  have htext : ¬ ['/', '/'] <:+: text.toList := cutComment?_eq_none_iff.1 (by decide)
  have hp : (plainProperty ⟨s, .standard⟩ text).result = .ok (.value "myKey"
      "props[\"my_key\"] ? interceptEnumError(() => encodeK(props[\"my_key\"]), start, end) : undefined") :=
    eq_ok_of_toOption (by decide +kernel)
  have hread : (Field.ofDeclaration text).result = .ok ⟨.optional, "K", "my_key", .empty⟩ :=
    eq_ok_of_toOption (by decide +kernel)
  have hcode : code "optional K my_key = 1; // (a: b ? c)".toList = text.toList := by
    decide +kernel
  have hsource : (Override.ofLine "optional K my_key = 1; // (a: b ? c)".toList).source "my_key" =
      "b ? c" := by decide +kernel
  clear_value s text
  obtain ⟨field, hfield, h⟩ := plainProperty_template htext hp
  obtain rfl : _ = field := Except.ok.inj (hread.symm.trans hfield)
  obtain ⟨t, hholes, hlines, -⟩ := h (by decide) (by decide)
  obtain ⟨q, hq, hql⟩ := hlines .standard "optional K my_key = 1; // (a: b ? c)" hcode
  rw [hsource] at hql
  exact ⟨htext, hp, t, hholes, q, hq, hql⟩

end Scope

end TreeSchema
