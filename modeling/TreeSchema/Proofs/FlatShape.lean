import Mathlib.Data.List.Forall2
import TreeSchema.Proofs.Openings
/-!
# The shape of a flat message

The encoder of a message that is no union has one arm, which builds the message property by
property. A reader of the code can tell the properties apart by indentation alone: a line that is
indented by two spaces starts a property, and the deeper lines after it belong to it (`sections`).

`flat_shape` says that the properties found so are those that are declared, in order, each under its
output name, and that a `oneof` has as many arms as variants. The texts of guards and values come
from the schema and may be anything. They are not taken for a property or an arm, as no line begins
with them except one that is indented deeper (`property_section`, `Guard.countP_lines`).
-/
namespace TreeSchema

/-! ## Sections -/

/-- The number of spaces that a line starts with. -/
def indentation (line : String) : Nat := (line.toList.takeWhile (· == ' ')).length

/-- The lines that are indented by `n` spaces, each with the lines up to the next one. -/
def sections (n : Nat) : List String → List (String × List String)
  | [] => []
  | l :: ls =>
    if indentation l = n then (l, ls.takeWhile (indentation · ≠ n)) :: sections n ls
    else sections n ls

theorem map_fst_sections (n : Nat) (ls : List String) :
    (sections n ls).map Prod.fst = ls.filter (indentation · = n) := by
  induction ls with
  | nil => rfl
  | cons l ls ih =>
    by_cases h : indentation l = n
    · simp [sections, h, ih]
    · simp [sections, h, ih]

theorem sections_append {n : Nat} {body : List String} (h : ∀ l ∈ body, indentation l ≠ n)
    (ls : List String) : sections n (body ++ ls) = sections n ls := by
  induction body with
  | nil => rfl
  | cons l body ih =>
    rw [List.cons_append, sections, if_neg (h l List.mem_cons_self)]
    exact ih fun m hm => h m (List.mem_cons_of_mem _ hm)

/-- A section ends where the next one starts. -/
theorem sections_cons {n : Nat} {header : String} {body ls : List String}
    (hheader : indentation header = n) (hbody : ∀ l ∈ body, indentation l ≠ n)
    (hls : ∀ l ∈ ls.head?, indentation l = n) :
    sections n (header :: (body ++ ls)) = (header, body) :: sections n ls := by
  have hnext : ls.takeWhile (indentation · ≠ n) = [] := by
    cases ls with
    | nil => rfl
    | cons l ls => rw [List.takeWhile_cons_of_neg (by simp [hls l rfl])]
  rw [sections, if_pos hheader, sections_append hbody,
    List.takeWhile_append_of_pos (by simpa using hbody), hnext, List.append_nil]

theorem indentation_indented (n : Nat) (line : String) :
    indentation (String.ofList (List.replicate n ' ') ++ line) = n + indentation line := by
  simp only [indentation, String.toList_append, String.toList_ofList]
  rw [List.takeWhile_append_of_pos (by simp), List.length_append, List.length_replicate]

theorem le_indentation {n : Nat} {ls : List String} {l : String} (h : l ∈ indent n ls) :
    n ≤ indentation l := by
  obtain ⟨l, -, rfl⟩ := List.mem_map.1 h
  rw [indentation_indented]
  exact Nat.le_add_right n _

/-! ## Keys -/

/-- The key that a line begins with: what stands before its first colon, or before its comma if it
has no colon. -/
def lineKey (line : String) : String :=
  let text := line.toList.dropWhile (· == ' ')
  let mark := if ':' ∈ text then ':' else ','
  String.ofList (text.takeWhile (· != mark))

theorem indentation_of_key (name : String) {line : String}
    (h : (outputName name).toList ++ [':'] <+: line.toList) : indentation line = 0 := by
  have hl : line.toList.takeWhile (· == ' ') ++ line.toList.dropWhile (· == ' ') = line.toList :=
    List.takeWhile_append_dropWhile
  rw [dropWhile_of_key name h, List.append_left_eq_self] at hl
  rw [indentation, hl]
  rfl

theorem lineKey_of_key (name : String) {line : String}
    (h : (outputName name).toList ++ [':'] <+: line.toList) (n : Nat) :
    lineKey (String.ofList (List.replicate n ' ') ++ line) = outputName name := by
  have hd := dropWhile_of_key name h
  obtain ⟨rest, h⟩ := h
  rw [List.append_assoc, List.singleton_append] at h
  have hn : ∀ c ∈ (outputName name).toList, (c != ':') = true := by
    intro c hc
    have hcolon : ':' ∉ (outputName name).toList := not_mem_outputName name (by decide)
    have hne : c ≠ ':' := fun he => hcolon (he ▸ hc)
    simpa using hne
  rw [lineKey, String.toList_append, String.toList_ofList, dropWhile_replicate_append, hd, ← h]
  simp only [List.mem_append, List.mem_cons, true_or, or_true, if_true]
  rw [List.takeWhile_append_of_pos hn, List.takeWhile_cons_of_neg (by decide), List.append_nil,
    String.ofList_toList]

/-! ## Arms -/

/-- Whether a line opens an arm that is indented by `n` spaces. -/
def opensArm (n : Nat) (line : String) : Bool :=
  (List.replicate n ' ' ++ ".with(".toList).isPrefixOf line.toList

theorem opensArm_indented (m n : Nat) (line : String) :
    opensArm (m + n) (String.ofList (List.replicate m ' ') ++ line) = opensArm n line := by
  unfold opensArm
  generalize ".with(".toList = opening
  rw [Bool.eq_iff_iff, List.isPrefixOf_iff_prefix, List.isPrefixOf_iff_prefix, String.toList_append,
    String.toList_ofList, ← List.replicate_append_replicate, List.append_assoc,
    List.prefix_append_right_inj]

theorem countP_indent (m n : Nat) (ls : List String) :
    (indent m ls).countP (opensArm (m + n)) = ls.countP (opensArm n) := by
  unfold indent
  rw [List.countP_map]
  congr 1
  funext l
  exact opensArm_indented m n l

/-- A line that is indented opens no arm that is not. -/
theorem countP_indent_succ (n : Nat) (ls : List String) :
    (indent (n + 1) ls).countP (opensArm 0) = 0 := by
  refine List.countP_eq_zero.2 fun l hl => ?_
  obtain ⟨l, -, rfl⟩ := List.mem_map.1 hl
  simp [opensArm, List.replicate_succ]

theorem Guard.countP_lines (g : Guard) : g.lines.countP (opensArm 0) = 1 := by
  cases g with
  | single expression =>
    have h : opensArm 0 (".with(" ++ expression ++ ", () => (\x7b") = true := by
      rw [opensArm, List.isPrefixOf_iff_prefix, String.append_assoc, String.toList_append]
      exact List.prefix_append _ _
    rw [Guard.lines, List.countP_singleton, if_pos h]
  | anyOf tags =>
    rw [Guard.lines, List.countP_append, List.countP_append, countP_indent_succ]
    rfl

/-- However an arm is built, one of its lines opens an arm. -/
theorem Arm.countP_lines (a : Arm) : a.lines.countP (opensArm 0) = 1 := by
  rw [Arm.lines, List.countP_append, List.countP_append, Guard.countP_lines, countP_indent_succ]
  rfl

theorem countP_flatMap_lines (arms : List Arm) :
    (arms.flatMap Arm.lines).countP (opensArm 0) = arms.length := by
  induction arms with
  | nil => rfl
  | cons a arms ih =>
    rw [List.flatMap_cons, List.countP_append, Arm.countP_lines, ih, List.length_cons, Nat.add_comm]

/-! ## Properties -/

/-- How a declared field is shown: by a line that begins with its output name. A plain field has no
further lines, and a `oneof` has an arm for each variant. -/
def ShownAs : String × Member → String × List String → Prop
  | (declaration, .plain), (header, body) =>
    ∃ field, (Field.ofDeclaration declaration).result = .ok field ∧
      lineKey header = outputName field.name ∧ body = []
  | (key, .oneof variants), (header, body) =>
    lineKey header = outputName key ∧ body.countP (opensArm 4) = variants.length

namespace Scope

variable {cx : Scope}

theorem length_arms {inUnion : Bool} {source : Source} {texts : List String} {arms : List Arm}
    (h : cx.arms inUnion source texts = .ok arms) : arms.length = texts.length := by
  induction texts generalizing arms with
  | nil =>
    cases h
    rfl
  | cons text texts ih =>
    obtain ⟨a, -, h⟩ := bind_eq_ok.1 h
    obtain ⟨as, has, h⟩ := bind_eq_ok.1 h
    cases h
    rw [List.length_cons, List.length_cons, ih has]

/-- The first line of a property is the only one that is indented as deep as the object asks. -/
theorem property_section {qualified : String} {x : String × Member} {p : Property}
    (h : (cx.property qualified x).result = .ok p) :
    ∃ header body, indent 2 p.lines = header :: body ∧ indentation header = 2 ∧
      (∀ l ∈ body, indentation l ≠ 2) ∧ ShownAs x (header, body) := by
  obtain ⟨key, member⟩ := x
  cases member with
  | plain =>
    obtain ⟨field, hfield, ⟨hname, rfl⟩ | ⟨expression, rfl⟩⟩ := plainProperty_cases h
    · refine ⟨_, [], rfl, ?_, by simp, field, hfield, ?_, rfl⟩
      · rcases hname with hname | hname <;> rw [hname] <;> rfl
      · rcases hname with hname | hname <;> rw [hname] <;> rfl
    · have hkey : (outputName field.name).toList ++ [':'] <+:
          (outputName field.name ++ ": " ++ expression ++ ",").toList := by simp
      refine ⟨_, [], rfl, ?_, by simp, field, hfield, lineKey_of_key _ hkey 2, rfl⟩
      rw [indentation_indented, indentation_of_key _ hkey]
  | oneof variants =>
    obtain ⟨source, matcher, arms, harms, rfl⟩ := choiceProperty_cases h
    have hkey : (outputName key).toList ++ [':'] <+: (outputName key ++ ": matchEncoding<proto." ++
        qualified ++ "[" ++ quote (outputName key) ++ "]>(" ++ matcher ++ ", start, end)").toList := by
      simp
    have hbody : indent 2 (indent 2 (arms.flatMap Arm.lines) ++ ["  .end(),"]) =
        indent 4 (arms.flatMap Arm.lines ++ [".end(),"]) := by
      rw [indent_append, indent_append, indent_indent]
      rfl
    refine ⟨_, indent 4 (arms.flatMap Arm.lines ++ [".end(),"]), ?_, ?_, ?_,
      lineKey_of_key _ hkey 2, ?_⟩
    · rw [Property.lines, List.append_assoc, List.singleton_append, indent_cons, hbody]
    · rw [indentation_indented, indentation_of_key _ hkey]
    · intro l hl
      have := le_indentation hl
      omega
    · rw [countP_indent 4 0, List.countP_append, countP_flatMap_lines, length_arms harms]
      rfl

theorem properties_sections {qualified : String} {fields : List (String × Member)}
    {ps : List Property} (h : (Traced.forEach (cx.property qualified) fields).result = .ok ps) :
    (∀ l ∈ (indent 2 (ps.flatMap Property.lines)).head?, indentation l = 2) ∧
      List.Forall₂ ShownAs fields (sections 2 (indent 2 (ps.flatMap Property.lines))) := by
  induction fields generalizing ps with
  | nil =>
    cases h
    exact ⟨nofun, .nil⟩
  | cons x fields ih =>
    simp only [Traced.forEach, Traced.result_bind] at h
    obtain ⟨p, hp, h⟩ := bind_eq_ok.1 h
    obtain ⟨ps, hps, h⟩ := bind_eq_ok.1 h
    cases h
    obtain ⟨header, body, hlines, hheader, hbody, hshown⟩ := property_section hp
    obtain ⟨hnext, hrest⟩ := ih hps
    rw [List.flatMap_cons, indent_append, hlines, List.cons_append]
    refine ⟨?_, ?_⟩
    · intro l hl
      cases hl
      exact hheader
    · rw [sections_cons hheader hbody hnext]
      exact .cons hshown hrest

/-- The lines of a message that is no union show its fields: between the first and the last line,
those that are indented by two spaces are one for each field, in order. -/
theorem flat_shape {qualified : String} {n : Node} {d : Dispatch} (hn : n.unionVariants? = none)
    (h : (cx.dispatch qualified n).result = .ok d) :
    ∃ first inner last, d.lines = first :: (inner ++ [last]) ∧
      (sections 2 inner).map Prod.fst = inner.filter (indentation · = 2) ∧
      List.Forall₂ ShownAs n.fields (sections 2 inner) := by
  simp only [dispatch, hn, Traced.result_bind] at h
  obtain ⟨ps, hps, h⟩ := bind_eq_ok.1 h
  cases h
  exact ⟨_, indent 2 (ps.flatMap Property.lines), _, rfl, map_fst_sections 2 _,
    (properties_sections hps).2⟩

/-- A position, a value with a colon and a comma, a `oneof` with a union among its variants, and a
list. One guard is written like the opening of an arm. -/
theorem flat_shape_mixed :
    let cx : Scope := ⟨⟨[("E", ⟨"E", 1, .message, [], [("kind", .oneof ["ANode a;", "BNode b;"])]⟩)]⟩,
      .standard⟩
    let n : Node := ⟨"P", 5, .message, [], [("uint32 start = 1;", .plain),
      ("string name; // (a ? b:c, d)", .plain), ("a_value", .oneof ["E e;", "CNode c; // (.with()"]),
      ("repeated CNode all_items;", .plain)]⟩
    let inner := ["  start,", "  name: a ? b:c, d,",
      "  aValue: matchEncoding<proto.P[\"aValue\"]>(props[\"a_value\"].type, start, end)",
      "    .with([", "      NodeType.A,", "      NodeType.B,", "    ], () => (\x7b",
      "      oneofKind: \"e\",", "      e: encodeE(props[\"a_value\"])", "    \x7d))",
      "    .with(.with(, () => (\x7b",
      "      oneofKind: \"c\",", "      c: encodeCNode(props[\"a_value\"])", "    \x7d))",
      "    .end(),",
      "  allItems: props[\"all_items\"].map((item: ASTNode) => encodeCNode(item)),"]
    n.unionVariants? = none ∧ ∃ d, (cx.dispatch "P" n).result = .ok d ∧
      d.lines = [".with(NodeType.P, () => (\x7b"] ++ inner ++ ["\x7d))"] ∧
      List.Forall₂ ShownAs n.fields (sections 2 inner) := by
  intro cx n inner
  have h : (cx.dispatch "P" n).result.toOption.map Dispatch.lines =
      some ([".with(NodeType.P, () => (\x7b"] ++ inner ++ ["\x7d))"]) := by
    decide +kernel
  cases hd : (cx.dispatch "P" n).result with
  | error e =>
    rw [hd] at h
    cases h
  | ok d =>
    rw [hd] at h
    have hlines := Option.some.inj h
    obtain ⟨first, inner', last, hlines', -, hshown⟩ := flat_shape (n := n) rfl hd
    have hinner : inner' = inner :=
      List.append_inj_left' (List.cons.inj (hlines'.symm.trans hlines)).2 rfl
    exact ⟨rfl, d, rfl, hlines, hinner ▸ hshown⟩

end Scope

end TreeSchema
