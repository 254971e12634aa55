import TreeSchema.Proofs.Faults
import TreeSchema.Proofs.OutputName
import TreeSchema.Proofs.Text
/-!
# Lines that look like the first line of an encoder

An encoder begins with `function encode` or `export function encode`. Much of the other text comes
from a schema and may be anything, so that no other line begins like that needs a reason for each
kind of line:

* most begin with another character, whatever is written behind it (`startsApart`);
* the lines of properties begin with an output name and a colon, and an output name has no space
  (`opensFunction_of_key`).

`quiet_dispatch` sums this up: what an encoder does after the encoders inside it is never taken for
one of them.
-/
namespace TreeSchema

/-! ## Lines -/

/-- Whether a line, after its indentation, begins like the first line of an encoder. -/
def opensFunction (line : String) : Bool :=
  let text := line.toList.dropWhile (· == ' ')
  "function encode".toList.isPrefixOf text || "export function encode".toList.isPrefixOf text

theorem dropWhile_replicate_append (n : Nat) (s : List Char) :
    (List.replicate n ' ' ++ s).dropWhile (· == ' ') = s.dropWhile (· == ' ') := by
  rw [List.dropWhile_append_of_pos]
  simp

theorem opensFunction_indented (n : Nat) (line : String) :
    opensFunction (String.ofList (List.replicate n ' ') ++ line) = opensFunction line := by
  simp only [opensFunction, String.toList_append, String.toList_ofList, dropWhile_replicate_append]

theorem filter_indent (n : Nat) (ls : List String) :
    (indent n ls).filter opensFunction = indent n (ls.filter opensFunction) := by
  unfold indent
  rw [List.filter_map]
  congr 2
  funext l
  exact opensFunction_indented n l

theorem indent_zero (ls : List String) : indent 0 ls = ls := by simp [indent]

theorem indent_cons (n : Nat) (l : String) (ls : List String) :
    indent n (l :: ls) = (String.ofList (List.replicate n ' ') ++ l) :: indent n ls := rfl

theorem indent_append (n : Nat) (ls ms : List String) :
    indent n (ls ++ ms) = indent n ls ++ indent n ms := List.map_append

theorem indent_indent (m n : Nat) (ls : List String) :
    indent m (indent n ls) = indent (m + n) ls := by
  simp only [indent, List.map_map]
  congr 1
  funext l
  simp only [Function.comp_apply, ← String.append_assoc, ← String.ofList_append,
    List.replicate_append_replicate]

/-- After its indentation, the line begins with another character than `function` and `export`. -/
def startsApart (line : String) : Bool :=
  (line.toList.dropWhile (· == ' ')).head?.any fun c => c != 'f' && c != 'e'

theorem startsApart_append {line : String} (h : startsApart line = true) (rest : String) :
    startsApart (line ++ rest) = true := by
  unfold startsApart at h ⊢
  rw [String.toList_append, List.dropWhile_append]
  cases hl : line.toList.dropWhile (· == ' ') with
  | nil => simp [hl] at h
  | cons c s => simpa [hl] using h

theorem opensFunction_of_startsApart {line : String} (h : startsApart line = true) :
    opensFunction line = false := by
  unfold startsApart at h
  unfold opensFunction
  cases hl : line.toList.dropWhile (· == ' ') with
  | nil => rfl
  | cons c s =>
    simp only [hl, List.head?_cons, Option.any_some, Bool.and_eq_true, bne_iff_ne] at h
    have hf : ('f' == c) = false := by simpa using Ne.symm h.1
    have he : ('e' == c) = false := by simpa using Ne.symm h.2
    simp [List.isPrefixOf, hf, he]

/-- A space before every colon does not fit a colon before every space. -/
theorem not_isPrefix {a n : List Char} (ha : ':' ∉ a) (hn : ' ' ∉ n) (b t : List Char) :
    ¬ a ++ ' ' :: b <+: n ++ ':' :: t := by
  intro h
  induction a generalizing n with
  | nil =>
    cases n with
    | nil => exact absurd (List.cons_prefix_cons.1 h).1 (by decide)
    | cons c n => exact hn ((List.cons_prefix_cons.1 h).1 ▸ List.mem_cons_self)
  | cons d a ih =>
    cases n with
    | nil => exact ha ((List.cons_prefix_cons.1 h).1 ▸ List.mem_cons_self)
    | cons c n =>
      exact ih (fun hd => ha (List.mem_cons_of_mem _ hd)) (fun hc => hn (List.mem_cons_of_mem _ hc))
        (List.cons_prefix_cons.1 h).2

/-- A line that begins with an output name and a colon is not indented. -/
theorem dropWhile_of_key (name : String) {line : String}
    (h : (outputName name).toList ++ [':'] <+: line.toList) :
    line.toList.dropWhile (· == ' ') = line.toList := by
  obtain ⟨rest, h⟩ := h
  rw [List.append_assoc, List.singleton_append] at h
  have hn : ' ' ∉ (outputName name).toList := not_mem_outputName name (by decide)
  refine Text.dropWhile_eq_self fun c hc => ?_
  rw [← h] at hc
  cases hs : (outputName name).toList with
  | nil =>
    rw [hs] at hc
    obtain rfl : ':' = c := by simpa using hc
    rfl
  | cons d s =>
    rw [hs] at hc
    obtain rfl : d = c := by simpa using hc
    have hne : d ≠ ' ' := fun he => hn (by simp [hs, he])
    simpa using hne

/-- A line that begins with an output name and a colon does not begin like an encoder. -/
theorem opensFunction_of_key (name : String) {line : String}
    (h : (outputName name).toList ++ [':'] <+: line.toList) : opensFunction line = false := by
  have hd := dropWhile_of_key name h
  obtain ⟨rest, h⟩ := h
  rw [List.append_assoc, List.singleton_append] at h
  have hn : ' ' ∉ (outputName name).toList := not_mem_outputName name (by decide)
  have hf : ¬ "function encode".toList <+: line.toList := by
    rw [← h]
    exact not_isPrefix (a := "function".toList) (by decide) hn "encode".toList rest
  have he : ¬ "export function encode".toList <+: line.toList := by
    rw [← h]
    exact not_isPrefix (a := "export".toList) (by decide) hn "function encode".toList rest
  unfold opensFunction
  rw [hd, Bool.or_eq_false_iff, ← Bool.not_eq_true, ← Bool.not_eq_true, List.isPrefixOf_iff_prefix,
    List.isPrefixOf_iff_prefix]
  exact ⟨hf, he⟩

/-! ## Lines that open nothing -/

/-- No line begins like an encoder. -/
def Quiet (ls : List String) : Prop := ∀ l ∈ ls, opensFunction l = false

instance (ls : List String) : Decidable (Quiet ls) :=
  inferInstanceAs (Decidable (∀ l ∈ ls, opensFunction l = false))

namespace Quiet

theorem filter_eq_nil {ls : List String} (h : Quiet ls) : ls.filter opensFunction = [] :=
  List.filter_eq_nil_iff.2 fun l hl => by simp [h l hl]

theorem nil : Quiet [] := by
  intro l hl
  cases hl

theorem cons {l : String} {ls : List String} (hl : opensFunction l = false) (h : Quiet ls) :
    Quiet (l :: ls) := by
  intro x hx
  rcases List.mem_cons.1 hx with rfl | hx
  · exact hl
  · exact h x hx

theorem append {ls ms : List String} (h : Quiet ls) (h' : Quiet ms) : Quiet (ls ++ ms) := by
  intro x hx
  rcases List.mem_append.1 hx with hx | hx
  · exact h x hx
  · exact h' x hx

theorem singleton {l : String} (hl : opensFunction l = false) : Quiet [l] := .cons hl .nil

theorem indent {ls : List String} (h : Quiet ls) (n : Nat) : Quiet (indent n ls) := by
  intro x hx
  obtain ⟨l, hl, rfl⟩ := List.mem_map.1 hx
  rw [opensFunction_indented]
  exact h l hl

theorem map {α : Type} {f : α → String} (xs : List α) (h : ∀ x, startsApart (f x) = true) :
    Quiet (xs.map f) := by
  intro l hl
  obtain ⟨x, -, rfl⟩ := List.mem_map.1 hl
  exact opensFunction_of_startsApart (h x)

end Quiet

/-! ## What a message is built as -/

theorem Guard.quiet_single (expression : String) : Quiet (Guard.single expression).lines := by
  refine .singleton (opensFunction_of_startsApart ?_)
  exact startsApart_append (startsApart_append (by decide) _) _

theorem Guard.quiet_anyOf {tag : String → String} (h : ∀ t, startsApart (tag t) = true)
    (types : List String) : Quiet (Guard.anyOf (types.map tag)).lines := by
  unfold Guard.lines
  refine .append (.append (.singleton (by decide)) (.indent ?_ 2)) (.singleton (by decide))
  rw [List.map_map]
  exact .map types fun t => startsApart_append (h t) _

namespace Scope

variable {cx : Scope}

theorem startsApart_tag (cx : Scope) (type : String) : startsApart (cx.tag type) = true :=
  startsApart_append (by decide) _

theorem quiet_variantGuard {v : Variant} {g : Guard} (h : cx.variantGuard v = .ok g) :
    Quiet g.lines := by
  unfold variantGuard at h
  split at h
  · cases h
    exact Guard.quiet_single _
  · obtain ⟨cls, -, h⟩ := bind_eq_ok.1 h
    cases cls with
    | tag =>
      cases h
      exact Guard.quiet_single _
    | union variants =>
      obtain ⟨types, -, h⟩ := bind_eq_ok.1 h
      cases h
      exact Guard.quiet_anyOf cx.startsApart_tag types

theorem quiet_body (v : Variant) (inUnion : Bool) (source : Source) :
    Quiet (v.body inUnion source) := by
  have hchoice : ∀ value : String, Quiet ["oneofKind: " ++ quote (outputName v.name) ++ ",",
      outputName v.name ++ ": " ++ value] := by
    intro value
    refine .cons (opensFunction_of_startsApart ?_) (.singleton ?_)
    · exact startsApart_append (startsApart_append (by decide) _) _
    · exact opensFunction_of_key v.name (by simp)
  cases inUnion with
  | true =>
    exact .append (.append (.singleton (by decide)) (.indent (hchoice _) 2)) (.singleton (by decide))
  | false => exact hchoice _

theorem quiet_arm {inUnion : Bool} {source : Source} {text : String} {a : Arm}
    (h : cx.arm inUnion source text = .ok a) : Quiet a.lines := by
  obtain ⟨v, -, h⟩ := bind_eq_ok.1 h
  obtain ⟨g, hg, h⟩ := bind_eq_ok.1 h
  cases h
  exact .append (.append (quiet_variantGuard hg) (.indent (quiet_body v inUnion source) 2))
    (.singleton (by decide))

theorem quiet_arms {inUnion : Bool} {source : Source} {texts : List String} {arms : List Arm}
    (h : cx.arms inUnion source texts = .ok arms) : Quiet (arms.flatMap Arm.lines) := by
  induction texts generalizing arms with
  | nil =>
    cases h
    exact .nil
  | cons text texts ih =>
    obtain ⟨a, ha, h⟩ := bind_eq_ok.1 h
    obtain ⟨as, has, h⟩ := bind_eq_ok.1 h
    cases h
    exact .append (quiet_arm ha) (ih has)

/-- The property of a single declaration is a position, or it stands under the output name of what
is declared. -/
theorem plainProperty_cases {text : String} {p : Property}
    (h : (cx.plainProperty text).result = .ok p) :
    ∃ field, (Field.ofDeclaration text).result = .ok field ∧
      ((field.name = "start" ∨ field.name = "end") ∧ p = .position field.name ∨
        ∃ expression, p = .value (outputName field.name) expression) := by
  simp only [plainProperty, Traced.result_bind] at h
  obtain ⟨field, hfield, h⟩ := bind_eq_ok.1 h
  refine ⟨field, hfield, ?_⟩
  split at h
  · rename_i hname
    cases h
    exact .inl ⟨hname, rfl⟩
  · refine .inr ?_
    cases hm : field.modifier <;> simp only [hm, Traced.result_bind] at h <;>
      obtain ⟨expression, -, h⟩ := bind_eq_ok.1 h <;> cases h <;> exact ⟨_, rfl⟩

theorem quiet_plainProperty {text : String} {p : Property}
    (h : (cx.plainProperty text).result = .ok p) : Quiet p.lines := by
  obtain ⟨field, -, ⟨hname, rfl⟩ | ⟨expression, rfl⟩⟩ := plainProperty_cases h
  · rcases hname with hname | hname
    · rw [hname]
      exact .singleton (by decide)
    · rw [hname]
      exact .singleton (by decide)
  · exact .singleton (opensFunction_of_key field.name (by simp))

theorem quiet_choice (key messageType matcher : String) {arms : List Arm}
    (h : Quiet (arms.flatMap Arm.lines)) :
    Quiet (Property.choice (outputName key) messageType matcher arms).lines := by
  unfold Property.lines
  refine .append (.append (.singleton ?_) (.indent h 2)) (.singleton (by decide))
  exact opensFunction_of_key key (by simp)

/-- The property of a `oneof` stands under its output name, with an arm for each variant. -/
theorem choiceProperty_cases {qualified key : String} {variants : List String} {p : Property}
    (h : cx.choiceProperty qualified key variants = .ok p) :
    ∃ source matcher arms, cx.arms false source variants = .ok arms ∧
      p = .choice (outputName key) qualified matcher arms := by
  unfold choiceProperty at h
  split at h
  · obtain ⟨arms, harms, h⟩ := bind_eq_ok.1 h
    cases h
    exact ⟨_, _, arms, harms, rfl⟩
  · obtain ⟨arms, harms, h⟩ := bind_eq_ok.1 h
    cases h
    exact ⟨_, _, arms, harms, rfl⟩

theorem quiet_choiceProperty {qualified key : String} {variants : List String} {p : Property}
    (h : cx.choiceProperty qualified key variants = .ok p) : Quiet p.lines := by
  obtain ⟨source, matcher, arms, harms, rfl⟩ := choiceProperty_cases h
  exact quiet_choice _ _ _ (quiet_arms harms)

theorem quiet_property {qualified : String} {x : String × Member} {p : Property}
    (h : (cx.property qualified x).result = .ok p) : Quiet p.lines := by
  obtain ⟨key, member⟩ := x
  cases member with
  | plain => exact quiet_plainProperty h
  | oneof variants => exact quiet_choiceProperty h

theorem quiet_properties {qualified : String} {fields : List (String × Member)} {ps : List Property}
    (h : (Traced.forEach (cx.property qualified) fields).result = .ok ps) :
    Quiet (ps.flatMap Property.lines) := by
  induction fields generalizing ps with
  | nil =>
    cases h
    exact .nil
  | cons x fields ih =>
    simp only [Traced.forEach, Traced.result_bind] at h
    obtain ⟨p, hp, h⟩ := bind_eq_ok.1 h
    obtain ⟨ps, hps, h⟩ := bind_eq_ok.1 h
    cases h
    exact .append (quiet_property hp) (ih hps)

/-- However a message is dispatched, no line of it begins like an encoder. -/
theorem quiet_dispatch {qualified : String} {n : Node} {d : Dispatch}
    (h : (cx.dispatch qualified n).result = .ok d) : Quiet d.lines := by
  unfold dispatch at h
  split at h
  · rw [Traced.result_bind] at h
    obtain ⟨arms, harms, h⟩ := bind_eq_ok.1 h
    cases h
    exact quiet_arms harms
  · rw [Traced.result_bind] at h
    obtain ⟨ps, hps, h⟩ := bind_eq_ok.1 h
    cases h
    exact .append (.append (Guard.quiet_single _) (.indent (quiet_properties hps) 2))
      (.singleton (by decide))

end Scope

end TreeSchema
