import TreeSchema.Override
import TreeSchema.Proofs.Text
/-!
# Overrides as they are written

An override is read from the first group in round brackets of a comment. Reading cuts the group at a
colon that a blank follows, trims both sides and skips a side that is empty, so many comments say
the same, and not every pair of texts can be said. `Override.Expressible` are those that can:

* a guard alone, which is any trimmed text without a closing bracket;
* a guard and a value that are such texts, where no blank follows a colon in the guard.

`Override.render` writes an override as a group, a guard alone as `(: guard)`.
`ofComment_render_inverse` says that what is read from a comment is always expressible, and that an
override that is rendered is read back, whatever stands around the group.
-/
namespace TreeSchema

open Text

namespace Text

/-! ## Groups -/

theorem bracketGroup?_append {p : List Char} (hp : '(' ∉ p) (s : List Char) :
    bracketGroup? (p ++ s) = bracketGroup? s := by
  induction p with
  | nil => rfl
  | cons c p ih =>
    have hc : c ≠ '(' := fun h => hp (h ▸ List.mem_cons_self)
    rw [List.cons_append, bracketGroup?, if_neg fun h => hc h.1]
    exact ih fun h => hp (List.mem_cons_of_mem c h)

theorem bracketGroup?_brackets {group : List Char} (hne : group ≠ []) (hclose : ')' ∉ group)
    (q : List Char) : bracketGroup? ('(' :: (group ++ ')' :: q)) = some group := by
  have hinside : ∀ c ∈ group, (c != ')') = true := by
    intro c hc
    simp only [bne_iff_ne]
    exact fun h => hclose (h ▸ hc)
  have htake : (group ++ ')' :: q).takeWhile (· != ')') = group := by
    rw [List.takeWhile_append_of_pos hinside, List.takeWhile_cons_of_neg (by simp), List.append_nil]
  have hdrop : (group ++ ')' :: q).dropWhile (· != ')') ≠ [] := by
    rw [List.dropWhile_append_of_pos hinside, List.dropWhile_cons_of_neg (by simp)]
    exact List.cons_ne_nil _ _
  simp only [bracketGroup?, htake]
  rw [if_pos ⟨trivial, hne, hdrop⟩]

theorem not_mem_of_bracketGroup? {s group : List Char} (h : bracketGroup? s = some group) :
    ')' ∉ group := by
  induction s with
  | nil => cases h
  | cons c s ih =>
    rw [bracketGroup?] at h
    split at h
    · cases h
      intro hm
      have := List.all_eq_true.1 (List.all_takeWhile (p := (· != ')')) (l := s)) _ hm
      simp at this
    · exact ih h

/-! ## Colons -/

/-- Nowhere a blank follows a colon. -/
def ColonsTight (s : List Char) : Prop := ∀ b, isBlank b = true → ¬ [':', b] <:+: s

theorem ColonsTight.of_infix {s t : List Char} (h : ColonsTight t) (hst : s <:+: t) :
    ColonsTight s := fun b hb hs => h b hb (hs.trans hst)

theorem colonsTight_cons_iff {c : Char} {s : List Char} :
    ColonsTight (c :: s) ↔
      ¬ (c = ':' ∧ (s.head?.map isBlank).getD false = true) ∧ ColonsTight s := by
  constructor
  · intro h
    refine ⟨?_, h.of_infix (List.suffix_cons c s).isInfix⟩
    rintro ⟨rfl, hblank⟩
    cases s with
    | nil => cases hblank
    | cons b s => exact h b hblank (List.prefix_append [':', b] s).isInfix
  · rintro ⟨hc, h⟩ b hb hin
    rcases List.infix_cons_iff.1 hin with hin | hin
    · obtain ⟨rfl, t, rfl⟩ := List.cons_prefix_cons.1 hin
      exact hc ⟨rfl, hb⟩
    · exact h b hb hin

theorem cutColon?_eq_none_iff {s : List Char} : cutColon? s = none ↔ ColonsTight s := by
  induction s with
  | nil => simp [cutColon?, ColonsTight]
  | cons c s ih =>
    rw [colonsTight_cons_iff, cutColon?, ← ih]
    split
    · rename_i hc
      simp [hc]
    · rename_i hc
      simp [hc]

instance (s : List Char) : Decidable (ColonsTight s) :=
  decidable_of_iff (cutColon? s = none) cutColon?_eq_none_iff

/-- The cut is at the first colon that a blank follows, wherever tight colons stand before it. -/
theorem cutColon?_append {s : List Char} (h : ColonsTight s) {b : Char} (hb : isBlank b = true)
    (t : List Char) : cutColon? (s ++ ':' :: b :: t) = some (s, trimStart t) := by
  induction s with
  | nil =>
    have htrim : trimStart (b :: t) = trimStart t := List.dropWhile_cons_of_pos hb
    rw [List.nil_append, cutColon?, if_pos ⟨rfl, by simpa using hb⟩, htrim]
  | cons c s ih =>
    obtain ⟨hc, hs⟩ := colonsTight_cons_iff.1 h
    have hnext : ¬ (c = ':' ∧ ((s ++ ':' :: b :: t).head?.map isBlank).getD false = true) := by
      rintro ⟨hcolon, hblank⟩
      cases s with
      | nil =>
        -- what comes next is the colon of the cut
        have hblank : isBlank ':' = true := hblank
        exact absurd hblank (by decide)
      | cons d s => exact hc ⟨hcolon, hblank⟩
    rw [List.cons_append, cutColon?, if_neg hnext, ih hs]
    rfl

theorem of_cutColon?_eq_some {s before after : List Char}
    (h : cutColon? s = some (before, after)) :
    ColonsTight before ∧ ∃ b rest, isBlank b = true ∧ s = before ++ ':' :: b :: rest ∧
      after = trimStart rest := by
  induction s generalizing before with
  | nil => cases h
  | cons c s ih =>
    rw [cutColon?] at h
    split at h
    · rename_i hc
      obtain ⟨rfl, hblank⟩ := hc
      cases h
      cases s with
      | nil => cases hblank
      | cons b s =>
        exact ⟨by simp [ColonsTight], b, s, hblank, rfl, List.dropWhile_cons_of_pos hblank⟩
    · rename_i hc
      obtain ⟨⟨before', after'⟩, hcut, h⟩ := Option.map_eq_some_iff.1 h
      cases h
      obtain ⟨htight, b, rest, hb, rfl, rfl⟩ := ih hcut
      refine ⟨colonsTight_cons_iff.2 ⟨?_, htight⟩, b, rest, hb, rfl, rfl⟩
      rintro ⟨hcolon, hblank⟩
      cases before' with
      | nil => cases hblank
      | cons d before' => exact hc ⟨hcolon, hblank⟩

/-! ## Parts -/

/-- What a part of an override is: a text that is not empty, has no blanks at its ends, and does not
end the group that it stands in. -/
structure IsPart (s : List Char) : Prop where
  ne_nil : s ≠ []
  trimmed : trim s = s
  notMem : ')' ∉ s

instance (s : List Char) : Decidable (IsPart s) :=
  decidable_of_iff (s ≠ [] ∧ trim s = s ∧ ')' ∉ s)
    ⟨fun ⟨h₁, h₂, h₃⟩ => ⟨h₁, h₂, h₃⟩, fun ⟨h₁, h₂, h₃⟩ => ⟨h₁, h₂, h₃⟩⟩

theorem trim_isInfix (s : List Char) : trim s <:+: s :=
  (dropEndWhile_isPrefix _ _).isInfix.trans (List.dropWhile_suffix _).isInfix

theorem isPart_trim {s : List Char} (hne : trim s ≠ []) (h : ')' ∉ s) : IsPart (trim s) :=
  ⟨hne, trim_trim s, fun hm => h (mem_of_mem_trim hm)⟩

theorem IsPart.trimStart_eq {s : List Char} (h : IsPart s) : trimStart s = s := by
  refine dropWhile_eq_self fun c hc => head?_trim (s := s) ?_
  rw [h.trimmed]
  exact hc

end Text

namespace Override

/-! ## Overrides that a comment can say -/

/-- Nothing, or a guard alone, or a guard and a value. A value is never alone, and a guard with a
value must not be cut. -/
def Expressible : Override → Prop
  | ⟨none, none⟩ => True
  | ⟨some guard, none⟩ => IsPart guard.toList
  | ⟨some guard, some value⟩ =>
    IsPart guard.toList ∧ IsPart value.toList ∧ ColonsTight guard.toList
  | ⟨none, some _⟩ => False

instance : (o : Override) → Decidable o.Expressible
  | ⟨none, none⟩ => inferInstanceAs (Decidable True)
  | ⟨some guard, none⟩ => inferInstanceAs (Decidable (IsPart guard.toList))
  | ⟨some _, some _⟩ => inferInstanceAs (Decidable (_ ∧ _ ∧ _))
  | ⟨none, some _⟩ => inferInstanceAs (Decidable False)

/-- The inside of the group that says an override. The colon before a guard alone keeps the guard
from being cut. -/
def group : Override → List Char
  | ⟨some guard, none⟩ => ':' :: ' ' :: guard.toList
  | ⟨some guard, some value⟩ => guard.toList ++ ':' :: ' ' :: value.toList
  | ⟨none, _⟩ => []

/-- The group that says an override: `(guard: value)`, or `(: guard)` if there is no value. -/
def render (o : Override) : List Char := '(' :: (o.group ++ [')'])

theorem expressible_ofGroup {group : List Char} (h : ')' ∉ group) :
    (ofGroup group).Expressible := by
  unfold ofGroup
  cases hcut : cutColon? group with
  | none =>
    by_cases ht : trim group = []
    · simp [ht, Expressible]
    · simpa [ht, Expressible] using isPart_trim ht h
  | some parts =>
    obtain ⟨before, after⟩ := parts
    obtain ⟨htight, b, rest, -, hgroup, hafter⟩ := of_cutColon?_eq_some hcut
    have hbefore : ')' ∉ before := fun hm => h (by simp [hgroup, hm])
    have hrest : ')' ∉ after := by
      intro hm
      rw [hafter] at hm
      have hm := (List.dropWhile_suffix isBlank).subset hm
      exact h (by simp [hgroup, hm])
    by_cases hb : trim before = []
    · by_cases ha : trim after = []
      · simp [hb, ha, Expressible]
      · simpa [hb, ha, Expressible] using isPart_trim ha hrest
    · by_cases ha : trim after = []
      · simpa [hb, ha, Expressible] using isPart_trim hb hbefore
      · simpa [hb, ha, Expressible] using ⟨isPart_trim hb hbefore, isPart_trim ha hrest,
          htight.of_infix (trim_isInfix before)⟩

theorem expressible_ofComment (comment : List Char) : (ofComment comment).Expressible := by
  unfold ofComment
  split
  · rename_i group hgroup
    exact expressible_ofGroup (not_mem_of_bracketGroup? hgroup)
  · trivial

/-! ## Reading a rendered override -/

theorem not_mem_group {o : Override} (h : o.Expressible) : ')' ∉ o.group := by
  match o, h with
  | ⟨some guard, none⟩, h => simp [group, h.notMem]
  | ⟨some guard, some value⟩, h => simp [group, h.1.notMem, h.2.1.notMem]
  | ⟨none, none⟩, _ => simp [group]

theorem ofGroup_group {o : Override} (h : o.Expressible) : ofGroup o.group = o := by
  match o, h with
  | ⟨some guard, none⟩, h =>
    have hcut : cutColon? (':' :: ' ' :: guard.toList) = some ([], trimStart guard.toList) :=
      cutColon?_append (s := []) (by simp [ColonsTight]) (by decide) guard.toList
    have hempty : trim [] = [] := rfl
    simp [ofGroup, group, hcut, h.trimStart_eq, h.trimmed, h.ne_nil, hempty]
  | ⟨some guard, some value⟩, ⟨hg, hv, htight⟩ =>
    have hcut := cutColon?_append htight (b := ' ') (by decide) value.toList
    simp [ofGroup, group, hcut, hv.trimStart_eq, hg.trimmed, hv.trimmed, hg.ne_nil, hv.ne_nil]
  | ⟨none, none⟩, _ => rfl

theorem ofComment_render {o : Override} (h : o.Expressible) (hne : o.isEmpty = false)
    {p : List Char} (hp : '(' ∉ p) (q : List Char) : ofComment (p ++ o.render ++ q) = o := by
  have hgroup : o.group ≠ [] := by
    match o, h, hne with
    | ⟨some guard, none⟩, _, _ => simp [group]
    | ⟨some guard, some value⟩, _, _ => simp [group]
  have hread : bracketGroup? (p ++ o.render ++ q) = some o.group := by
    rw [List.append_assoc, bracketGroup?_append hp, render, List.cons_append, List.append_assoc,
      List.singleton_append]
    exact bracketGroup?_brackets hgroup (not_mem_group h) q
  rw [ofComment, hread]
  exact ofGroup_group h

/-! ## Lines -/

theorem ofLine_of_comment {line before comment : List Char}
    (h : cutComment? line = some (before, comment)) : ofLine line = ofComment comment := by
  simp only [ofLine, comment?, codeAndComment, h]

theorem ofLine_of_code {line : List Char} (h : ¬ ['/', '/'] <:+: line) : ofLine line = empty := by
  simp only [ofLine, comment?, codeAndComment, cutComment?_eq_none_iff.2 h]

/-- What is read from a comment can be said, and what can be said is read back from a comment that
says it, after the code of a line too. -/
theorem ofComment_render_inverse :
    (∀ text, (ofComment text).Expressible) ∧
      ∀ o : Override, o.Expressible → o.isEmpty = false → ∀ p q : List Char, '(' ∉ p →
        ofComment (p ++ o.render ++ q) = o ∧
          ∀ code : List Char, ¬ ['/', '/'] <:+: code →
            ofLine (code ++ ['/', '/'] ++ p ++ o.render ++ q) = o := by
  refine ⟨expressible_ofComment, fun o h hne p q hp => ⟨ofComment_render h hne hp q, ?_⟩⟩
  intro code hcode
  simp only [List.append_assoc, List.cons_append, List.nil_append]
  have hcut := cutComment?_append_marks hcode (p ++ (o.render ++ q))
  by_cases hslash : code.getLast? = some '/'
  · -- the comment starts one character early, with a slash that is no bracket
    have hp' : '(' ∉ '/' :: p := by simp [hp]
    rw [if_pos hslash] at hcut
    rw [ofLine_of_comment hcut, ← List.cons_append, ← List.append_assoc]
    exact ofComment_render h hne hp' q
  · rw [if_neg hslash] at hcut
    rw [ofLine_of_comment hcut, ← List.append_assoc]
    exact ofComment_render h hne hp q

/-- A guard that ends with a colon, a value with a cut in it, and a slash right before the
comment. -/
theorem ofComment_render_inverse_after_slash :
    let o : Override := ⟨some "a:", some "b: c"⟩
    o.Expressible ∧ o.isEmpty = false ∧ '(' ∉ " x".toList ∧ ¬ ['/', '/'] <:+: "T s/".toList ∧
      "T s/".toList ++ ['/', '/'] ++ " x".toList ++ o.render ++ ") (d)".toList =
        "T s/// x(a:: b: c)) (d)".toList ∧
      ofLine ("T s/".toList ++ ['/', '/'] ++ " x".toList ++ o.render ++ ") (d)".toList) = o := by
  intro o
  have ho : o.Expressible := by decide
  have hp : '(' ∉ " x".toList := by decide
  have hcode : ¬ ['/', '/'] <:+: "T s/".toList := by decide
  exact ⟨ho, rfl, hp, hcode, by decide,
    (ofComment_render_inverse.2 o ho rfl " x".toList ") (d)".toList hp).2 "T s/".toList hcode⟩

end Override

end TreeSchema
