import TreeSchema.Declaration
import TreeSchema.Proofs.Overrides
/-!
# Lines of fields

A field is written as `[modifier] Type name`, then semicolons or `=` and a value, then perhaps a
comment, with blanks in between. Reading a line cuts it at the comment, then at `=`, then drops
semicolons, then splits it at blanks, and each cut sees what the others left over: an `=` in a
comment or a `;` in a value must not count.

`FieldLine` is a line as it may be written, with the conditions on its parts. Types and names may
have any characters but blanks, `=` and `//`, and a name must not end with a semicolon.
`FieldLine.read` says that a line is read as it was written, and that it is a variant exactly if it
has no modifier.
-/
namespace TreeSchema

namespace Text

/-! ## Words -/

theorem split_append_of_pos {p : Char → Bool} {b : Char} (hb : p b = true) (s t : List Char) :
    split p (s ++ b :: t) = ((split p s).1, (split p s).2 ++ (split p t).1 :: (split p t).2) := by
  induction s with
  | nil => simp [split, hb]
  | cons c s ih =>
    rw [List.cons_append, split, split, ih]
    by_cases hc : p c = true
    · simp [hc]
    · simp [hc]

theorem split_of_neg {p : Char → Bool} {w : List Char} (h : ∀ c ∈ w, p c = false) :
    split p w = (w, []) := by
  induction w with
  | nil => rfl
  | cons c w ih =>
    have hc := h c List.mem_cons_self
    rw [split, ih fun d hd => h d (List.mem_cons_of_mem c hd)]
    simp [hc]

theorem words_append_blank {b : Char} (hb : isBlank b = true) (s t : List Char) :
    words (s ++ b :: t) = words s ++ words t := by
  simp only [words, splitNonempty, split_append_of_pos hb]
  rw [← List.cons_append, List.filter_append]

theorem words_of_visible {w : List Char} (hne : w ≠ []) (h : ∀ c ∈ w, isBlank c = false) :
    words w = [w] := by
  simp [words, splitNonempty, split_of_neg h, hne]

theorem words_blanks_append {b : List Char} (hb : ∀ c ∈ b, isBlank c = true) (s : List Char) :
    words (b ++ s) = words s := by
  induction b with
  | nil => rfl
  | cons c b ih =>
    have hc := words_append_blank (hb c List.mem_cons_self) [] (b ++ s)
    rw [List.cons_append]
    exact hc.trans (ih fun d hd => hb d (List.mem_cons_of_mem c hd))

/-! ## Ends and sides -/

theorem dropEndWhile_append_of_pos {p : Char → Bool} {b : List Char} (hb : ∀ c ∈ b, p c = true)
    (s : List Char) : dropEndWhile p (s ++ b) = dropEndWhile p s := by
  unfold dropEndWhile
  rw [List.reverse_append, List.dropWhile_append_of_pos]
  simpa using hb

theorem dropEndWhile_eq_nil {p : Char → Bool} {b : List Char} (hb : ∀ c ∈ b, p c = true) :
    dropEndWhile p b = [] := dropEndWhile_append_of_pos hb []

theorem exists_dropEndWhile_append (p : Char → Bool) (s : List Char) :
    ∃ b, s = dropEndWhile p s ++ b ∧ ∀ c ∈ b, p c = true := by
  refine ⟨(s.reverse.takeWhile p).reverse, ?_, ?_⟩
  · unfold dropEndWhile
    rw [← List.reverse_append, List.takeWhile_append_dropWhile, List.reverse_reverse]
  · intro c hc
    exact List.all_eq_true.1 List.all_takeWhile c (List.mem_reverse.1 hc)

theorem trim_append_of_blank {b : List Char} (hb : ∀ c ∈ b, isBlank c = true) (s : List Char) :
    trim (s ++ b) = trim s := by
  unfold trim trimEnd trimStart
  rw [List.dropWhile_append]
  split
  · rename_i hs
    have hall : b.dropWhile isBlank = [] := by
      rw [← List.append_nil b, List.dropWhile_append_of_pos hb]
      rfl
    rw [hall, List.isEmpty_iff.1 hs]
  · exact dropEndWhile_append_of_pos hb _

theorem trim_trimEnd (s : List Char) : trim (trimEnd s) = trim s := by
  obtain ⟨b, hs, hb⟩ := exists_dropEndWhile_append isBlank s
  calc trim (trimEnd s) = trim (trimEnd s ++ b) := (trim_append_of_blank hb _).symm
    _ = trim s := congrArg trim hs.symm

theorem leftSide_append {s : List Char} (h : '=' ∉ s) (t : List Char) :
    leftSide (s ++ t) = s ++ leftSide t := by
  refine List.takeWhile_append_of_pos fun c hc => ?_
  simp only [bne_iff_ne]
  exact fun he => h (he ▸ hc)

theorem leftSide_eq_self {s : List Char} (h : '=' ∉ s) : leftSide s = s := by
  simpa [leftSide] using leftSide_append h []

/-- Blanks before a comment do not matter to what is declared. -/
theorem dropSemicolons_leftSide_trimEnd (s : List Char) :
    dropSemicolons (leftSide (trimEnd s)) = dropSemicolons (leftSide s) := by
  by_cases h : '=' ∈ s
  · obtain ⟨a, t, rfl, ha⟩ := List.eq_append_cons_of_mem h
    have htrim : trimEnd (a ++ '=' :: t) = a ++ '=' :: trimEnd t := by
      have := dropEndWhile_append (p := isBlank) (a := a ++ ['=']) (by simp; decide) t
      simpa [trimEnd] using this
    rw [htrim, leftSide_append ha, leftSide_append ha]
    rfl
  · have htrim : '=' ∉ trimEnd s := fun hm => h ((dropEndWhile_isPrefix _ _).subset hm)
    rw [leftSide_eq_self h, leftSide_eq_self htrim, dropSemicolons, trim_trimEnd, dropSemicolons]

theorem declaredWords_eq (line : List Char) :
    declaredWords line = words (dropSemicolons (leftSide (beforeComment line))) := by
  unfold declaredWords code codeAndComment beforeComment
  cases cutComment? line with
  | none => rfl
  | some x => rw [dropSemicolons_leftSide_trimEnd]

/-- What stands between blanks, and before semicolons, is what is declared. -/
theorem dropSemicolons_eq {lead body pad pad' : List Char}
    (hlead : ∀ c ∈ lead, isBlank c = true) (hpad : ∀ c ∈ pad, isBlank c = true)
    (hpad' : ∀ c ∈ pad', isBlank c = true) (hne : body ≠ [])
    (hhead : ∀ c ∈ body.head?, isBlank c = false) (hlast : ∀ c ∈ body.getLast?, isBlank c = false)
    (hend : body.getLast? ≠ some ';') (n : Nat) :
    dropSemicolons (lead ++ (body ++ (pad ++ (List.replicate n ';' ++ pad')))) = body := by
  have hend' : ∀ c ∈ body.getLast?, (c == ';') = false := by
    intro c hc
    simp only [beq_eq_false_iff_ne]
    rintro rfl
    exact hend hc
  have htrim : ∀ s, trim (lead ++ (body ++ s)) = body ++ trimEnd s := by
    intro s
    have hstart : trimStart (body ++ s) = body ++ s := by
      refine dropWhile_eq_self fun c hc => hhead c ?_
      rwa [List.head?_append, Option.or_of_isSome (List.isSome_head?.2 hne)] at hc
    rw [trim_append_blanks hlead, trim, hstart]
    exact dropEndWhile_append hlast s
  rw [dropSemicolons, htrim]
  cases n with
  | zero =>
    have hnil : trimEnd (pad ++ (List.replicate 0 ';' ++ pad')) = [] := by
      refine dropEndWhile_eq_nil fun c hc => ?_
      simp only [List.replicate_zero, List.nil_append, List.mem_append] at hc
      exact hc.elim (hpad c) (hpad' c)
    rw [hnil, List.append_nil, dropEndWhile_eq_self hend']
    exact dropEndWhile_eq_self hlast
  | succ n =>
    have hsemicolons : trimEnd (pad ++ (List.replicate (n + 1) ';' ++ pad')) =
        pad ++ List.replicate (n + 1) ';' := by
      rw [← List.append_assoc, trimEnd, dropEndWhile_append_of_pos hpad']
      refine dropEndWhile_eq_self fun c hc => ?_
      rw [List.getLast?_append, List.getLast?_replicate] at hc
      obtain rfl : ';' = c := by simpa using hc
      decide
    have hbefore : ∀ c ∈ (body ++ pad).getLast?, (c == ';') = false := by
      intro c hc
      rw [List.getLast?_append] at hc
      cases hp : pad.getLast? with
      | none =>
        rw [hp] at hc
        exact hend' c hc
      | some d =>
        rw [hp] at hc
        obtain rfl : d = c := by simpa using hc
        simp only [beq_eq_false_iff_ne]
        rintro rfl
        exact absurd (hpad _ (List.mem_of_getLast? hp)) (by decide)
    have hall : ∀ c ∈ List.replicate (n + 1) ';', (c == ';') = true := by simp
    rw [hsemicolons, ← List.append_assoc, dropEndWhile_append_of_pos hall,
      dropEndWhile_eq_self hbefore, trimEnd, dropEndWhile_append_of_pos hpad]
    exact dropEndWhile_eq_self hlast

/-- A comment does not start where a text goes on with another character than a slash. -/
theorem cutComment?_append_of_head {a b : List Char} (ha : cutComment? a = none)
    (hb : cutComment? b = none) (h : b.head? ≠ some '/') : cutComment? (a ++ b) = none := by
  rw [cutComment?_eq_none_iff] at ha hb ⊢
  rw [List.infix_append_iff_ne_nil]
  rintro (hin | hin | ⟨l₁, l₂, -, hne, heq, -, t, rfl⟩)
  · exact ha hin
  · exact hb hin
  · cases l₂ with
    | nil => exact hne rfl
    | cons c l =>
      have hc : c ∈ ['/', '/'] := by simp [heq]
      obtain rfl : c = '/' := by simpa using hc
      exact h rfl

theorem cutComment?_append_of_not_mem {a s : List Char} (ha : '/' ∉ a)
    (hs : cutComment? s = none) : cutComment? (a ++ s) = none := by
  rw [cutComment?_append_left ha, hs]
  rfl

end Text

open Text

/-! ## Lines as they are written -/

/-- Blanks, or nothing. -/
structure Padding where
  text : List Char
  blank : ∀ c ∈ text, isBlank c = true

/-- One blank or more. -/
structure Gap extends Padding where
  ne_nil : text ≠ []

/-- A type or a name. -/
structure Word where
  text : List Char
  ne_nil : text ≠ []
  visible : ∀ c ∈ text, isBlank c = false
  noEquals : '=' ∉ text
  noComment : ¬ ['/', '/'] <:+: text

/-- What ends the code of a line: semicolons, or `=` and a value that is not used. -/
inductive Ending where
  | semicolons (count : Nat)
  | value (text : List Char) (noComment : ¬ ['/', '/'] <:+: text)

def Ending.text : Ending → List Char
  | .semicolons count => List.replicate count ';'
  | .value text _ => '=' :: text

/-- The word that a modifier is written as. A field without a modifier is required. -/
def Modifier.word? : Modifier → Option (List Char)
  | .required => none
  | .optional => some "optional".toList
  | .repeated => some "repeated".toList

/-- The code of a field, part by part. The gap after the modifier counts if there is a modifier. -/
structure FieldCode where
  lead : Padding
  modifier : Modifier
  modifierGap : Gap
  type : Word
  typeGap : Gap
  name : Word
  name_end : name.text.getLast? ≠ some ';'
  nameGap : Padding
  ending : Ending

namespace FieldCode

/-- The modifier, if it is written, and the gap after it. -/
def front (f : FieldCode) : List Char :=
  match f.modifier.word? with
  | some word => word ++ f.modifierGap.text
  | none => []

/-- The words of the field, with the gaps between them. -/
def declared (f : FieldCode) : List Char :=
  f.front ++ (f.type.text ++ (f.typeGap.text ++ f.name.text))

def text (f : FieldCode) : List Char :=
  f.lead.text ++ (f.declared ++ (f.nameGap.text ++ f.ending.text))

end FieldCode

/-- The line of a field: its code, and perhaps a comment with the blanks before it. A comment starts
where it is written, so there are blanks before it, or there is no slash. -/
structure FieldLine extends FieldCode where
  comment : Option (Padding × List Char)
  apart : ∀ c ∈ comment, c.1.text = [] → toFieldCode.text.getLast? ≠ some '/'

namespace FieldLine

def text (l : FieldLine) : List Char :=
  match l.comment with
  | some (pad, comment) => l.toFieldCode.text ++ (pad.text ++ '/' :: '/' :: comment)
  | none => l.toFieldCode.text

/-- The override that the comment says. -/
def override (l : FieldLine) : Override :=
  match l.comment with
  | some (_, comment) => .ofComment comment
  | none => .empty

end FieldLine

/-! ## Their words -/

theorem Padding.not_mem (p : Padding) {c : Char} (hc : isBlank c = false) : c ∉ p.text := by
  intro hm
  rw [p.blank c hm] at hc
  cases hc

theorem Padding.head?_append (p : Padding) {s : List Char} (h : s.head? ≠ some '/') :
    (p.text ++ s).head? ≠ some '/' := by
  cases hp : p.text with
  | nil => exact h
  | cons c t =>
    rintro ⟨⟩
    exact p.not_mem (c := '/') (by decide) (by simp [hp])

theorem Gap.head?_append (g : Gap) (s : List Char) : (g.text ++ s).head? ≠ some '/' := by
  rw [List.head?_append, Option.or_of_isSome (List.isSome_head?.2 g.ne_nil)]
  exact fun hc => g.not_mem (by decide) (List.mem_of_head? hc)

theorem Ending.cutComment?_text (e : Ending) :
    cutComment? e.text = none ∧ e.text.head? ≠ some '/' := by
  cases e with
  | semicolons count =>
    refine ⟨cutComment?_eq_none (by simp [text]), ?_⟩
    cases count <;> simp [text, List.replicate_succ]
  | value v hv =>
    refine ⟨cutComment?_append_of_not_mem (a := ['=']) (by decide) ?_, by simp [text]⟩
    exact cutComment?_eq_none_iff.2 hv

theorem Gap.words_append (g : Gap) (s t : List Char) :
    words (s ++ (g.text ++ t)) = words s ++ words t := by
  obtain ⟨⟨text, blank⟩, ne_nil⟩ := g
  cases text with
  | nil => exact absurd rfl ne_nil
  | cons b text =>
    rw [List.cons_append, words_append_blank (blank b List.mem_cons_self),
      words_blanks_append fun c hc => blank c (List.mem_cons_of_mem b hc)]

theorem Word.words_text (w : Word) : words w.text = [w.text] :=
  words_of_visible w.ne_nil w.visible

theorem Modifier.isName_word? {m : Modifier} {word : List Char} (h : m.word? = some word) :
    isName word = true := by
  cases m with
  | required => cases h
  | optional => cases h; rfl
  | repeated => cases h; rfl

theorem ne_nil_of_isName {s : List Char} (h : isName s = true) : s ≠ [] := by
  rintro rfl
  cases h

theorem visible_of_isName {s : List Char} (h : isName s = true) : ∀ c ∈ s, isBlank c = false :=
  fun _ hc => isBlank_of_isNamePart (isNamePart_of_mem h hc)

namespace FieldCode

theorem words_declared (f : FieldCode) :
    words f.declared = f.modifier.word?.toList ++ [f.type.text, f.name.text] := by
  have hrest : words (f.type.text ++ (f.typeGap.text ++ f.name.text)) =
      [f.type.text, f.name.text] := by
    rw [Gap.words_append, Word.words_text, Word.words_text]
    rfl
  unfold declared front
  cases hword : f.modifier.word? with
  | none => exact hrest
  | some word =>
    have hname := Modifier.isName_word? hword
    simp only [List.append_assoc]
    rw [Gap.words_append, words_of_visible (ne_nil_of_isName hname) (visible_of_isName hname), hrest]
    rfl

theorem not_mem_front (f : FieldCode) {c : Char} (hname : isNamePart c = false)
    (hblank : isBlank c = false) : c ∉ f.front := by
  unfold front
  split
  · rename_i word hword
    rw [List.mem_append, not_or]
    exact ⟨not_mem_of_isName (Modifier.isName_word? hword) hname, f.modifierGap.not_mem hblank⟩
  · exact List.not_mem_nil

theorem head?_declared (f : FieldCode) : ∀ c ∈ f.declared.head?, isBlank c = false := by
  intro c hc
  unfold declared front at hc
  split at hc
  · rename_i word hword
    have hname := Modifier.isName_word? hword
    rw [List.append_assoc, List.head?_append,
      Option.or_of_isSome (List.isSome_head?.2 (ne_nil_of_isName hname))] at hc
    exact visible_of_isName hname c (List.mem_of_head? hc)
  · rw [List.nil_append, List.head?_append,
      Option.or_of_isSome (List.isSome_head?.2 f.type.ne_nil)] at hc
    exact f.type.visible c (List.mem_of_head? hc)

theorem getLast?_declared (f : FieldCode) : f.declared.getLast? = f.name.text.getLast? := by
  have hlast : f.name.text.getLast?.isSome = true := by simp [f.name.ne_nil]
  unfold declared
  rw [← List.append_assoc, ← List.append_assoc, List.getLast?_append, Option.or_of_isSome hlast]

/-- The code of a field, with more blanks behind it, declares the words that are written. -/
theorem dropSemicolons_leftSide_text (f : FieldCode) (pad : Padding) :
    dropSemicolons (leftSide (f.text ++ pad.text)) = f.declared := by
  have hne : f.declared ≠ [] := by simp [declared, f.name.ne_nil]
  have hlast : ∀ c ∈ f.declared.getLast?, isBlank c = false := by
    intro c hc
    rw [getLast?_declared] at hc
    exact f.name.visible c (List.mem_of_getLast? hc)
  have hend : f.declared.getLast? ≠ some ';' := by
    rw [getLast?_declared]
    exact f.name_end
  have hequals : '=' ∉ f.lead.text ++ (f.declared ++ f.nameGap.text) := by
    have := f.not_mem_front (c := '=') (by decide) (by decide)
    have := f.lead.not_mem (c := '=') (by decide)
    have := f.typeGap.not_mem (c := '=') (by decide)
    have := f.nameGap.not_mem (c := '=') (by decide)
    have := f.type.noEquals
    have := f.name.noEquals
    simp [declared, *]
  have hdrop : ∀ pad' : List Char, (∀ c ∈ pad', isBlank c = true) → ∀ n, dropSemicolons
      (f.lead.text ++ (f.declared ++ (f.nameGap.text ++ (List.replicate n ';' ++ pad')))) =
        f.declared := fun _ hpad' =>
    dropSemicolons_eq f.lead.blank f.nameGap.blank hpad' hne f.head?_declared hlast hend
  have hleft : leftSide (f.text ++ pad.text) =
      f.lead.text ++ (f.declared ++ (f.nameGap.text ++ leftSide (f.ending.text ++ pad.text))) := by
    simpa [text] using leftSide_append hequals (f.ending.text ++ pad.text)
  rw [hleft]
  cases f.ending with
  | semicolons count =>
    have hnone : '=' ∉ List.replicate count ';' ++ pad.text := by
      simp [pad.not_mem (c := '=') (by decide)]
    rw [Ending.text, leftSide_eq_self hnone]
    exact hdrop pad.text pad.blank count
  | value v hv => exact hdrop [] (by simp) 0

theorem cutComment?_text (f : FieldCode) : cutComment? f.text = none := by
  have hword : ∀ w : Word, cutComment? w.text = none := fun w =>
    cutComment?_eq_none_iff.2 w.noComment
  have hslash : ∀ p : Padding, '/' ∉ p.text := fun p => p.not_mem (by decide)
  obtain ⟨hending, hhead⟩ := f.ending.cutComment?_text
  have hname : cutComment? (f.name.text ++ (f.nameGap.text ++ f.ending.text)) = none := by
    refine cutComment?_append_of_head (hword f.name) ?_ (f.nameGap.head?_append hhead)
    exact cutComment?_append_of_not_mem (hslash f.nameGap) hending
  have htype : cutComment? (f.type.text ++
      (f.typeGap.text ++ (f.name.text ++ (f.nameGap.text ++ f.ending.text)))) = none := by
    refine cutComment?_append_of_head (hword f.type) ?_ (f.typeGap.head?_append _)
    exact cutComment?_append_of_not_mem (hslash f.typeGap.toPadding) hname
  have hfront := f.not_mem_front (c := '/') (by decide) (by decide)
  unfold text declared
  simp only [List.append_assoc]
  exact cutComment?_append_of_not_mem (hslash f.lead) (cutComment?_append_of_not_mem hfront htype)

end FieldCode

/-! ## Reading lines -/

namespace FieldLine

/-- The comment of a line is found where it is written. -/
theorem cutComment?_text (l : FieldLine) :
    cutComment? l.text = l.comment.map fun (pad, comment) => (l.toFieldCode.text ++ pad.text, comment) := by
  unfold text
  cases hc : l.comment with
  | none => exact l.toFieldCode.cutComment?_text
  | some c =>
    obtain ⟨pad, comment⟩ := c
    have hcode : cutComment? (l.toFieldCode.text ++ pad.text) = none := by
      rw [cutComment?_append_right (pad.not_mem (by decide)), l.toFieldCode.cutComment?_text]
      rfl
    have hlast : (l.toFieldCode.text ++ pad.text).getLast? ≠ some '/' := by
      rw [List.getLast?_append]
      cases hpad : pad.text.getLast? with
      | none => exact l.apart _ hc (List.getLast?_eq_none_iff.1 hpad)
      | some b =>
        rintro ⟨⟩
        exact pad.not_mem (by decide) (List.mem_of_getLast? hpad)
    have hcut := cutComment?_append_marks (cutComment?_eq_none_iff.1 hcode) comment
    rw [if_neg hlast, List.append_assoc] at hcut
    exact hcut

theorem declaredWords_text (l : FieldLine) :
    declaredWords l.text = l.modifier.word?.toList ++ [l.type.text, l.name.text] := by
  have hbefore : ∃ pad : Padding, beforeComment l.text = l.toFieldCode.text ++ pad.text := by
    unfold beforeComment
    rw [cutComment?_text]
    cases hc : l.comment with
    | none => exact ⟨⟨[], by simp⟩, by simp [text, hc]⟩
    | some c => exact ⟨c.1, rfl⟩
  obtain ⟨pad, hbefore⟩ := hbefore
  rw [declaredWords_eq, hbefore, FieldCode.dropSemicolons_leftSide_text, FieldCode.words_declared]

theorem ofLine_text (l : FieldLine) : Override.ofLine l.text = l.override := by
  have hcut := l.cutComment?_text
  unfold override
  cases hc : l.comment with
  | none =>
    rw [hc] at hcut
    exact Override.ofLine_of_code (cutComment?_eq_none_iff.1 hcut)
  | some c =>
    rw [hc] at hcut
    exact Override.ofLine_of_comment hcut

end FieldLine

/-- A line is read as it was written, without a note. It is a variant if it has no modifier, and
cannot be read as one otherwise. -/
theorem Field.ofDeclaration_written (l : FieldLine) :
    Field.ofDeclaration (String.ofList l.text) =
        pure ⟨l.modifier, String.ofList l.type.text, String.ofList l.name.text, l.override⟩ ∧
      Variant.ofDeclaration (String.ofList l.text) =
        if l.modifier = .required then
          .ok ⟨String.ofList l.type.text, String.ofList l.name.text, l.override⟩
        else .error (.declaration (String.ofList l.text) .variant) := by
  have hwords := l.declaredWords_text
  have hline := l.ofLine_text
  cases hm : l.modifier with
  | required =>
    rw [hm] at hwords
    simp [Field.ofDeclaration, Variant.ofDeclaration, hwords, hline, Modifier.word?]
  | optional =>
    rw [hm] at hwords
    simp [Field.ofDeclaration, Variant.ofDeclaration, hwords, hline, Modifier.word?, Modifier.ofWord?]
  | repeated =>
    rw [hm] at hwords
    simp [Field.ofDeclaration, Variant.ofDeclaration, hwords, hline, Modifier.word?, Modifier.ofWord?]

theorem visible_of_all {s : List Char} (h : (s.all fun c => !isBlank c) = true) :
    ∀ c ∈ s, isBlank c = false := by
  intro c hc
  simpa using List.all_eq_true.1 h c hc

/-- Slashes and semicolons at every end, an equals sign in the comment, and a second comment in the
first. -/
theorem Field.ofDeclaration_written_slashes :
    ∃ l : FieldLine, l.text = "\toptional a;/b  ;/c/ = ;/ // (g=: v) // (w)".toList ∧
      Field.ofDeclaration "\toptional a;/b  ;/c/ = ;/ // (g=: v) // (w)" =
        pure ⟨.optional, "a;/b", ";/c/", ⟨some "g=", some "v"⟩⟩ ∧
      Variant.ofDeclaration "\toptional a;/b  ;/c/ = ;/ // (g=: v) // (w)" =
        .error (.declaration "\toptional a;/b  ;/c/ = ;/ // (g=: v) // (w)" .variant) := by
  let space : Gap := ⟨⟨" ".toList, List.all_eq_true.1 (by decide)⟩, by decide⟩
  let l : FieldLine :=
    { lead := ⟨"\t".toList, List.all_eq_true.1 (by decide)⟩
      modifier := .optional
      modifierGap := space
      type := ⟨"a;/b".toList, by decide, visible_of_all (by decide), by decide, by decide⟩
      typeGap := ⟨⟨"  ".toList, List.all_eq_true.1 (by decide)⟩, by decide⟩
      name := ⟨";/c/".toList, by decide, visible_of_all (by decide), by decide, by decide⟩
      name_end := by decide
      nameGap := space.toPadding
      ending := .value " ;/".toList (by decide)
      comment := some (space.toPadding, " (g=: v) // (w)".toList)
      apart := by
        rintro c ⟨⟩ hc
        exact absurd hc space.ne_nil }
  have htext : l.text = "\toptional a;/b  ;/c/ = ;/ // (g=: v) // (w)".toList := by decide
  have hoverride : l.override = ⟨some "g=", some "v"⟩ := by decide
  have hread := Field.ofDeclaration_written l
  rw [htext, String.ofList_toList, hoverride] at hread
  exact ⟨l, htext, hread⟩

end TreeSchema
