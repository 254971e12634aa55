import TreeSchema.Proofs.Text
/-!
# What every line is read as

Lines are classified by tests that are made one after another. Here the kinds of lines are said
without an order: `LineKind.Describes` is what a line of a kind looks like, and `Text.Malformed` is
what a line looks like that has no kind. Both speak of the code of a line, which is the text before
the first `//` without the blanks at its end.

* `isCode_iff`, and `header?_eq_some_iff` for headers: the two parts of the description that take
  cutting a text, in one way only.
* `ofTrimmed?_eq_some_iff`, `ofTrimmed?_eq_none_iff`: one line.
* `classifyFrom_eq_error_iff`, `classifyFrom_eq_ok`: lines one after another. A malformed line ends
  the run, so the one that is reported is the first.
-/
namespace TreeSchema

namespace Text

/-! ## The code of a line -/

/-- A text, and what stands in it before the first `//`. A slash right before the marks would be one
of the first two. -/
inductive BeforeMarks : List Char → List Char → Prop
  | whole {t : List Char} : ¬ ['/', '/'] <:+: t → BeforeMarks t t
  | cut {before : List Char} (after : List Char) : ¬ ['/', '/'] <:+: before ++ ['/'] →
    BeforeMarks (before ++ '/' :: '/' :: after) before

/-- The code of a text: what stands before the first `//`, without the blanks at its end. -/
def IsCode (t code : List Char) : Prop := ∃ before, BeforeMarks t before ∧ code = trimEnd before

theorem not_infix_of_cutComment? {t before after : List Char}
    (h : cutComment? t = some (before, after)) : ¬ ['/', '/'] <:+: before ++ ['/'] := by
  fun_induction cutComment? t generalizing before with
  | case1 => cases h
  | case2 => cases h
  | case3 c d s hcd =>
    cases h
    decide
  | case4 c d s hcd ih =>
    obtain ⟨⟨code, comment⟩, hcut, h⟩ := Option.map_eq_some_iff.1 h
    cases h
    rw [List.cons_append, List.infix_cons_iff, not_or]
    refine ⟨fun hmarks => hcd ?_, ih hcut⟩
    -- what follows the first character is the rest of the code, or the marks
    obtain ⟨hc, hnext⟩ := List.cons_prefix_cons.1 hmarks
    have hd : (d :: s).head? = (code ++ ['/']).head? := by
      rw [eq_append_of_cutComment? hcut]
      cases code <;> rfl
    obtain ⟨rest, hrest⟩ := hnext
    rw [← hrest] at hd
    exact ⟨hc.symm, Option.some.inj hd⟩

theorem beforeMarks_iff {t before : List Char} :
    BeforeMarks t before ↔ before = beforeComment t := by
  constructor
  · rintro (hnone | ⟨after, hfirst⟩)
    · rw [beforeComment, cutComment?_eq_none_iff.2 hnone]
    · have hbefore : ¬ ['/', '/'] <:+: before :=
        fun h => hfirst (h.trans (List.prefix_append _ _).isInfix)
      have hlast : before.getLast? ≠ some '/' := by
        intro h
        obtain ⟨front, rfl⟩ := List.getLast?_eq_some_iff.1 h
        refine hfirst (List.IsSuffix.isInfix ⟨front, ?_⟩)
        rw [List.append_assoc]
        rfl
      rw [beforeComment, cutComment?_append_marks hbefore, if_neg hlast]
  · rintro rfl
    rw [beforeComment]
    cases hcut : cutComment? t with
    | none => exact .whole (cutComment?_eq_none_iff.1 hcut)
    | some x =>
      obtain ⟨before, after⟩ := x
      have h := BeforeMarks.cut after (not_infix_of_cutComment? hcut)
      rwa [← eq_append_of_cutComment? hcut] at h

/-- A trimmed text has one code, which is the one that is cut off. -/
theorem isCode_iff {t c : List Char} (ht : trim t = t) : IsCode t c ↔ c = code t := by
  have hcode : code t = trimEnd (beforeComment t) := by
    unfold code codeAndComment beforeComment
    cases cutComment? t with
    | none => exact (dropEndWhile_eq_self fun c hc => getLast?_trim (ht ▸ hc)).symm
    | some x => rfl
  simp only [IsCode, beforeMarks_iff, exists_eq_left, hcode]

theorem code_of_marks {t : List Char} (h : ['/', '/'] <+: t) : code t = [] := by
  obtain ⟨s, rfl⟩ := h
  rfl

/-! ## Headers -/

namespace IsHeader

variable {s keyword name : List Char}

theorem mem_brace (h : IsHeader s keyword name) : '\x7b' ∈ s := by
  obtain ⟨-, -, gap, space, -, -, -, rfl⟩ := h
  simp

theorem not_mem (h : IsHeader s keyword name) {c : Char} (hc : isNamePart c = false)
    (hb : isBlank c = false) (hne : c ≠ '\x7b') : c ∉ s := by
  obtain ⟨hk, hn, gap, space, -, hgap, hspace, rfl⟩ := h
  simp only [List.mem_append, List.mem_singleton, not_or]
  refine ⟨not_mem_of_isName hk hc, ?_, not_mem_of_isName hn hc, ?_, hne⟩
  · intro hm
    simp [hgap c hm] at hb
  · intro hm
    simp [hspace c hm] at hb

end IsHeader

/-- A trimmed line that is no comment, and whose code has an opening brace and no closing one but is
no header. -/
def Malformed (t : List Char) : Prop :=
  ¬ ['/', '/'] <+: t ∧ ∃ code, IsCode t code ∧ '\x7b' ∈ code ∧ '\x7d' ∉ code ∧
    ¬ ∃ keyword name, IsHeader code keyword name

end Text

open Text

/-! ## Kinds of lines -/

namespace LineKind

/-- What a trimmed line of a kind looks like. -/
def Describes (t : List Char) : LineKind → Prop
  | .blank => t = []
  | .comment => ['/', '/'] <+: t
  | .closeBlock => ∃ code, IsCode t code ∧ '\x7d' ∈ code
  | .openBlock keyword name => ∃ code, IsCode t code ∧ IsHeader code keyword.toList name.toList
  | .declaration text => text.toList = t ∧ t ≠ [] ∧ ¬ ['/', '/'] <+: t ∧
    ∃ code, IsCode t code ∧ '\x7b' ∉ code ∧ '\x7d' ∉ code

variable {t : List Char}

theorem ofTrimmed?_of_marks (h : ['/', '/'] <+: t) : ofTrimmed? t = some .comment := by
  obtain ⟨s, rfl⟩ := h
  rfl

/-- The tests that are left for a line with some code. -/
theorem ofTrimmed?_of_code (hne : t ≠ []) (hc : ¬ ['/', '/'] <+: t) :
    ofTrimmed? t =
      if '\x7d' ∈ code t then some .closeBlock
      else if '\x7b' ∈ code t then
        (header? (code t)).map fun x => .openBlock (String.ofList x.1) (String.ofList x.2)
      else some (.declaration (String.ofList t)) := by
  have hpre : ['/', '/'].isPrefixOf t = false := by
    rwa [← Bool.not_eq_true, List.isPrefixOf_iff_prefix]
  simp only [ofTrimmed?, List.isEmpty_iff, hne, hpre, List.contains_iff_mem, if_false,
    Bool.false_eq_true]

theorem ne_nil_of_code {c : Char} (h : c ∈ code t) : t ≠ [] ∧ ¬ ['/', '/'] <+: t := by
  refine ⟨?_, fun hmarks => ?_⟩
  · rintro rfl
    cases h
  · rw [code_of_marks hmarks] at h
    cases h

theorem describes_of_ofTrimmed? (ht : trim t = t) {kind : LineKind}
    (h : ofTrimmed? t = some kind) : kind.Describes t := by
  by_cases hne : t = []
  · subst hne
    cases h
    rfl
  by_cases hc : ['/', '/'] <+: t
  · rw [ofTrimmed?_of_marks hc] at h
    cases h
    exact hc
  have hcode : IsCode t (code t) := (isCode_iff ht).2 rfl
  rw [ofTrimmed?_of_code hne hc] at h
  split at h
  · rename_i hclose
    cases h
    exact ⟨_, hcode, hclose⟩
  · rename_i hclose
    split at h
    · obtain ⟨⟨keyword, name⟩, hheader, rfl⟩ := Option.map_eq_some_iff.1 h
      refine ⟨_, hcode, ?_⟩
      rw [String.toList_ofList, String.toList_ofList]
      exact header?_eq_some_iff.1 hheader
    · rename_i hopen
      cases h
      exact ⟨String.toList_ofList, hne, hc, _, hcode, hopen, hclose⟩

theorem ofTrimmed?_of_describes (ht : trim t = t) {kind : LineKind} (h : kind.Describes t) :
    ofTrimmed? t = some kind := by
  cases kind with
  | blank =>
    obtain rfl : t = [] := h
    rfl
  | comment => exact ofTrimmed?_of_marks h
  | closeBlock =>
    obtain ⟨_, hcode, hclose⟩ := h
    rw [(isCode_iff ht).1 hcode] at hclose
    obtain ⟨hne, hc⟩ := ne_nil_of_code hclose
    rw [ofTrimmed?_of_code hne hc, if_pos hclose]
  | openBlock keyword name =>
    obtain ⟨_, hcode, hheader⟩ := h
    rw [(isCode_iff ht).1 hcode] at hheader
    obtain ⟨hne, hc⟩ := ne_nil_of_code hheader.mem_brace
    rw [ofTrimmed?_of_code hne hc, if_neg (hheader.not_mem (by decide) (by decide) (by decide)),
      if_pos hheader.mem_brace, header?_eq_some_iff.2 hheader]
    simp
  | declaration text =>
    obtain ⟨rfl, hne, hc, _, hcode, hopen, hclose⟩ := h
    rw [(isCode_iff ht).1 hcode] at hopen hclose
    rw [ofTrimmed?_of_code hne hc, if_neg hclose, if_neg hopen, String.ofList_toList]

/-- A line has the kind that describes it. -/
theorem ofTrimmed?_eq_some_iff (ht : trim t = t) {kind : LineKind} :
    ofTrimmed? t = some kind ↔ kind.Describes t :=
  ⟨describes_of_ofTrimmed? ht, ofTrimmed?_of_describes ht⟩

/-- A line has no kind exactly if it is malformed. -/
theorem ofTrimmed?_eq_none_iff (ht : trim t = t) : ofTrimmed? t = none ↔ Malformed t := by
  constructor
  · intro h
    have hne : t ≠ [] := by
      rintro rfl
      cases h
    have hc : ¬ ['/', '/'] <+: t := by
      intro hc
      rw [ofTrimmed?_of_marks hc] at h
      cases h
    rw [ofTrimmed?_of_code hne hc] at h
    split at h
    · cases h
    · rename_i hclose
      split at h
      · rename_i hopen
        refine ⟨hc, _, (isCode_iff ht).2 rfl, hopen, hclose, ?_⟩
        rintro ⟨keyword, name, hheader⟩
        rw [header?_eq_some_iff.2 hheader] at h
        cases h
      · cases h
  · rintro ⟨hc, _, hcode, hopen, hclose, hheader⟩
    rw [(isCode_iff ht).1 hcode] at hopen hclose hheader
    rw [ofTrimmed?_of_code (ne_nil_of_code hopen).1 hc, if_neg hclose, if_pos hopen,
      Option.map_eq_none_iff]
    cases h : header? (code t) with
    | none => rfl
    | some x => exact absurd ⟨x.1, x.2, header?_eq_some_iff.1 h⟩ hheader

end LineKind

/-! ## Lines one after another -/

/-- The number of bytes of the blanks at the beginning of a line. -/
def Text.blankBytes (l : List Char) : Nat := (String.ofList (l.takeWhile isBlank)).utf8ByteSize

theorem Text.byteLength_eq (l : List Char) : byteLength l = (String.ofList l).utf8ByteSize := by
  induction l with
  | nil => rfl
  | cons c l ih =>
    rw [byteLength, ih, String.ofList_cons, String.utf8ByteSize_append,
      String.utf8ByteSize_singleton]

theorem Text.textColumn_eq (l : List Char) : textColumn l = blankBytes l + 1 := by
  rw [textColumn, byteLength_eq, blankBytes]

namespace Line

/-- The error of a malformed line. -/
def malformed (number : Nat) (l : List Char) : Error :=
  .block (.header (String.ofList (trim l))) number (blankBytes l + 1)

/-- What one line is read as. -/
theorem classify_cases (number : Nat) (t : List Char) :
    (Malformed (trim t) ∧ classify number t = .error (malformed number t)) ∨
      (¬ Malformed (trim t) ∧ ∃ kind : LineKind, (∀ k, kind = k ↔ k.Describes (trim t)) ∧
        classify number t = .ok ⟨kind, number, blankBytes t + 1⟩) := by
  have ht := trim_trim t
  simp only [classify, textColumn_eq]
  cases hk : LineKind.ofTrimmed? (trim t) with
  | none => exact .inl ⟨(LineKind.ofTrimmed?_eq_none_iff ht).1 hk, rfl⟩
  | some kind =>
    refine .inr ⟨fun hm => ?_, kind, fun k => ?_, rfl⟩
    · rw [(LineKind.ofTrimmed?_eq_none_iff ht).2 hm] at hk
      cases hk
    · rw [← LineKind.ofTrimmed?_eq_some_iff ht, hk, Option.some.injEq]

theorem classifyFrom_cons_of_ok {number : Nat} {t : List Char} {l : Line}
    (h : classify number t = .ok l) (ts : List (List Char)) :
    classifyFrom number (t :: ts) = (classifyFrom (number + 1) ts).map (l :: ·) := by
  rw [classifyFrom, h]
  cases classifyFrom (number + 1) ts <;> rfl

theorem classifyFrom_cons_of_malformed {number : Nat} {t : List Char} (h : Malformed (trim t))
    (ts : List (List Char)) : classifyFrom number (t :: ts) = .error (malformed number t) := by
  rcases classify_cases number t with ⟨-, hc⟩ | ⟨hm, -⟩
  · rw [classifyFrom, hc]
    rfl
  · exact absurd h hm

theorem classifyFrom_cons_eq_error_iff {number : Nat} {t : List Char} (h : ¬ Malformed (trim t))
    {ts : List (List Char)} {e : Error} :
    classifyFrom number (t :: ts) = .error e ↔ classifyFrom (number + 1) ts = .error e := by
  rcases classify_cases number t with ⟨hm, -⟩ | ⟨-, kind, -, hc⟩
  · exact absurd hm h
  · rw [classifyFrom_cons_of_ok hc]
    cases classifyFrom (number + 1) ts with
    | error f => exact Iff.rfl
    | ok rest =>
      constructor
      · intro h
        cases h
      · intro h
        cases h

/-- The first malformed line is the error. -/
theorem classifyFrom_eq_error_iff {number : Nat} {ts : List (List Char)} {e : Error} :
    classifyFrom number ts = .error e ↔
      ∃ before t after, ts = before ++ t :: after ∧ (∀ x ∈ before, ¬ Malformed (trim x)) ∧
        Malformed (trim t) ∧ e = malformed (number + before.length) t := by
  induction ts generalizing number with
  | nil => simp [classifyFrom]
  | cons t ts ih =>
    by_cases hm : Malformed (trim t)
    · rw [classifyFrom_cons_of_malformed hm]
      constructor
      · rintro ⟨⟩
        exact ⟨[], t, ts, rfl, by simp, hm, rfl⟩
      · rintro ⟨before, u, after, hts, hbefore, -, rfl⟩
        cases before with
        | nil =>
          cases hts
          rfl
        | cons x before =>
          cases hts
          exact absurd hm (hbefore t List.mem_cons_self)
    · rw [classifyFrom_cons_eq_error_iff hm, ih]
      constructor
      · rintro ⟨before, u, after, rfl, hbefore, hu, rfl⟩
        refine ⟨t :: before, u, after, rfl, List.forall_mem_cons.2 ⟨hm, hbefore⟩, hu, ?_⟩
        rw [List.length_cons, Nat.add_right_comm, Nat.add_assoc]
      · rintro ⟨before, u, after, hts, hbefore, hu, rfl⟩
        cases before with
        | nil =>
          cases hts
          exact absurd hu hm
        | cons x before =>
          cases hts
          refine ⟨before, u, after, rfl, fun x hx => hbefore x (List.mem_cons_of_mem _ hx), hu, ?_⟩
          rw [List.length_cons, Nat.add_right_comm, Nat.add_assoc]

theorem classifyFrom_eq_ok {number : Nat} {ts : List (List Char)} {ls : List Line}
    (h : classifyFrom number ts = .ok ls) :
    (∀ t ∈ ts, ¬ Malformed (trim t)) ∧ ls.length = ts.length ∧
      ∀ (i : Nat) (t : List Char) (l : Line), ts[i]? = some t → ls[i]? = some l →
        l.line = number + i ∧ l.column = blankBytes t + 1 ∧
          ∀ kind, l.kind = kind ↔ kind.Describes (trim t) := by
  induction ts generalizing number ls with
  | nil =>
    cases h
    simp
  | cons t ts ih =>
    rcases classify_cases number t with ⟨-, hc⟩ | ⟨hm, kind, hkind, hc⟩
    · rw [classifyFrom, hc] at h
      cases h
    · rw [classifyFrom_cons_of_ok hc] at h
      cases hrest : classifyFrom (number + 1) ts with
      | error e =>
        rw [hrest] at h
        cases h
      | ok rest =>
        rw [hrest] at h
        cases h
        obtain ⟨hall, hlength, hlines⟩ := ih hrest
        refine ⟨List.forall_mem_cons.2 ⟨hm, hall⟩, congrArg (· + 1) hlength, fun i u l hu hl => ?_⟩
        cases i with
        | zero =>
          cases hu
          cases hl
          exact ⟨rfl, rfl, hkind⟩
        | succ i =>
          obtain ⟨hline, hrest⟩ := hlines i u l hu hl
          exact ⟨by omega, hrest⟩

/-- **Lines are classified exactly.** Classification fails if and only if a line is malformed, with
the number and the column of the first such line. Otherwise there is one line for each line of the
text, with its number, the column where its text begins, and the one kind that describes it: a code
with the form of a header opens a block with the two names of the header, and a declaration holds
the trimmed line. -/
theorem ofText_exact (text : String) :
    ((∃ e, ofText text = .error e) ↔ ∃ t ∈ Text.lines text.toList, Malformed (trim t)) ∧
    (∀ e, ofText text = .error e ↔
      ∃ before t after, Text.lines text.toList = before ++ t :: after ∧
        (∀ x ∈ before, ¬ Malformed (trim x)) ∧ Malformed (trim t) ∧
        e = .block (.header (String.ofList (trim t))) (before.length + 1) (blankBytes t + 1)) ∧
    ∀ ls, ofText text = .ok ls → ls.length = (Text.lines text.toList).length ∧
      ∀ (i : Nat) (t : List Char) (l : Line), (Text.lines text.toList)[i]? = some t →
        ls[i]? = some l → l.line = i + 1 ∧ l.column = blankBytes t + 1 ∧
          ∀ kind, l.kind = kind ↔ kind.Describes (trim t) := by
  have herror (e : Error) := @classifyFrom_eq_error_iff 1 (Text.lines text.toList) e
  simp only [Nat.add_comm 1] at herror
  refine ⟨⟨?_, ?_⟩, herror, fun ls h => ?_⟩
  · rintro ⟨e, he⟩
    obtain ⟨before, t, after, hlines, -, ht, -⟩ := (herror e).1 he
    exact ⟨t, by rw [hlines]; simp, ht⟩
  · rintro ⟨t, hmem, ht⟩
    cases h : ofText text with
    | error e => exact ⟨e, rfl⟩
    | ok ls => exact absurd ht ((classifyFrom_eq_ok h).1 t hmem)
  · obtain ⟨-, hlength, hlines⟩ := classifyFrom_eq_ok h
    refine ⟨hlength, fun i t l ht hl => ?_⟩
    obtain ⟨hline, hrest⟩ := hlines i t l ht hl
    exact ⟨by omega, hrest⟩

/-- Blanks outside ASCII, a carriage return inside a line and braces in comments, and a second line
that has a name too many. -/
theorem ofText_exact_indented :
    let text := "\u3000message\u2003A\t\x7b // \x7d \x7b\r\n  \rX x; // \x7b\n\x7d"
    let broken := "X x; // \x7b\n\u3000message A B \x7b"
    (∃ ls l, ofText text = .ok ls ∧ ls.length = 3 ∧ ls[0]? = some l ∧ l.line = 1 ∧ l.column = 4 ∧
        l.kind = .openBlock "message" "A") ∧
      ofText broken = .error (.block (.header "message A B \x7b") 2 4) ∧
      ∃ t ∈ Text.lines broken.toList, Malformed (trim t) := by
  intro text broken
  let first : Line := ⟨.openBlock "message" "A", 1, 4⟩
  let ls : List Line := [first, ⟨.declaration "X x; // \x7b", 2, 4⟩, ⟨.closeBlock, 3, 1⟩]
  have hok : ofText text = .ok ls := by subst text ls; rfl
  have hbroken : ofText broken = .error (.block (.header "message A B \x7b") 2 4) := by
    subst broken; rfl
  have hline : (Text.lines text.toList)[0]? =
      some "\u3000message\u2003A\t\x7b // \x7d \x7b".toList := by
    subst text; decide +kernel
  have htrim : trim "\u3000message\u2003A\t\x7b // \x7d \x7b".toList =
      "message\u2003A\t\x7b ".toList ++ '/' :: '/' :: " \x7d \x7b".toList := by decide +kernel
  have hcode : IsCode (trim "\u3000message\u2003A\t\x7b // \x7d \x7b".toList)
      "message\u2003A\t\x7b".toList := by
    rw [htrim]
    exact ⟨_, .cut _ (cutComment?_eq_none_iff.1 (by decide)), by decide⟩
  have hheader : IsHeader "message\u2003A\t\x7b".toList "message".toList "A".toList :=
    ⟨by decide, by decide, ['\u2003'], ['\t'], by decide, List.forall_mem_singleton.2 rfl,
      List.forall_mem_singleton.2 rfl, by decide⟩
  obtain ⟨-, hlines⟩ := (ofText_exact text).2.2 ls hok
  obtain ⟨hnumber, -, hkind⟩ := hlines 0 _ first hline rfl
  exact ⟨⟨ls, first, hok, rfl, rfl, hnumber, rfl, (hkind _).2 ⟨_, hcode, hheader⟩⟩, hbroken,
    (ofText_exact broken).1.1 ⟨_, hbroken⟩⟩

end Line

end TreeSchema
