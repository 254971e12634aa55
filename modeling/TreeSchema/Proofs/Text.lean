import TreeSchema.Line
/-!
# Lines, trimming and headers

What the cutting of texts does to the texts that a schema is written as:

* a line that ends with a line feed is one line (`lines_append_newline`), texts that end so have
  their lines one after another (`lines_append`), and no line has a line feed in it
  (`newline_not_mem_of_mem_lines`);
* trimming leaves a text whose ends are not blank (`trim_eq_self`, `head?_trim`, `getLast?_trim`);
* the code of a line holds the same braces as the text before its comment (`mem_code_iff`), and a
  text without slashes around another does not change where a comment starts
  (`cutComment?_append_left`, `cutComment?_append_right`);
* a header is two names, with blanks between them and a brace at the end, and nothing else
  (`header?_eq_some_iff`).
-/
namespace TreeSchema.Text

/-! ## Lines -/

theorem lines_append_newline {l : List Char} (rest : List Char) (hn : '\n' ∉ l)
    (hr : l.getLast? ≠ some '\r') : lines (l ++ '\n' :: rest) = l :: lines rest := by
  induction l with
  | nil => simp [lines]
  | cons c l ih =>
    simp only [List.mem_cons, not_or] at hn
    have hc : c ≠ '\n' := fun h => hn.1 h.symm
    -- a carriage return counts only right before the line feed, so only as the last character
    have hcr : ¬ (c = '\r' ∧ (l ++ '\n' :: rest).head? = some '\n') := by
      rintro ⟨rfl, hh⟩
      cases l with
      | nil => exact hr rfl
      | cons d l =>
        obtain rfl : d = '\n' := by simpa using hh
        exact hn.2 List.mem_cons_self
    have hl : l.getLast? ≠ some '\r' := by
      intro h
      exact hr (by rw [List.getLast?_cons, h]; rfl)
    rw [List.cons_append, lines, if_neg hc, if_neg hcr, ih hn.2 hl]

theorem lines_ne_nil {s : List Char} (h : s ≠ []) : lines s ≠ [] := by
  induction s with
  | nil => exact absurd rfl h
  | cons c s ih =>
    rw [lines]
    split
    · exact List.cons_ne_nil _ _
    · split
      · rename_i hs
        refine ih fun hn => ?_
        rw [hn] at hs
        cases hs.2
      · split
        · exact List.cons_ne_nil _ _
        · exact List.cons_ne_nil _ _

/-- A text that ends with a line feed, or is empty, has its lines apart from those of what
follows. -/
theorem lines_append {s : List Char} (h : ∀ c ∈ s.getLast?, c = '\n') (t : List Char) :
    lines (s ++ t) = lines s ++ lines t := by
  induction s with
  | nil => rfl
  | cons c s ih =>
    cases s with
    | nil =>
      obtain rfl : c = '\n' := h c rfl
      simp [lines]
    | cons d s =>
      have ih := ih fun x hx => h x (by rwa [List.getLast?_cons_cons])
      have hhead : (d :: s ++ t).head? = (d :: s).head? := rfl
      rw [List.cons_append, lines, lines, hhead, ih]
      split
      · rfl
      · split
        · rfl
        · cases hs : lines (d :: s) with
          | nil => exact absurd hs (lines_ne_nil (List.cons_ne_nil d s))
          | cons l ls => rfl

theorem newline_not_mem_of_mem_lines {s l : List Char} (h : l ∈ lines s) : '\n' ∉ l := by
  induction s generalizing l with
  | nil => simp [lines] at h
  | cons c s ih =>
    rw [lines] at h
    split at h
    · rcases List.mem_cons.1 h with rfl | h
      · simp
      · exact ih h
    · rename_i hc
      split at h
      · exact ih h
      · have hc : '\n' ≠ c := fun h => hc h.symm
        cases hs : lines s with
        | nil =>
          rw [hs] at h
          obtain rfl := List.mem_singleton.1 h
          simp [hc]
        | cons k ks =>
          rw [hs] at h
          rcases List.mem_cons.1 h with rfl | h
          · simp [hc, ih (hs ▸ List.mem_cons_self)]
          · exact ih (hs ▸ List.mem_cons_of_mem _ h)

/-! ## Trimming -/

theorem head?_dropWhile {p : Char → Bool} {s : List Char} {c : Char}
    (h : (s.dropWhile p).head? = some c) : p c = false := by
  have := List.head?_dropWhile_not p s
  rw [h] at this
  simpa using this

theorem dropWhile_eq_self {p : Char → Bool} {s : List Char} (h : ∀ c ∈ s.head?, p c = false) :
    s.dropWhile p = s := by
  cases s with
  | nil => rfl
  | cons c s => rw [List.dropWhile_cons_of_neg (by simp [h c (by simp)])]

theorem dropEndWhile_eq_self {p : Char → Bool} {s : List Char}
    (h : ∀ c ∈ s.getLast?, p c = false) : dropEndWhile p s = s := by
  unfold dropEndWhile
  rw [dropWhile_eq_self, List.reverse_reverse]
  intro c hc
  exact h c (by simpa using hc)

theorem dropEndWhile_isPrefix (p : Char → Bool) (s : List Char) : dropEndWhile p s <+: s := by
  have h := List.dropWhile_suffix p (l := s.reverse)
  rw [← List.reverse_prefix, List.reverse_reverse] at h
  exact h

theorem getLast?_dropEndWhile {p : Char → Bool} {s : List Char} {c : Char}
    (h : (dropEndWhile p s).getLast? = some c) : p c = false := by
  unfold dropEndWhile at h
  rw [List.getLast?_reverse] at h
  exact head?_dropWhile h

theorem getLast?_trim {s : List Char} {c : Char} (h : (trim s).getLast? = some c) :
    isBlank c = false := getLast?_dropEndWhile h

theorem head?_trim {s : List Char} {c : Char} (h : (trim s).head? = some c) :
    isBlank c = false := by
  obtain ⟨t, ht⟩ := dropEndWhile_isPrefix isBlank (trimStart s)
  apply @head?_dropWhile isBlank s c
  change (trimStart s).head? = some c
  rw [← ht, List.head?_append]
  change ((trim s).head?.or t.head?) = some c
  rw [h]
  rfl

theorem trim_eq_self {s : List Char} (hh : ∀ c ∈ s.head?, isBlank c = false)
    (hl : ∀ c ∈ s.getLast?, isBlank c = false) : trim s = s := by
  unfold trim trimStart trimEnd
  rw [dropWhile_eq_self hh, dropEndWhile_eq_self hl]

theorem trim_trim (s : List Char) : trim (trim s) = trim s :=
  trim_eq_self (fun _ h => head?_trim h) (fun _ h => getLast?_trim h)

theorem mem_of_mem_trim {s : List Char} {c : Char} (h : c ∈ trim s) : c ∈ s :=
  (List.dropWhile_suffix _).subset ((dropEndWhile_isPrefix _ _).subset h)

theorem trim_append_blanks {b s : List Char} (h : ∀ c ∈ b, isBlank c = true) :
    trim (b ++ s) = trim s := by
  unfold trim trimStart
  rw [List.dropWhile_append_of_pos h]

theorem mem_dropEndWhile {p : Char → Bool} {s : List Char} {c : Char} (h : c ∈ s)
    (hc : p c = false) : c ∈ dropEndWhile p s := by
  unfold dropEndWhile
  rw [List.mem_reverse]
  have hr : c ∈ s.reverse.takeWhile p ++ s.reverse.dropWhile p := by
    rw [List.takeWhile_append_dropWhile]
    exact List.mem_reverse.2 h
  rcases List.mem_append.1 hr with hr | hr
  · have hp := List.all_eq_true.1 (List.all_takeWhile (p := p) (l := s.reverse)) c hr
    simp [hc] at hp
  · exact hr

theorem dropEndWhile_append {p : Char → Bool} {a : List Char} (ha : ∀ c ∈ a.getLast?, p c = false)
    (s : List Char) : dropEndWhile p (a ++ s) = a ++ dropEndWhile p s := by
  have hr : a.reverse.dropWhile p = a.reverse :=
    dropWhile_eq_self fun c hc => ha c (by simpa using hc)
  unfold dropEndWhile
  rw [List.reverse_append, List.dropWhile_append, hr]
  split
  · rename_i hs
    rw [List.isEmpty_iff.1 hs, List.reverse_reverse, List.reverse_nil, List.append_nil]
  · rw [List.reverse_append, List.reverse_reverse]

/-! ## Comments -/

/-- The text before the first `//`, or all of it. -/
def beforeComment (t : List Char) : List Char :=
  match cutComment? t with
  | some (before, _) => before
  | none => t

theorem mem_code_iff {t : List Char} {c : Char} (hc : isBlank c = false) :
    c ∈ code t ↔ c ∈ beforeComment t := by
  unfold code codeAndComment beforeComment
  cases cutComment? t with
  | none => rfl
  | some x =>
    constructor
    · exact fun h => (dropEndWhile_isPrefix _ _).subset h
    · exact fun h => mem_dropEndWhile h hc

theorem cutComment?_eq_none {t : List Char} (h : '/' ∉ t) : cutComment? t = none := by
  fun_induction cutComment? t with
  | case1 => rfl
  | case2 => rfl
  | case3 c d s hcd => simp [hcd.1] at h
  | case4 c d s hcd ih =>
    simp only [List.mem_cons, not_or] at h
    rw [ih (by simp [h.2.1, h.2.2])]
    rfl

theorem cutComment?_eq_none_iff {t : List Char} : cutComment? t = none ↔ ¬ ['/', '/'] <:+: t := by
  fun_induction cutComment? t with
  | case1 => simp
  | case2 c => simp [List.infix_cons_iff]
  | case3 c d s hcd => simp [List.infix_cons_iff, hcd]
  | case4 c d s hcd ih =>
    have hhead : ¬ ['/', '/'] <+: c :: d :: s := by
      rw [List.cons_prefix_cons, List.cons_prefix_cons]
      exact fun hp => hcd ⟨hp.1.symm, hp.2.1.symm⟩
    rw [Option.map_eq_none_iff, ih, List.infix_cons_iff (a := c), or_iff_right hhead]

theorem eq_append_of_cutComment? {t before after : List Char}
    (h : cutComment? t = some (before, after)) : t = before ++ '/' :: '/' :: after := by
  fun_induction cutComment? t generalizing before with
  | case1 => cases h
  | case2 => cases h
  | case3 c d s hcd =>
    cases h
    rw [hcd.1, hcd.2, List.nil_append]
  | case4 c d s hcd ih =>
    obtain ⟨⟨code, comment⟩, hcut, h⟩ := Option.map_eq_some_iff.1 h
    cases h
    rw [ih hcut, List.cons_append]

/-- A comment does not start inside or right after a text without slashes. -/
theorem cutComment?_append_left {a : List Char} (h : '/' ∉ a) (t : List Char) :
    cutComment? (a ++ t) =
      (cutComment? t).map fun (code, comment) => (a ++ code, comment) := by
  induction a with
  | nil => simp
  | cons c a ih =>
    have hc : c ≠ '/' := fun he => h (he ▸ List.mem_cons_self)
    have hcons : cutComment? (c :: (a ++ t)) =
        (cutComment? (a ++ t)).map fun (code, comment) => (c :: code, comment) := by
      cases a ++ t with
      | nil => rfl
      | cons d s => rw [cutComment?, if_neg fun hcd => hc hcd.1]
    rw [List.cons_append, hcons, ih fun ha => h (List.mem_cons_of_mem c ha), Option.map_map]
    rfl

/-- A text without slashes belongs to the comment that starts before it. -/
theorem cutComment?_append_right {b : List Char} (h : '/' ∉ b) (t : List Char) :
    cutComment? (t ++ b) =
      (cutComment? t).map fun (code, comment) => (code, comment ++ b) := by
  fun_induction cutComment? t with
  | case1 => exact cutComment?_eq_none h
  | case2 c =>
    refine cutComment?_eq_none_iff.2 ?_
    rw [List.singleton_append, List.infix_cons_iff, List.cons_prefix_cons]
    rintro (⟨-, hb⟩ | hb)
    · exact h (hb.subset List.mem_cons_self)
    · exact h (hb.subset List.mem_cons_self)
  | case3 c d s hcd => rw [List.cons_append, List.cons_append, cutComment?, if_pos hcd]; rfl
  | case4 c d s hcd ih =>
    rw [List.cons_append, List.cons_append, cutComment?, if_neg hcd, ← List.cons_append, ih,
      Option.map_map, Option.map_map]
    rfl

/-- Marks after a text without a comment start one. A slash right before them belongs to the marks,
and one of theirs to the comment. -/
theorem cutComment?_append_marks {a : List Char} (h : ¬ ['/', '/'] <:+: a) (t : List Char) :
    cutComment? (a ++ '/' :: '/' :: t) =
      some (if a.getLast? = some '/' then (a.dropLast, '/' :: t) else (a, t)) := by
  fun_induction cutComment? a with
  | case1 => rfl
  | case2 c =>
    by_cases hc : c = '/'
    · simp [hc, cutComment?]
    · simp [hc, cutComment?]
  | case3 c d s hcd =>
    obtain ⟨rfl, rfl⟩ := hcd
    exact absurd (List.prefix_append ['/', '/'] s).isInfix h
  | case4 c d s hcd ih =>
    have hs : ¬ ['/', '/'] <:+: d :: s := fun hs => h (hs.trans (List.suffix_cons c _).isInfix)
    rw [List.cons_append, List.cons_append, cutComment?, if_neg hcd, ← List.cons_append, ih hs,
      List.getLast?_cons_cons, List.dropLast_cons_cons]
    split
    · rfl
    · rfl

/-! ## Names and headers -/

/-- `[A-Za-z_][A-Za-z0-9_]*` -/
def isName : List Char → Bool
  | [] => false
  | c :: s => isNameStart c && s.all isNamePart

theorem isNamePart_of_isNameStart {c : Char} (h : isNameStart c = true) : isNamePart c = true := by
  unfold isNameStart at h
  unfold isNamePart Char.isAlphanum
  simp only [Bool.or_eq_true] at h ⊢
  exact h.imp_left Or.inl

theorem isNamePart_of_mem {s : List Char} (h : isName s = true) {c : Char} (hc : c ∈ s) :
    isNamePart c = true := by
  cases s with
  | nil => simp at hc
  | cons d s =>
    simp only [isName, Bool.and_eq_true, List.all_eq_true] at h
    rcases List.mem_cons.1 hc with rfl | hc
    · exact isNamePart_of_isNameStart h.1
    · exact h.2 c hc

/-- The characters of names are among the letters, the digits and the underscore of ASCII. -/
theorem isName_append {a b : List Char} (ha : isName a = true)
    (hb : ∀ c ∈ b, isNamePart c = true) : isName (a ++ b) = true := by
  cases a with
  | nil => cases ha
  | cons c a =>
    simp only [isName, Bool.and_eq_true, List.all_eq_true] at ha
    simp only [List.cons_append, isName, Bool.and_eq_true, List.all_eq_true, List.mem_append]
    refine ⟨ha.1, ?_⟩
    rintro d (hd | hd)
    · exact ha.2 d hd
    · exact hb d hd

theorem toNat_of_isNamePart {c : Char} (h : isNamePart c = true) :
    48 ≤ c.toNat ∧ c.toNat ≤ 57 ∨ 65 ≤ c.toNat ∧ c.toNat ≤ 90 ∨ c.toNat = 95 ∨
      97 ≤ c.toNat ∧ c.toNat ≤ 122 := by
  have hc : isNamePart c = (decide (65 ≤ c.val ∧ c.val ≤ 90) ||
      (decide (97 ≤ c.val) && decide (c.val ≤ 122)) ||
      (decide (48 ≤ c.val) && decide (c.val ≤ 57)) || c == '_') := rfl
  rw [hc] at h
  simp only [Bool.or_eq_true, Bool.and_eq_true, decide_eq_true_eq, beq_iff_eq,
    UInt32.le_iff_toNat_le] at h
  rcases h with ((h | h) | h) | rfl
  · exact Or.inr (Or.inl h)
  · exact Or.inr (Or.inr (Or.inr h))
  · exact Or.inl h
  · exact Or.inr (Or.inr (Or.inl rfl))

theorem isBlank_of_isNamePart {c : Char} (h : isNamePart c = true) : isBlank c = false := by
  have := toNat_of_isNamePart h
  unfold isBlank
  simp only [Bool.or_eq_false_iff, Bool.and_eq_false_iff, decide_eq_false_iff_not,
    beq_eq_false_iff_ne]
  omega

theorem not_mem_of_isName {s : List Char} (h : isName s = true) {c : Char}
    (hc : isNamePart c = false) : c ∉ s := by
  intro hm
  simp [isNamePart_of_mem h hm] at hc

theorem isName_of_name? {s name rest : List Char} (h : name? s = some (name, rest)) :
    isName name = true := by
  cases s with
  | nil => simp [name?] at h
  | cons c s =>
    simp only [name?] at h
    split at h
    · rename_i hc
      cases h
      simp only [isName, hc, Bool.true_and, List.all_takeWhile]
    · cases h

theorem name?_eq_some {name rest : List Char} (hn : isName name = true)
    (hr : ∀ c ∈ rest.head?, isNamePart c = false) : name? (name ++ rest) = some (name, rest) := by
  cases name with
  | nil => simp [isName] at hn
  | cons c s =>
    simp only [isName, Bool.and_eq_true, List.all_eq_true] at hn
    have ht : rest.takeWhile isNamePart = [] := by
      cases rest with
      | nil => rfl
      | cons d rest => rw [List.takeWhile_cons_of_neg (by simp [hr d (by simp)])]
    simp only [List.cons_append, name?, hn.1, ite_true, List.takeWhile_append_of_pos hn.2,
      List.dropWhile_append_of_pos hn.2, ht, dropWhile_eq_self hr, List.append_nil]

theorem eq_append_of_name? {s name rest : List Char} (h : name? s = some (name, rest)) :
    s = name ++ rest := by
  cases s with
  | nil => cases h
  | cons c s =>
    simp only [name?] at h
    split at h
    · cases h
      rw [List.cons_append, List.takeWhile_append_dropWhile]
    · cases h

theorem isNamePart_of_isBlank {c : Char} (h : isBlank c = true) : isNamePart c = false := by
  cases hc : isNamePart c with
  | false => rfl
  | true => rw [isBlank_of_isNamePart hc] at h; cases h

/-- Two names with blanks between them, perhaps further blanks, and a brace at the end. -/
def IsHeader (s keyword name : List Char) : Prop :=
  isName keyword = true ∧ isName name = true ∧ ∃ gap space, gap ≠ [] ∧
    (∀ c ∈ gap, isBlank c = true) ∧ (∀ c ∈ space, isBlank c = true) ∧
    s = keyword ++ (gap ++ (name ++ (space ++ ['\x7b'])))

theorem head?_not_isBlank_of_isName {name : List Char} (h : isName name = true) (rest : List Char) :
    ∀ c ∈ (name ++ rest).head?, isBlank c = false := by
  cases name with
  | nil => cases h
  | cons d s =>
    rintro c ⟨⟩
    exact isBlank_of_isNamePart (isNamePart_of_mem h List.mem_cons_self)

theorem trimStart_append {b s : List Char} (hb : ∀ c ∈ b, isBlank c = true)
    (hs : ∀ c ∈ s.head?, isBlank c = false) : trimStart (b ++ s) = s := by
  rw [trimStart, List.dropWhile_append_of_pos hb, dropWhile_eq_self hs]

theorem eq_true_of_guard {b : Bool} (h : (guard (b = true) : Option Unit) = some ()) :
    b = true := by
  cases b with
  | true => rfl
  | false => cases h

theorem isHeader_of_header? {s keyword name : List Char} (h : header? s = some (keyword, name)) :
    IsHeader s keyword name := by
  obtain ⟨⟨k, r⟩, hk, h⟩ := Option.bind_eq_some_iff.1 h
  obtain ⟨⟨⟩, hblank, h⟩ := Option.bind_eq_some_iff.1 h
  obtain ⟨⟨n, r'⟩, hn, h⟩ := Option.bind_eq_some_iff.1 h
  obtain ⟨⟨⟩, hend, h⟩ := Option.bind_eq_some_iff.1 h
  cases h
  have hbrace : trimStart r' = ['\x7b'] := eq_of_beq (eq_true_of_guard hend)
  have hgap : r.takeWhile isBlank ≠ [] := by
    have hblank := eq_true_of_guard hblank
    cases r with
    | nil => cases hblank
    | cons c r =>
      have hc : isBlank c = true := hblank
      rw [List.takeWhile_cons_of_pos hc]
      exact List.cons_ne_nil _ _
  have hr : r = r.takeWhile isBlank ++ trimStart r := List.takeWhile_append_dropWhile.symm
  have hr' : r' = r'.takeWhile isBlank ++ trimStart r' := List.takeWhile_append_dropWhile.symm
  refine ⟨isName_of_name? hk, isName_of_name? hn, r.takeWhile isBlank, r'.takeWhile isBlank, hgap,
    List.all_eq_true.1 List.all_takeWhile, List.all_eq_true.1 List.all_takeWhile, ?_⟩
  rw [hbrace] at hr'
  rw [← hr', ← eq_append_of_name? hn, ← hr, ← eq_append_of_name? hk]

theorem header?_of_isHeader {s keyword name : List Char} (h : IsHeader s keyword name) :
    header? s = some (keyword, name) := by
  obtain ⟨hk, hn, gap, space, hgap, hblanks, hspace, rfl⟩ := h
  obtain ⟨b, gap, rfl⟩ := List.exists_cons_of_ne_nil hgap
  have hb : isBlank b = true := hblanks b List.mem_cons_self
  have hend : ∀ c ∈ (space ++ ['\x7b']).head?, isNamePart c = false := by
    cases space with
    | nil =>
      rintro c ⟨⟩
      rfl
    | cons c space =>
      rintro c ⟨⟩
      exact isNamePart_of_isBlank (hspace c List.mem_cons_self)
  refine Option.bind_eq_some_iff.2 ⟨_, name?_eq_some hk ?_, ?_⟩
  · rintro c ⟨⟩
    exact isNamePart_of_isBlank hb
  refine Option.bind_eq_some_iff.2 ⟨(), if_pos hb, ?_⟩
  refine Option.bind_eq_some_iff.2 ⟨(name, space ++ ['\x7b']), ?_, ?_⟩
  · rw [trimStart_append hblanks (head?_not_isBlank_of_isName hn _), name?_eq_some hn hend]
  · have hbrace : trimStart (space ++ ['\x7b']) = ['\x7b'] :=
      trimStart_append hspace (by rintro c ⟨⟩; rfl)
    exact Option.bind_eq_some_iff.2 ⟨(), if_pos (beq_iff_eq.2 hbrace), rfl⟩

/-- A header is told by its form, and its names can be read off in one way only. -/
theorem header?_eq_some_iff {s keyword name : List Char} :
    header? s = some (keyword, name) ↔ IsHeader s keyword name :=
  ⟨isHeader_of_header?, header?_of_isHeader⟩

/-- The header of a block, as it is printed. -/
def headerText (keyword name : List Char) : List Char := keyword ++ ' ' :: (name ++ [' ', '\x7b'])

theorem isHeader_headerText {keyword name : List Char} (hk : isName keyword = true)
    (hn : isName name = true) : IsHeader (headerText keyword name) keyword name :=
  have hspace : ∀ c ∈ [' '], isBlank c = true := List.forall_mem_singleton.2 rfl
  ⟨hk, hn, [' '], [' '], by simp, hspace, hspace, rfl⟩

end TreeSchema.Text
