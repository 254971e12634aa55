import TreeSchema.Proofs.Classification
import TreeSchema.Proofs.Reading
/-!
# Printed lines

A line that counts is printed from its kind: two names and a brace, a brace, or a declaration.
`LineKind.Printable` says of which kinds there are lines at all, and both ways are proved:

* `ofTrimmed?_text`, `classifyFrom_layOut`: lines that are printed, each indented as one likes, are
  read as the kinds that they were printed from;
* `printable_of_ofTrimmed?`, `printable_of_classifyFrom`: every line of a text that counts is of a
  printable kind.
-/
namespace TreeSchema

open Text

/-! ## Printed lines -/

/-- A text that is read as a declaration and nothing else: one line, without blanks around it, that
is no comment and has no brace before its comment. -/
structure Text.IsDeclaration (t : List Char) : Prop where
  nonempty : t ≠ []
  trimmed : trim t = t
  single : '\n' ∉ t
  code : ¬ ['/', '/'] <+: t
  unopened : '\x7b' ∉ beforeComment t
  unclosed : '\x7d' ∉ beforeComment t

namespace LineKind

/-- The text of a line, without blanks around it. -/
def text : LineKind → List Char
  | .openBlock keyword name => headerText keyword.toList name.toList
  | .closeBlock => ['\x7d']
  | .declaration text => text.toList
  | .comment => ['/', '/']
  | .blank => []

/-- The line counts, and its parts are names or a declaration. -/
def Printable : LineKind → Prop
  | .openBlock keyword name => isName keyword.toList = true ∧ isName name.toList = true
  | .closeBlock => True
  | .declaration text => IsDeclaration text.toList
  | .comment | .blank => False

theorem not_mem_headerText {keyword name : List Char} (hk : isName keyword = true)
    (hn : isName name = true) {c : Char} (hc : isNamePart c = false) (hb : c ≠ ' ')
    (ho : c ≠ '\x7b') : c ∉ headerText keyword name := by
  simp only [headerText, List.mem_append, List.mem_cons, List.not_mem_nil, or_false]
  rintro (h | h | h | h | h)
  · exact not_mem_of_isName hk hc h
  · exact hb h
  · exact not_mem_of_isName hn hc h
  · exact hb h
  · exact ho h

theorem trim_headerText {keyword name : List Char} (hk : isName keyword = true) :
    trim (headerText keyword name) = headerText keyword name := by
  refine trim_eq_self (fun c hc => ?_) (fun c hc => ?_)
  · cases keyword with
    | nil => simp [isName] at hk
    | cons d s =>
      obtain rfl : d = c := by simpa [headerText] using hc
      exact isBlank_of_isNamePart (isNamePart_of_mem hk List.mem_cons_self)
  · have hl : headerText keyword name = (keyword ++ ' ' :: (name ++ [' '])) ++ ['\x7b'] := by
      simp [headerText]
    rw [hl, List.getLast?_concat] at hc
    cases hc
    decide

theorem trim_text {k : LineKind} (h : k.Printable) : trim k.text = k.text := by
  cases k with
  | openBlock keyword name => exact trim_headerText h.1
  | closeBlock => decide
  | declaration t => exact h.trimmed
  | comment => exact h.elim
  | blank => exact h.elim

theorem newline_not_mem_text {k : LineKind} (h : k.Printable) : '\n' ∉ k.text := by
  cases k with
  | openBlock keyword name =>
    exact not_mem_headerText h.1 h.2 (by decide) (by decide) (by decide)
  | closeBlock => decide
  | declaration t => exact h.single
  | comment => exact h.elim
  | blank => exact h.elim

theorem ofTrimmed?_header {keyword name : List Char} (hk : isName keyword = true)
    (hn : isName name = true) :
    ofTrimmed? (headerText keyword name) =
      some (.openBlock (String.ofList keyword) (String.ofList name)) := by
  have ht := @trim_headerText keyword name hk
  have hs : '/' ∉ headerText keyword name :=
    not_mem_headerText hk hn (by decide) (by decide) (by decide)
  have hcode : headerText keyword name = code (headerText keyword name) := by
    simp only [code, codeAndComment, cutComment?_eq_none hs]
  refine ofTrimmed?_of_describes ht ⟨_, (isCode_iff ht).2 hcode, ?_⟩
  rw [String.toList_ofList, String.toList_ofList]
  exact isHeader_headerText hk hn

theorem ofTrimmed?_declaration {t : List Char} (h : IsDeclaration t) :
    ofTrimmed? t = some (.declaration (String.ofList t)) := by
  refine ofTrimmed?_of_describes h.trimmed
    ⟨String.toList_ofList, h.nonempty, h.code, _, (isCode_iff h.trimmed).2 rfl, ?_, ?_⟩
  · rw [mem_code_iff (by decide)]
    exact h.unopened
  · rw [mem_code_iff (by decide)]
    exact h.unclosed

/-- A printed line is read as what it was printed from. -/
theorem ofTrimmed?_text {k : LineKind} (h : k.Printable) : ofTrimmed? k.text = some k := by
  cases k with
  | openBlock keyword name =>
    simpa [text] using ofTrimmed?_header h.1 h.2
  | closeBlock => decide
  | declaration t => simpa [text] using ofTrimmed?_declaration h
  | comment => exact h.elim
  | blank => exact h.elim

/-- A line that is read is printable, unless it does not count. -/
theorem printable_of_ofTrimmed? {t : List Char} {k : LineKind} (ht : trim t = t) (hn : '\n' ∉ t)
    (h : ofTrimmed? t = some k) : k.Printable ∨ k = .blank ∨ k = .comment := by
  have h := describes_of_ofTrimmed? ht h
  cases k with
  | blank => exact .inr (.inl rfl)
  | comment => exact .inr (.inr rfl)
  | closeBlock => exact .inl trivial
  | openBlock keyword name =>
    obtain ⟨_, -, hkeyword, hname, -⟩ := h
    exact .inl ⟨hkeyword, hname⟩
  | declaration text =>
    obtain ⟨rfl, hne, hc, _, hcode, hopen, hclose⟩ := h
    rw [(isCode_iff ht).1 hcode, mem_code_iff (by decide)] at hopen hclose
    exact .inl ⟨hne, ht, hn, hc, hopen, hclose⟩

end LineKind

/-! ## Printed texts -/

/-- Lines one below the other, the line with index `i` indented by `width i` spaces. -/
def layOut (width : Nat → Nat) : List (List Char) → List Char
  | [] => []
  | l :: ls => List.replicate (width 0) ' ' ++ l ++ '\n' :: layOut (fun i => width (i + 1)) ls

namespace Line

theorem getLast?_ne_return {b t : List Char} (ht : trim t = t) (hb : ∀ c ∈ b, c = ' ') :
    (b ++ t).getLast? ≠ some '\r' := by
  intro h
  rw [List.getLast?_append] at h
  cases hl : t.getLast? with
  | some c =>
    obtain rfl : c = '\r' := by simpa [hl] using h
    rw [← ht] at hl
    exact absurd (getLast?_trim hl) (by decide)
  | none =>
    have hr : '\r' ∈ b := List.mem_of_getLast? (by simpa [hl] using h)
    exact absurd (hb _ hr) (by decide)

theorem classify_printed (number width : Nat) {k : LineKind} (h : k.Printable) :
    ∃ l, classify number (List.replicate width ' ' ++ k.text) = .ok l ∧ l.kind = k := by
  have ht : trim (List.replicate width ' ' ++ k.text) = k.text := by
    rw [trim_append_blanks, k.trim_text h]
    intro c hc
    rw [List.eq_of_mem_replicate hc]
    decide
  simp only [classify, ht, LineKind.ofTrimmed?_text h]
  exact ⟨_, rfl, rfl⟩

/-- A printed text is classified as the kinds of lines that it was printed from. -/
theorem classifyFrom_layOut (number : Nat) (width : Nat → Nat) {kinds : List LineKind}
    (h : ∀ k ∈ kinds, k.Printable) :
    ∃ ls, classifyFrom number (lines (layOut width (kinds.map LineKind.text))) = .ok ls ∧
      ls.map Line.kind = kinds := by
  induction kinds generalizing number width with
  | nil => exact ⟨[], rfl, rfl⟩
  | cons k kinds ih =>
    have hk := h k List.mem_cons_self
    obtain ⟨l, hl, hlk⟩ := classify_printed number (width 0) hk
    obtain ⟨ls, hls, hlsk⟩ := ih (number + 1) (fun i => width (i + 1))
      fun j hj => h j (List.mem_cons_of_mem _ hj)
    have hb : ∀ c ∈ List.replicate (width 0) ' ', c = ' ' := fun _ => List.eq_of_mem_replicate
    have hn : '\n' ∉ List.replicate (width 0) ' ' ++ k.text := by
      simp only [List.mem_append, not_or]
      exact ⟨fun hc => absurd (hb _ hc) (by decide), k.newline_not_mem_text hk⟩
    refine ⟨l :: ls, ?_, by simp [hlk, hlsk]⟩
    rw [List.map_cons, layOut, lines_append_newline _ hn (getLast?_ne_return (k.trim_text hk) hb)]
    simp only [classifyFrom, hl, hls]
    rfl

theorem printable_of_classify {number : Nat} {t : List Char} {l : Line} (hn : '\n' ∉ t)
    (h : classify number t = .ok l) : l.counts = true → l.kind.Printable := by
  simp only [classify] at h
  split at h
  · rename_i kind hk
    cases h
    intro hc
    have hn' : '\n' ∉ trim t := fun hm => hn (mem_of_mem_trim hm)
    rcases LineKind.printable_of_ofTrimmed? (trim_trim t) hn' hk with hp | rfl | rfl
    · exact hp
    · cases hc
    · cases hc
  · cases h

/-- The lines of a text that count are printable. -/
theorem printable_of_classifyFrom {number : Nat} {ts : List (List Char)} {ls : List Line}
    (hn : ∀ t ∈ ts, '\n' ∉ t) (h : classifyFrom number ts = .ok ls) :
    ∀ l ∈ ls.filter counts, l.kind.Printable := by
  induction ts generalizing number ls with
  | nil =>
    cases h
    simp
  | cons t ts ih =>
    simp only [classifyFrom] at h
    cases hl : classify number t with
    | error e =>
      rw [hl] at h
      cases h
    | ok m =>
      cases hms : classifyFrom (number + 1) ts with
      | error e =>
        rw [hl, hms] at h
        cases h
      | ok ms =>
        rw [hl, hms] at h
        cases h
        intro l hm
        obtain ⟨hm, hc⟩ := List.mem_filter.1 hm
        rcases List.mem_cons.1 hm with rfl | hm
        · exact printable_of_classify (hn t List.mem_cons_self) hl hc
        · exact ih (fun x hx => hn x (List.mem_cons_of_mem _ hx)) hms l (List.mem_filter.2 ⟨hm, hc⟩)

end Line

end TreeSchema
