import TreeSchema.Encoder.Build
import TreeSchema.Proofs.JsonGrammar
/-!
# Literals delimit themselves

A literal is read back whatever stands behind it (`string_quote`). For code with literals in it that
means more than a round trip:

* what `quote` writes is a string of the grammar (`isString_quote`), and no text has two strings of
  the grammar at its front (`IsString.append_inj`). So the end of a literal is a fact about the text
  and not about one reader;
* a string has no control characters (`IsString.noControls`), and code without them stays on one
  line, with the lines around it cut as they are for any other such code (`exists_lines_around`).

`quote_selfDelimiting` has both for a literal, and for the code that reads a property, which has a
literal in it.
-/
namespace TreeSchema

open JsonText Text

namespace Text

/-- No character is below the space. Those are the controls, and the ends of lines are among them. -/
def NoControls (s : List Char) : Prop := ∀ c ∈ s, 0x20 ≤ c.toNat

theorem noControls_cons {c : Char} {s : List Char} :
    NoControls (c :: s) ↔ 0x20 ≤ c.toNat ∧ NoControls s := List.forall_mem_cons

theorem noControls_append {s t : List Char} :
    NoControls (s ++ t) ↔ NoControls s ∧ NoControls t := List.forall_mem_append

instance (s : List Char) : Decidable (NoControls s) :=
  decidable_of_iff (s.all (fun c => decide (0x20 ≤ c.toNat)) = true) (by simp [NoControls])

end Text

/-! ## What is written is a string -/

namespace JsonText

theorem IsCharacters.append {a b : List Char} (ha : IsCharacters a) (hb : IsCharacters b) :
    IsCharacters (a ++ b) := by
  induction ha with
  | nil => exact hb
  | plain hquote hbackslash hc _ ih => exact .plain hquote hbackslash hc ih
  | short hc _ ih => exact .short hc ih
  | unit hi hj hk hl _ ih => exact .unit hi hj hk hl ih

theorem mem_of_shortEscape? {e c : Char} (h : shortEscape? e = some c) :
    e ∈ ['"', '\\', '/', 'b', 'f', 'n', 'r', 't'] := by
  unfold shortEscape? at h
  grind

theorem isHexDigit_hexDigit : ∀ n < 16, isHexDigit (hexDigit n) = true := by decide

theorem isCharacters_escapeQuoted (c : Char) : IsCharacters (escapeQuoted c) := by
  obtain ⟨e, he, -, hc⟩ | ⟨he, hc⟩ | ⟨he, hquote, hbackslash, hc⟩ := escapeQuoted_cases c
  · rw [he]
    exact .short (mem_of_shortEscape? hc) .nil
  · rw [he]
    have hhigh := isHexDigit_hexDigit (c.toNat / 16) (by omega)
    have hlow := isHexDigit_hexDigit (c.toNat % 16) (by omega)
    exact .unit (by decide) (by decide) hhigh hlow .nil
  · rw [he]
    exact .plain hquote hbackslash (Nat.not_lt.1 hc) .nil

theorem isString_quote (text : String) : IsString (quote text).toList := by
  have hcharacters (s : List Char) : IsCharacters (s.flatMap escapeQuoted) := by
    induction s with
    | nil => exact .nil
    | cons c s ih =>
      rw [List.flatMap_cons]
      exact (isCharacters_escapeQuoted c).append ih
  refine ⟨text.toList.flatMap escapeQuoted, hcharacters _, ?_⟩
  have h := toList_quote_append text []
  rwa [List.append_nil] at h

/-! ## Where a string ends -/

/-- Two strings at the front of one text are the same: a reader that passes over a string gets to
what is behind the one and what is behind the other. -/
theorem IsString.append_inj {a b r t : List Char} (ha : IsString a) (hb : IsString b)
    (h : a ++ r = b ++ t) : a = b ∧ r = t := by
  have hrest : r = t := by
    obtain ⟨cs, hcs, rfl⟩ := ha
    obtain ⟨ds, hds, rfl⟩ := hb
    simp only [List.cons_append, List.append_assoc, List.nil_append, List.cons.injEq, true_and] at h
    have hr := skipStringBody_append hcs r
    rw [h, skipStringBody_append hds t] at hr
    exact (Except.ok.inj hr).symm
  subst hrest
  exact ⟨List.append_cancel_right h, rfl⟩

theorem IsCharacters.noControls {cs : List Char} (h : IsCharacters cs) : NoControls cs := by
  have hbackslash : 0x20 ≤ '\\'.toNat := by decide
  have hletters : NoControls ['"', '\\', '/', 'b', 'f', 'n', 'r', 't'] := by decide
  have hdigits : NoControls "0123456789abcdefABCDEF".toList := by decide
  have hhex {c : Char} (hc : isHexDigit c = true) : 0x20 ≤ c.toNat :=
    hdigits c (List.contains_iff_mem.1 hc)
  induction h with
  | nil => decide
  | plain _ _ hc _ ih => exact noControls_cons.2 ⟨hc, ih⟩
  | short hc _ ih =>
    simp only [noControls_cons]
    exact ⟨hbackslash, hletters _ hc, ih⟩
  | unit hi hj hk hl _ ih =>
    simp only [noControls_cons]
    exact ⟨hbackslash, by decide, hhex hi, hhex hj, hhex hk, hhex hl, ih⟩

theorem IsString.noControls {s : List Char} (h : IsString s) : NoControls s := by
  obtain ⟨cs, hcs, rfl⟩ := h
  simp only [noControls_cons, noControls_append]
  exact ⟨by decide, hcs.noControls, by decide⟩

end JsonText

/-! ## Which line a string stands on -/

namespace Text

theorem lines_cons_of_ne {c : Char} (hnewline : c ≠ '\n') {s : List Char}
    (hreturn : ¬ (c = '\r' ∧ s.head? = some '\n')) :
    lines (c :: s) = (c :: (lines s).headD []) :: (lines s).tail := by
  rw [lines, if_neg hnewline, if_neg hreturn]
  cases lines s with
  | nil => rfl
  | cons l ls => rfl

/-- Code without control characters stands at the start of the first line. -/
theorem lines_append_of_noControls {code : List Char} (hne : code ≠ []) (h : NoControls code)
    (after : List Char) :
    lines (code ++ after) = (code ++ (lines after).headD []) :: (lines after).tail := by
  induction code with
  | nil => exact absurd rfl hne
  | cons c code ih =>
    obtain ⟨hc, h⟩ := noControls_cons.1 h
    have hnewline : c ≠ '\n' := by
      rintro rfl
      exact absurd hc (by decide)
    have hreturn : c ≠ '\r' := by
      rintro rfl
      exact absurd hc (by decide)
    rw [List.cons_append, lines_cons_of_ne hnewline fun hr => hreturn hr.1]
    by_cases hnil : code = []
    · rw [hnil]
      rfl
    · rw [ih hnil h]
      rfl

/-- Code without control characters does not bring a line feed to the front of a text. -/
theorem head?_append_eq_newline_iff {code : List Char} (hne : code ≠ []) (h : NoControls code)
    (before after : List Char) :
    (before ++ (code ++ after)).head? = some '\n' ↔ before.head? = some '\n' := by
  cases before with
  | cons c before => rfl
  | nil =>
    obtain ⟨c, code, rfl⟩ := List.exists_cons_of_ne_nil hne
    refine ⟨fun hhead => ?_, nofun⟩
    obtain rfl : c = '\n' := Option.some.inj hhead
    exact absurd (noControls_cons.1 h).1 (by decide)

/-- The text around code without control characters is cut into lines in one way, whatever that
code is, and the code is part of one line. The induction is over the text before it, and a carriage
return in there belongs to a line feed only if that is in there as well. -/
theorem exists_lines_around (before after : List Char) :
    ∃ above left right below, ∀ code : List Char, code ≠ [] → NoControls code →
      lines (before ++ (code ++ after)) = above ++ (left ++ (code ++ right)) :: below := by
  induction before with
  | nil => exact ⟨[], [], _, _, fun code hne h => lines_append_of_noControls hne h after⟩
  | cons c before ih =>
    obtain ⟨above, left, right, below, ih⟩ := ih
    by_cases hnewline : c = '\n'
    · refine ⟨[] :: above, left, right, below, fun code hne h => ?_⟩
      rw [List.cons_append, lines, if_pos hnewline, ih code hne h]
      rfl
    by_cases hreturn : c = '\r' ∧ before.head? = some '\n'
    · refine ⟨above, left, right, below, fun code hne h => ?_⟩
      have hend := And.imp_right (head?_append_eq_newline_iff hne h before after).2 hreturn
      rw [List.cons_append, lines, if_neg hnewline, if_pos hend, ih code hne h]
    -- the character goes to the front of the first line, which may be the one with the code
    have hcut (code : List Char) (hne : code ≠ []) (h : NoControls code) :=
      lines_cons_of_ne hnewline fun hend =>
        hreturn (And.imp_right (head?_append_eq_newline_iff hne h before after).1 hend)
    cases above with
    | nil =>
      refine ⟨[], c :: left, right, below, fun code hne h => ?_⟩
      rw [List.cons_append, hcut code hne h, ih code hne h]
      rfl
    | cons l above =>
      refine ⟨(c :: l) :: above, left, right, below, fun code hne h => ?_⟩
      rw [List.cons_append, hcut code hne h, ih code hne h]
      rfl

end Text

/-- What is written for a text is part of one line, whatever the text is, and the code around it is
cut into the same lines for every text. -/
def StaysOnLine (written : String → String) : Prop :=
  ∀ before after : List Char, ∃ above left right below, ∀ text : String,
    lines (before ++ ((written text).toList ++ after)) =
      above ++ (left ++ ((written text).toList ++ right)) :: below

theorem staysOnLine_of_noControls {written : String → String}
    (hne : ∀ text, (written text).toList ≠ []) (h : ∀ text, NoControls (written text).toList) :
    StaysOnLine written := by
  intro before after
  obtain ⟨above, left, right, below, hlines⟩ := exists_lines_around before after
  exact ⟨above, left, right, below, fun text => hlines _ (hne text) (h text)⟩

theorem toList_propertyOf_append (name : String) (s : List Char) :
    (propertyOf name).toList ++ s = "props[".toList ++ ((quote name).toList ++ ']' :: s) := by
  simp [propertyOf]

theorem quote_injective : Function.Injective quote := by
  intro s t h
  have hs := string_quote s []
  rw [h, string_quote t []] at hs
  exact (String.toList_inj.1 (Prod.mk.inj (Except.ok.inj hs)).1).symm

theorem staysOnLine_quote : StaysOnLine quote := by
  refine staysOnLine_of_noControls (fun text => ?_) fun text => (isString_quote text).noControls
  obtain ⟨cs, -, h⟩ := isString_quote text
  rw [h]
  exact List.cons_ne_nil _ _

theorem staysOnLine_propertyOf : StaysOnLine propertyOf := by
  have htext (name : String) := toList_propertyOf_append name []
  simp only [List.append_nil] at htext
  refine staysOnLine_of_noControls (fun name => ?_) fun name => ?_
  · rw [htext]
    exact List.append_ne_nil_of_left_ne_nil (by decide) _
  · rw [htext]
    simp only [noControls_append]
    exact ⟨by decide, (isString_quote name).noControls, by decide⟩

/-- **Literals delimit themselves.** From a literal with any text behind it, the reader gets the text
of the literal and stops at what is behind. A text that starts with a literal starts with no other
string of JSON, be it shorter or longer. A literal has no control characters, and different texts
have different literals. It is part of one line, wherever it stands. The same goes for the code that
reads a property: after its bracket the name of the property is read, and then the closing bracket
comes. -/
theorem quote_selfDelimiting :
    (∀ text rest : String, string (quote text ++ rest).toList = .ok (text.toList, rest.toList)) ∧
    (∀ (text rest : String) (s : List Char),
      IsString s ∧ s <+: (quote text ++ rest).toList ↔ s = (quote text).toList) ∧
    (∀ text : String, ∀ c ∈ (quote text).toList, 0x20 ≤ c.toNat) ∧
    Function.Injective quote ∧
    StaysOnLine quote ∧
    (∀ name rest : String, ∃ s, letters "props[".toList (propertyOf name ++ rest).toList = .ok s ∧
      string s = .ok (name.toList, ']' :: rest.toList)) ∧
    StaysOnLine propertyOf := by
  refine ⟨fun text rest => ?_, fun text rest s => ⟨?_, ?_⟩,
    fun text => (isString_quote text).noControls, quote_injective, staysOnLine_quote,
    fun name rest => ?_, staysOnLine_propertyOf⟩
  · rw [String.toList_append, string_quote]
  · rintro ⟨hs, t, ht⟩
    rw [String.toList_append] at ht
    exact (hs.append_inj (isString_quote text) ht).1
  · rintro rfl
    refine ⟨isString_quote text, ?_⟩
    rw [String.toList_append]
    exact List.prefix_append _ _
  · refine ⟨(quote name).toList ++ ']' :: rest.toList, ?_, string_quote name _⟩
    rw [String.toList_append, toList_propertyOf_append, letters_append]

/-- A name with a quote, a backslash and controls in it. Cut after the quote, its literal is none. -/
theorem quote_selfDelimiting_escaped :
    let name := "a\"]\\\n\x01"
    quote name = "\"a\\\"]\\\\\\n\\u0001\"" ∧
    string (quote name ++ "\"]").toList = .ok (name.toList, "\"]".toList) ∧
    ¬ IsString "\"a\\\"".toList ∧
    (∀ c ∈ (quote name).toList, 0x20 ≤ c.toNat) ∧
    ∃ s, letters "props[".toList (propertyOf name ++ ",").toList = .ok s ∧
      string s = .ok (name.toList, "],".toList) := by
  intro name
  obtain ⟨hread, hstring, hcontrol, -, -, hproperty, -⟩ := quote_selfDelimiting
  have hquote : quote name = "\"a\\\"]\\\\\\n\\u0001\"" := by decide
  refine ⟨hquote, hread name "\"]", fun hcut => ?_, hcontrol name, hproperty name ","⟩
  have hprefix : "\"a\\\"".toList <+: (quote name ++ "").toList := by
    rw [hquote]
    decide
  have hwhole := (hstring name "" _).1 ⟨hcut, hprefix⟩
  rw [hquote] at hwhole
  exact absurd hwhole (by decide)

end TreeSchema
