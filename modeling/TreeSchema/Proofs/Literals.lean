import TreeSchema.Json.StringValue
import TreeSchema.Text.Quoted
/-!
# Literals are read back

`quote` writes a text as a literal and `JsonText.stringBody` reads one after its first quote. A
character is written in one of three ways (`escapeQuoted_cases`), and from each of them it is read
as itself whatever follows (`stringBody_escapeQuoted`). So a literal ends at its own last quote and
gives back its text (`stringBody_quoted`).
-/
namespace TreeSchema.JsonText
open Text

/-! ## One character -/

/-- A character is written as a short escape, as the number of a control, or as itself. -/
theorem escapeQuoted_cases (c : Char) :
    (∃ e, escapeQuoted c = ['\\', e] ∧ e ≠ 'u' ∧ shortEscape? e = some c) ∨
    (escapeQuoted c =
        ['\\', 'u', '0', '0', hexDigit (c.toNat / 16), hexDigit (c.toNat % 16)] ∧
      c.toNat < 0x20) ∨
    (escapeQuoted c = [c] ∧ c ≠ '"' ∧ c ≠ '\\' ∧ ¬ c.toNat < 0x20) := by
  unfold escapeQuoted
  -- the seven short escapes
  iterate 7
    split
    · rename_i hc
      subst hc
      exact .inl ⟨_, rfl, by decide, rfl⟩
  split
  · rename_i hc
    exact .inr (.inl ⟨rfl, hc⟩)
  · rename_i hquote hbackslash _ _ _ _ _ hc
    exact .inr (.inr ⟨rfl, hquote, hbackslash, hc⟩)

theorem escape_of_shortEscape? {e c : Char} (he : e ≠ 'u') (h : shortEscape? e = some c)
    (s : List Char) : escape (e :: s) = .ok (c, s) := by
  unfold escape
  split
  · rename_i hs
    cases hs
  · rename_i hs
    cases hs
    exact absurd rfl he
  · rename_i hs
    cases hs
    rw [h]

theorem hexValue?_hexDigit : ∀ n < 16, hexValue? (hexDigit n) = some n := by decide

theorem hexUnit_hexDigits {n : Nat} (h : n < 0x100) (s : List Char) :
    hexUnit ('0' :: '0' :: hexDigit (n / 16) :: hexDigit (n % 16) :: s) = .ok (n, s) := by
  have hzero : hexValue? '0' = some 0 := by decide
  have hhigh := hexValue?_hexDigit (n / 16) (by omega)
  have hlow := hexValue?_hexDigit (n % 16) (by omega)
  simp only [hexUnit, hzero, hhigh, hlow, Except.ok.injEq, Prod.mk.injEq, and_true]
  omega

theorem escape_hexDigits {c : Char} (h : c.toNat < 0x20) (s : List Char) :
    escape ('u' :: '0' :: '0' :: hexDigit (c.toNat / 16) :: hexDigit (c.toNat % 16) :: s) =
      .ok (c, s) := by
  have hlow : ¬ (0xDC00 ≤ c.toNat ∧ c.toNat ≤ 0xDFFF) := by omega
  have hhigh : ¬ (0xD800 ≤ c.toNat ∧ c.toNat ≤ 0xDBFF) := by omega
  have hunit := hexUnit_hexDigits (n := c.toNat) (by omega) s
  simp only [escape, hunit, hlow, hhigh, if_false, Char.ofNat_toNat]

theorem stringBody_backslash {s rest : List Char} {c : Char} (h : escape s = .ok (c, rest)) :
    stringBody ('\\' :: s) = (stringBody rest).map fun (text, rest) => (c :: text, rest) := by
  rw [stringBody]
  simp only [Char.reduceEq, if_false, if_true]
  split
  · rename_i he
    rw [h] at he
    cases he
  · rename_i he
    rw [h] at he
    cases he
    rfl

/-- A character is read as itself from what is written for it. -/
theorem stringBody_escapeQuoted (c : Char) (s : List Char) :
    stringBody (escapeQuoted c ++ s) =
      (stringBody s).map fun (text, rest) => (c :: text, rest) := by
  obtain ⟨e, he, hu, hc⟩ | ⟨he, hc⟩ | ⟨he, hquote, hbackslash, hc⟩ := escapeQuoted_cases c
  · rw [he]
    exact stringBody_backslash (escape_of_shortEscape? hu hc s)
  · rw [he]
    exact stringBody_backslash (escape_hexDigits hc s)
  · rw [he, List.singleton_append, stringBody, if_neg hquote, if_neg hbackslash, if_neg hc]

/-! ## Whole literals -/

theorem stringBody_quoted (text s : List Char) :
    stringBody (text.flatMap escapeQuoted ++ '"' :: s) = .ok (text, s) := by
  induction text with
  | nil => rw [List.flatMap_nil, List.nil_append, stringBody, if_pos rfl]
  | cons c text ih =>
    rw [List.flatMap_cons, List.append_assoc, stringBody_escapeQuoted, ih]
    rfl

theorem toList_quote_append (text : String) (s : List Char) :
    (quote text).toList ++ s = '"' :: (text.toList.flatMap escapeQuoted ++ '"' :: s) := by
  simp [quote, quoted]

end TreeSchema.JsonText
