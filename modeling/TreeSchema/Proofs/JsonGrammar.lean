import TreeSchema.Json.Skip
import TreeSchema.Proofs.JsonReader
/-!
# The grammar of JSON texts

What JSON is, said without a reader:

    value   ::= string | numeral | "null" | "true" | "false"
              | "[" items of values "]" | "{" items of members "}"
    member  ::= string ":" value
    numeral ::= "-"? ("0" | digit without zero, digits) ("." digits)? (("e" | "E") ("+" | "-")? digits)?

with any blanks between two tokens. The items between two brackets are a list with commas between
them (`Items`), whatever they are, so that the lists of settings are written by the same relation.

`IsValue.skip` says that a value that does not matter is passed over whole, whatever its shape and
depth. The induction is over the value, and inside brackets over the items (`skipRest_items`).
-/
namespace TreeSchema.JsonText

/-! ## Strings -/

def isHexDigit (c : Char) : Bool := "0123456789abcdefABCDEF".toList.contains c

/-- What may stand between the quotes of a string. -/
inductive IsCharacters : List Char → Prop
  | nil : IsCharacters []
  | plain {c : Char} {s : List Char} : c ≠ '"' → c ≠ '\\' → 0x20 ≤ c.toNat → IsCharacters s →
    IsCharacters (c :: s)
  | short {c : Char} {s : List Char} : c ∈ ['"', '\\', '/', 'b', 'f', 'n', 'r', 't'] →
    IsCharacters s → IsCharacters ('\\' :: c :: s)
  | unit {i j k l : Char} {s : List Char} : isHexDigit i → isHexDigit j → isHexDigit k →
    isHexDigit l → IsCharacters s → IsCharacters ('\\' :: 'u' :: i :: j :: k :: l :: s)

def IsString (s : List Char) : Prop := ∃ cs, IsCharacters cs ∧ s = '"' :: (cs ++ ['"'])

theorem skipEscape_short {c : Char} (h : c ∈ ['"', '\\', '/', 'b', 'f', 'n', 'r', 't'])
    (s : List Char) : skipEscape (c :: s) = .ok s := by
  simp only [List.mem_cons, List.not_mem_nil, or_false] at h
  rcases h with rfl | rfl | rfl | rfl | rfl | rfl | rfl | rfl <;> rfl

theorem exists_hexValue? {c : Char} (h : isHexDigit c = true) : ∃ n, hexValue? c = some n := by
  have hall : ∀ d ∈ "0123456789abcdefABCDEF".toList, (hexValue? d).isSome = true :=
    List.all_eq_true.1 (by decide)
  exact Option.isSome_iff_exists.1 (hall c (List.contains_iff_mem.1 h))

theorem skipEscape_unit {i j k l : Char} (hi : isHexDigit i = true) (hj : isHexDigit j = true)
    (hk : isHexDigit k = true) (hl : isHexDigit l = true) (s : List Char) :
    skipEscape ('u' :: i :: j :: k :: l :: s) = .ok s := by
  obtain ⟨a, ha⟩ := exists_hexValue? hi
  obtain ⟨b, hb⟩ := exists_hexValue? hj
  obtain ⟨c, hc⟩ := exists_hexValue? hk
  obtain ⟨d, hd⟩ := exists_hexValue? hl
  simp only [skipEscape, hexUnit, ha, hb, hc, hd]

theorem skipStringBody_backslash {s rest : List Char} (h : skipEscape s = .ok rest) :
    skipStringBody ('\\' :: s) = skipStringBody rest := by
  rw [skipStringBody]
  grind

/-- A string whose text does not matter is passed over up to its last quote. -/
theorem skipStringBody_append {cs : List Char} (h : IsCharacters cs) (s : List Char) :
    skipStringBody (cs ++ '"' :: s) = .ok s := by
  induction h with
  | nil => rw [List.nil_append, skipStringBody, if_pos rfl]
  | plain hquote hbackslash hc _ ih =>
    rw [List.cons_append, skipStringBody, if_neg hquote, if_neg hbackslash,
      if_neg (Nat.not_lt.2 hc), ih]
  | short hc _ ih =>
    rw [List.cons_append, List.cons_append, skipStringBody_backslash (skipEscape_short hc _), ih]
  | unit hi hj hk hl _ ih =>
    rw [← ih]
    exact skipStringBody_backslash (skipEscape_unit hi hj hk hl _)

/-! ## Numerals -/

def IsDigits (ds : List Char) : Prop := ds ≠ [] ∧ ∀ c ∈ ds, c.isDigit = true

instance (ds : List Char) : Decidable (IsDigits ds) :=
  decidable_of_iff (ds ≠ [] ∧ ds.all Char.isDigit = true) (and_congr_right' List.all_eq_true)

/-- The digits before the point. -/
inductive IsWhole : List Char → Prop
  | zero : IsWhole ['0']
  | digits {ds : List Char} : IsDigits ds → ds.head? ≠ some '0' → IsWhole ds

/-- The point and the digits after it, if there are any. -/
inductive IsFraction : List Char → Prop
  | none : IsFraction []
  | some {ds : List Char} : IsDigits ds → IsFraction ('.' :: ds)

/-- The power of ten, if there is one. -/
inductive IsPower : List Char → Prop
  | none : IsPower []
  | some {e : Char} {sign ds : List Char} : e = 'e' ∨ e = 'E' →
    sign = [] ∨ sign = ['+'] ∨ sign = ['-'] → IsDigits ds → IsPower (e :: (sign ++ ds))

/-- A numeral of any size. -/
inductive IsNumeral : List Char → Prop
  | plain {whole fraction power : List Char} : IsWhole whole → IsFraction fraction →
    IsPower power → IsNumeral (whole ++ (fraction ++ power))
  | minus {whole fraction power : List Char} : IsWhole whole → IsFraction fraction →
    IsPower power → IsNumeral ('-' :: (whole ++ (fraction ++ power)))

/-- The text does not go on with what could belong to a numeral. -/
def Ended (s : List Char) : Prop :=
  ∀ c ∈ s.head?, c.isDigit = false ∧ c ≠ '.' ∧ c ≠ 'e' ∧ c ≠ 'E'

theorem wholeDigits_append {onEnd : JsonFault} {ds s : List Char} (h : IsWhole ds)
    (hs : ∀ c ∈ s.head?, c.isDigit = false) : wholeDigits onEnd (ds ++ s) = .ok (ds, s) := by
  cases h with
  | zero =>
    rw [wholeDigits, digits_append (List.cons_ne_nil _ _) (List.all_eq_true.1 rfl) hs]
    rfl
  | digits hds hzero =>
    rw [wholeDigits, digits_append hds.1 hds.2 hs]
    split
    · rename_i he
      cases he
    · rename_i he
      cases he
      exact absurd rfl hzero
    · rename_i he
      exact he.symm

theorem fractionDigits_append (onEnd : JsonFault) {fraction s : List Char}
    (h : IsFraction fraction) (hs : ∀ c ∈ s.head?, c.isDigit = false ∧ c ≠ '.') :
    ∃ ds, fractionDigits onEnd (fraction ++ s) = .ok (ds, s) := by
  cases h with
  | none =>
    refine ⟨[], ?_⟩
    rw [List.nil_append, fractionDigits]
    rintro rest rfl
    exact (hs '.' rfl).2 rfl
  | some hds => exact ⟨_, digits_append hds.1 hds.2 fun c hc => (hs c hc).1⟩

/-- What follows the letter of a power, without its sign. -/
def dropSign (s : List Char) : List Char :=
  if s.head? = some '-' ∨ s.head? = some '+' then s.drop 1 else s

theorem powerOfTen_of_digits {onEnd : JsonFault} {e : Char} {ds s rest : List Char}
    (he : e = 'e' ∨ e = 'E') (h : digits onEnd (dropSign s) = .ok (ds, rest)) :
    ∃ n, powerOfTen onEnd (e :: s) = .ok (n, rest) := by
  unfold dropSign at h
  rw [powerOfTen, if_pos he]
  simp only [h]
  exact ⟨_, rfl⟩

theorem dropSign_append {sign ds : List Char} (h : sign = [] ∨ sign = ['+'] ∨ sign = ['-'])
    (hds : IsDigits ds) (s : List Char) : dropSign (sign ++ (ds ++ s)) = ds ++ s := by
  rcases h with rfl | rfl | rfl
  · -- a digit is no sign
    obtain ⟨c, cs, rfl⟩ := List.exists_cons_of_ne_nil hds.1
    have hc := hds.2 c List.mem_cons_self
    have hminus : c ≠ '-' := ne_of_isDigit hc _ (by decide)
    have hplus : c ≠ '+' := ne_of_isDigit hc _ (by decide)
    rw [dropSign, if_neg (by simp [hminus, hplus]), List.nil_append]
  · rfl
  · rfl

theorem powerOfTen_append (onEnd : JsonFault) {power s : List Char} (h : IsPower power)
    (hs : Ended s) : ∃ n, powerOfTen onEnd (power ++ s) = .ok (n, s) := by
  cases h with
  | none =>
    refine ⟨0, ?_⟩
    cases s with
    | nil => rfl
    | cons c s =>
      have hc := hs c rfl
      rw [List.nil_append, powerOfTen, if_neg (by simp [hc])]
  | @some e sign ds he hsign hds =>
    have hdigits : digits onEnd (dropSign (sign ++ (ds ++ s))) = .ok (ds, s) := by
      rw [dropSign_append hsign hds]
      exact digits_append hds.1 hds.2 fun c hc => (hs c hc).1
    rw [List.cons_append, List.append_assoc]
    exact powerOfTen_of_digits he hdigits

theorem head?_power {power s : List Char} (h : IsPower power) (hs : Ended s) :
    ∀ c ∈ (power ++ s).head?, c.isDigit = false ∧ c ≠ '.' := by
  cases h with
  | none => exact fun c hc => ⟨(hs c hc).1, (hs c hc).2.1⟩
  | some he _ _ =>
    intro c hc
    cases hc
    rcases he with rfl | rfl
    · decide
    · decide

theorem head?_fraction {fraction s : List Char} (h : IsFraction fraction)
    (hs : ∀ c ∈ s.head?, c.isDigit = false) :
    ∀ c ∈ (fraction ++ s).head?, c.isDigit = false := by
  cases h with
  | none => exact hs
  | some _ =>
    intro c hc
    cases hc
    decide

/-- A numeral is passed over up to its last digit. -/
theorem skipNumeral_append {whole fraction power s : List Char} (hwhole : IsWhole whole)
    (hfraction : IsFraction fraction) (hpower : IsPower power) (hs : Ended s) :
    skipNumeral (whole ++ (fraction ++ (power ++ s))) = .ok s := by
  have hnext := head?_power hpower hs
  have hafter := head?_fraction hfraction fun c hc => (hnext c hc).1
  obtain ⟨ds, hds⟩ := fractionDigits_append .malformed hfraction hnext
  obtain ⟨n, hn⟩ := powerOfTen_append .malformed hpower hs
  simp only [skipNumeral, numeral, wholeDigits_append hwhole hafter, hds, hn]

/-! ## Items -/

/-- What stands between two brackets: items with commas between them, and any blanks around each.
`first` says that the next item is the first one, so that no comma stands before it. -/
inductive Items {α : Type} (written : α → List Char → Prop) : Bool → List α → List Char → Prop
  | nil {first : Bool} {b : List Char} : Blanks b → Items written first [] b
  | first {x : α} {xs : List α} {b s t : List Char} : Blanks b → written x s →
    Items written false xs t → Items written true (x :: xs) (b ++ (s ++ t))
  | next {x : α} {xs : List α} {a b s t : List Char} : Blanks a → Blanks b → written x s →
    Items written false xs t → Items written false (x :: xs) (a ++ ',' :: (b ++ (s ++ t)))

/-- A key, a colon and a value, with any blanks around the colon. -/
def MemberText (key value s : List Char) : Prop :=
  ∃ a b, Blanks a ∧ Blanks b ∧ s = key ++ (a ++ ':' :: (b ++ value))

/-- A value of JSON, as it is written. -/
inductive IsValue : List Char → Prop
  | null : IsValue ['n', 'u', 'l', 'l']
  | true : IsValue ['t', 'r', 'u', 'e']
  | false : IsValue ['f', 'a', 'l', 's', 'e']
  | numeral {s : List Char} : IsNumeral s → IsValue s
  | string {s : List Char} : IsString s → IsValue s
  | list {values : List (List Char)} {s : List Char} : Items Eq Bool.true values s →
    (∀ v ∈ values, IsValue v) → IsValue ('[' :: (s ++ [']']))
  | object {members : List (List Char × List Char)} {s : List Char} :
    Items (fun m => MemberText m.1 m.2) Bool.true members s →
    (∀ m ∈ members, IsString m.1) → (∀ m ∈ members, IsValue m.2) →
    IsValue ('\x7b' :: (s ++ ['\x7d']))

section
variable {α : Type} {written : α → List Char → Prop} {first : Bool} {x : α} {xs : List α}
  {t : List Char}

theorem ended_append {b s : List Char} (hb : Blanks b) (hs : Ended s) : Ended (b ++ s) := by
  cases b with
  | nil => exact hs
  | cons d b =>
    intro c hc
    cases hc
    have hspace := hb d List.mem_cons_self
    simp only [isSpace, Bool.or_eq_true, beq_iff_eq] at hspace
    rcases hspace with ((rfl | rfl) | rfl) | rfl <;> decide

/-- After an item comes a blank, a comma or the end. -/
theorem Items.ended (h : Items written false xs t) {s : List Char} (hs : Ended s) :
    Ended (t ++ s) := by
  cases h with
  | nil hb => exact ended_append hb hs
  | next ha _ _ _ =>
    rw [List.append_assoc]
    refine ended_append ha ?_
    intro c hc
    cases hc
    decide

/-- A reader that goes from item to item stops after the last one. -/
theorem Items.turn_nil (h : Items written first [] t) {close : Char}
    (hclose : isSpace close = false) (s : List Char) : turn close first (t ++ close :: s) = .ok (.stop s) := by
  cases h with
  | nil hb => exact turn_close hb hclose s

/-- A reader that goes from item to item gets to the next one. -/
theorem Items.turn_cons (h : Items written first (x :: xs) t) (close : Char)
    (hclose : isStart close = false) (hstarts : ∀ s, written x s → Starts s) (s : List Char) :
    ∃ u v, written x u ∧ Items written false xs v ∧
      turn close first (t ++ s) = .ok (.item (u ++ (v ++ s))) := by
  cases h with
  | first hb hx ht =>
    refine ⟨_, _, hx, ht, ?_⟩
    rw [List.append_assoc, List.append_assoc]
    exact turn_first hb hclose ((hstarts _ hx).append _)
  | next ha hb hx ht =>
    refine ⟨_, _, hx, ht, ?_⟩
    rw [List.append_assoc, turn_append ha, List.cons_append, List.append_assoc, List.append_assoc]
    exact turn_next hb hclose ((hstarts _ hx).append _)

end

/-! ## Values that do not matter -/

def Bracket.opening : Bracket → Char
  | .list => '['
  | .object => '\x7b'

/-- Skips the next item between brackets that are open, and what follows it: a value, in an object
with its key before it. -/
def skipItem (bracket : Bracket) (stack : List Bracket) (s : List Char) :
    Except JsonFault (List Char) :=
  match bracket with
  | .list => skipValue (.list :: stack) s
  | .object =>
    match skipKey s with
    | .error fault => .error fault
    | .ok rest => skipValue (.object :: stack) rest

section
variable {bracket : Bracket} {stack : List Bracket} {b s : List Char}

theorem skipValue_append (hb : Blanks b) : skipValue stack (b ++ s) = skipValue stack s := by
  rw [skipValue, skipValue.eq_def stack s, skipSpaces_append hb]

theorem skipItem_append (hb : Blanks b) :
    skipItem bracket stack (b ++ s) = skipItem bracket stack s := by
  cases bracket with
  | list => exact skipValue_append hb
  | object =>
    have hkey : skipKey (b ++ s) = skipKey s := by rw [skipKey, skipKey, skipSpaces_append hb]
    rw [skipItem, hkey]
    rfl

theorem skipValue_empty (hb : Blanks b) (s : List Char) :
    skipValue stack (bracket.opening :: (b ++ bracket.close :: s)) = skipRest stack s := by
  have hs : skipSpaces (b ++ bracket.close :: s) = bracket.close :: s := by
    rw [skipSpaces_append hb]
    cases bracket <;> rfl
  cases bracket with
  | list =>
    rw [Bracket.opening, skipValue, skipSpaces_cons (by decide)]
    grind [Bracket.close]
  | object =>
    rw [Bracket.opening, skipValue, skipSpaces_cons (by decide)]
    grind [Bracket.close]

theorem skipValue_opening (hb : Blanks b) (h : Starts s) :
    skipValue stack (bracket.opening :: (b ++ s)) = skipItem bracket stack s := by
  have hs : skipSpaces (b ++ s) = s := (skipSpaces_append hb s).trans h.skipSpaces_eq
  have hclose : ∀ rest, s ≠ bracket.close :: rest := by
    rintro rest rfl
    obtain ⟨c, rest', he, hc⟩ := h
    cases he
    cases bracket <;> cases hc
  rw [← skipItem_append hb]
  cases bracket with
  | list =>
    rw [Bracket.opening, skipValue, skipSpaces_cons (by decide)]
    grind [Bracket.close, skipItem]
  | object =>
    rw [Bracket.opening, skipValue, skipSpaces_cons (by decide)]
    grind [Bracket.close, skipItem]

theorem skipRest_close (hb : Blanks b) (s : List Char) :
    skipRest (bracket :: stack) (b ++ bracket.close :: s) = skipRest stack s := by
  have hs : skipSpaces (b ++ bracket.close :: s) = bracket.close :: s := by
    rw [skipSpaces_append hb]
    cases bracket <;> rfl
  rw [skipRest]
  cases bracket <;> grind [Bracket.close]

theorem skipRest_comma (hb : Blanks b) (s : List Char) :
    skipRest (bracket :: stack) (b ++ ',' :: s) = skipItem bracket stack s := by
  have hs : skipSpaces (b ++ ',' :: s) = ',' :: s := by
    rw [skipSpaces_append hb]
    rfl
  rw [skipRest]
  cases bracket <;> grind [skipItem]

theorem skipValue_scalar {c : Char} {rest : List Char} (hspace : isSpace c = false)
    (hlist : c ≠ '[') (hobject : c ≠ '\x7b') (h : skipScalar (c :: s) = .ok rest) :
    skipValue stack (c :: s) = skipRest stack rest := by
  have hs := skipSpaces_cons hspace s
  rw [skipValue]
  grind

theorem ended_close (bracket : Bracket) (s : List Char) : Ended (bracket.close :: s) := by
  intro c hc
  cases hc
  cases bracket <;> decide

end

section
variable {α : Type} {written : α → List Char → Prop} {xs : List α} {t : List Char}
  {bracket : Bracket} {stack : List Bracket}

/-- If every item is passed over whole, so are those that follow an item, up to the end of the
bracket. -/
theorem skipRest_items (h : Items written false xs t)
    (hitem : ∀ x ∈ xs, ∀ u, written x u → ∀ rest, Ended rest →
      skipItem bracket stack (u ++ rest) = skipRest (bracket :: stack) rest) (s : List Char) :
    skipRest (bracket :: stack) (t ++ bracket.close :: s) = skipRest stack s := by
  induction xs generalizing t with
  | nil =>
    cases h with
    | nil hb => exact skipRest_close hb s
  | cons x xs ih =>
    cases h with
    | next ha hb hx ht =>
      rw [List.append_assoc, List.cons_append, skipRest_comma ha, List.append_assoc,
        skipItem_append hb, List.append_assoc,
        hitem x List.mem_cons_self _ hx _ (ht.ended (ended_close bracket s))]
      exact ih ht fun y hy => hitem y (List.mem_cons_of_mem _ hy)

theorem skipValue_items (bracket : Bracket) (h : Items written true xs t)
    (hstarts : ∀ x ∈ xs, ∀ u, written x u → Starts u)
    (hitem : ∀ x ∈ xs, ∀ u, written x u → ∀ rest, Ended rest →
      skipItem bracket stack (u ++ rest) = skipRest (bracket :: stack) rest) (s : List Char) :
    skipValue stack (bracket.opening :: (t ++ bracket.close :: s)) = skipRest stack s := by
  cases h with
  | nil hb => exact skipValue_empty hb s
  | @first x xs b u t hb hx ht =>
    have hu : Starts u := hstarts x List.mem_cons_self u hx
    rw [List.append_assoc, List.append_assoc, skipValue_opening hb (hu.append _),
      hitem x List.mem_cons_self u hx _ (ht.ended (ended_close bracket s))]
    exact skipRest_items ht (fun y hy => hitem y (List.mem_cons_of_mem _ hy)) s

end

theorem IsString.starts {s : List Char} (h : IsString s) : Starts s := by
  obtain ⟨cs, -, rfl⟩ := h
  exact ⟨'"', _, rfl, by decide⟩

theorem IsDigits.starts {ds : List Char} (h : IsDigits ds) : Starts ds := by
  obtain ⟨c, cs, rfl⟩ := List.exists_cons_of_ne_nil h.1
  exact ⟨c, cs, rfl, isStart_of_isDigit (h.2 c List.mem_cons_self)⟩

theorem IsWhole.isDigits {ds : List Char} (h : IsWhole ds) : IsDigits ds := by
  cases h with
  | zero => decide
  | digits hds _ => exact hds

theorem IsValue.starts {v : List Char} (h : IsValue v) : Starts v := by
  cases h with
  | null => exact ⟨'n', _, rfl, by decide⟩
  | true => exact ⟨'t', _, rfl, by decide⟩
  | false => exact ⟨'f', _, rfl, by decide⟩
  | numeral h =>
    cases h with
    | plain hwhole _ _ => exact hwhole.isDigits.starts.append _
    | minus _ _ _ => exact ⟨'-', _, rfl, by decide⟩
  | string h => exact h.starts
  | list _ _ => exact ⟨'[', _, rfl, by decide⟩
  | object _ _ _ => exact ⟨'\x7b', _, rfl, by decide⟩

theorem IsNumeral.skip {v : List Char} (h : IsNumeral v) (stack : List Bracket) {s : List Char}
    (hs : Ended s) : skipValue stack (v ++ s) = skipRest stack s := by
  cases h with
  | @plain whole fraction power hwhole hfraction hpower =>
    have hnumeral := skipNumeral_append hwhole hfraction hpower hs
    obtain ⟨c, cs, rfl⟩ := List.exists_cons_of_ne_nil hwhole.isDigits.1
    have hc : c.isDigit = true := hwhole.isDigits.2 c List.mem_cons_self
    have hne : ∀ d : Char, d.isDigit = false → c ≠ d := ne_of_isDigit hc
    rw [List.append_assoc, List.append_assoc, List.cons_append]
    refine skipValue_scalar (by simp [isSpace, hne]) (hne _ (by decide)) (hne _ (by decide)) ?_
    rw [skipScalar, if_neg (hne _ (by decide)), if_neg (hne _ (by decide)), if_pos hc]
    exact hnumeral
  | minus hwhole hfraction hpower =>
    have hnumeral := skipNumeral_append hwhole hfraction hpower hs
    rw [List.cons_append, List.append_assoc, List.append_assoc]
    exact skipValue_scalar (by decide) (by decide) (by decide) hnumeral

theorem colon_append {b : List Char} (hb : Blanks b) (s : List Char) :
    colon (b ++ ':' :: s) = .ok s := by
  rw [colon, skipSpaces_append hb]
  rfl

theorem IsString.skipKey {k value m : List Char} (hk : IsString k) (h : MemberText k value m)
    (s : List Char) :
    ∃ b, Blanks b ∧ skipKey (m ++ s) = .ok (b ++ (value ++ s)) := by
  obtain ⟨cs, hcs, rfl⟩ := hk
  obtain ⟨a, b, ha, hb, rfl⟩ := h
  refine ⟨b, hb, ?_⟩
  simp only [List.cons_append, List.append_assoc, List.nil_append]
  rw [JsonText.skipKey, skipSpaces_cons (by decide)]
  simp only [if_true, skipStringBody_append hcs, colon_append ha]

/-- A value that does not matter is passed over whole. -/
theorem IsValue.skip {v : List Char} (h : IsValue v) (stack : List Bracket) {s : List Char}
    (hs : Ended s) : skipValue stack (v ++ s) = skipRest stack s := by
  -- for any stack, as the items of a list or an object are skipped inside its bracket
  induction h generalizing stack s with
  | null => exact skipValue_scalar (by decide) (by decide) (by decide) rfl
  | true => exact skipValue_scalar (by decide) (by decide) (by decide) rfl
  | false => exact skipValue_scalar (by decide) (by decide) (by decide) rfl
  | numeral h => exact h.skip stack hs
  | string h =>
    obtain ⟨cs, hcs, rfl⟩ := h
    rw [List.cons_append, List.append_assoc]
    exact skipValue_scalar (by decide) (by decide) (by decide) (skipStringBody_append hcs s)
  | list ht hvalues ih =>
    rw [List.cons_append, List.append_assoc]
    refine skipValue_items .list ht ?_ ?_ s
    · rintro v hv _ rfl
      exact (hvalues v hv).starts
    · rintro v hv _ rfl rest hrest
      exact ih v hv _ hrest
  | object ht hkeys hvalues ih =>
    rw [List.cons_append, List.append_assoc]
    refine skipValue_items .object ht ?_ ?_ s
    · rintro m hm u ⟨a, b, -, -, rfl⟩
      exact (hkeys m hm).starts.append _
    · intro m hm u hu rest hrest
      obtain ⟨b, hb, hkey⟩ := (hkeys m hm).skipKey hu rest
      simp only [skipItem, hkey]
      rw [skipValue_append hb]
      exact ih m hm _ hrest

end TreeSchema.JsonText
