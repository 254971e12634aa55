import TreeSchema.Json.Value
import TreeSchema.Proofs.Literals
import TreeSchema.Proofs.Text
/-!
# Printed JSON values are read back

`JsonText.value` reads the values that `Json.pretty` prints. It keeps the lists and objects that are
still open on a stack, as values may nest to any depth: a value is read, and then `after` goes on
with what holds it.

From the printed form of a value the reader gets to what follows it with that value in hand
(`value_prettyAt`); the induction is over the value, together with the rest of a list
(`after_prettyItems`) and of an object (`after_prettyMembers`).
-/
namespace TreeSchema.JsonText

/-! ## The reader -/

/-- A list or an object that is still open, with what is read of it. The value of the last key of
an object comes next. -/
inductive Open where
  | list (items : List Json)
  | object (members : List (String × Json)) (key : String)

namespace Open

def close : Open → Char
  | .list _ => ']'
  | .object _ _ => '\x7d'

/-- An open list or object that ends with a value. -/
def finish (v : Json) : Open → Json
  | .list items => .list (items ++ [v])
  | .object members key => .object (members ++ [(key, v)])

end Open

/-- A value without parts. -/
def scalar (s : List Char) : Except JsonFault (Json × List Char) :=
  match s with
  | [] => .error .truncated
  | c :: rest =>
    if c = '"' then (stringBody rest).map fun (text, rest) => (.text (String.ofList text), rest)
    else if c = 'n' then (letters ['u', 'l', 'l'] rest).map fun rest => (.null, rest)
    else (wholeDigits .truncated s).map fun (ds, rest) => (.number (digitsValue ds), rest)

/-- The key of a member and the colon after it. -/
def memberKey (s : List Char) : Except JsonFault (String × List Char) :=
  match key s with
  | .error fault => .error fault
  | .ok (text, rest) => (colon rest).map fun rest => (String.ofList text, rest)

theorem length_lt_of_turn_eq_stop {close : Char} {first : Bool} {s rest : List Char}
    (h : turn close first s = .ok (.stop rest)) : rest.length < s.length := by
  have hs := length_skipSpaces_le s
  unfold turn at h
  grind

theorem length_lt_of_turn_eq_item {close : Char} {s rest : List Char}
    (h : turn close false s = .ok (.item rest)) : rest.length < s.length := by
  have hs := length_skipSpaces_le s
  unfold turn at h
  grind [length_skipSpaces_le]

theorem scalar_shrinks {s rest : List Char} {v : Json} (h : scalar s = .ok (v, rest)) :
    rest.length < s.length := by
  have hw {s ds rest} (h : wholeDigits .truncated s = .ok (ds, rest)) : rest.length < s.length := by
    unfold wholeDigits at h
    grind [→ digits_shrinks]
  unfold scalar at h
  grind [→ stringBody_shrinks, → letters_length_le, → exists_ok_of_map_eq_ok]

theorem memberKey_shrinks {s rest : List Char} {k : String} (h : memberKey s = .ok (k, rest)) :
    rest.length < s.length := by
  unfold memberKey at h
  grind [→ key_shrinks, → colon_shrinks, → exists_ok_of_map_eq_ok]

mutual

/-- Reads a value and goes on with what holds it, up to the end of the outermost value. -/
def value (stack : List Open) (s : List Char) : Except JsonFault (Json × List Char) :=
  match _hs : skipSpaces s with
  | [] => .error .truncated
  | '[' :: rest =>
    match _ht : turn ']' true rest with
    | .error fault => .error fault
    | .ok (.stop rest) => after stack (.list []) rest
    | .ok (.item rest) => value (.list [] :: stack) rest
  | '\x7b' :: rest =>
    match _ht : turn '\x7d' true rest with
    | .error fault => .error fault
    | .ok (.stop rest) => after stack (.object []) rest
    | .ok (.item rest) =>
      match _hk : memberKey rest with
      | .error fault => .error fault
      | .ok (key, rest) => value (.object [] key :: stack) rest
  | c :: rest =>
    match _hv : scalar (c :: rest) with
    | .error fault => .error fault
    | .ok (v, rest) => after stack v rest
termination_by s.length
decreasing_by
  all_goals
    have := length_skipSpaces_le s
    grind [→ memberKey_shrinks, → scalar_shrinks, → length_le_of_turn_eq_item,
      → length_lt_of_turn_eq_stop]

/-- Goes on after a value of the innermost list or object that is open. -/
def after (stack : List Open) (v : Json) (s : List Char) : Except JsonFault (Json × List Char) :=
  match stack with
  | [] => .ok (v, s)
  | inner :: outer =>
    match _ht : turn inner.close false s with
    | .error fault => .error fault
    | .ok (.stop rest) => after outer (inner.finish v) rest
    | .ok (.item rest) =>
      match inner with
      | .list items => value (.list (items ++ [v]) :: outer) rest
      | .object members key =>
        match _hk : memberKey rest with
        | .error fault => .error fault
        | .ok (next, rest) => value (.object (members ++ [(key, v)]) next :: outer) rest
termination_by s.length
decreasing_by
  all_goals
    grind [→ memberKey_shrinks, → length_lt_of_turn_eq_item, → length_lt_of_turn_eq_stop]

end

/-! ## What the reader does

One lemma for each way in which it goes on. -/

section
variable {stack : List Open} {inner : Open} {v : Json} {s rest tail : List Char}

theorem value_of_scalar {c : Char} (hs : skipSpaces s = c :: rest) (hlist : c ≠ '[')
    (hobject : c ≠ '\x7b') (h : scalar (c :: rest) = .ok (v, tail)) :
    value stack s = after stack v tail := by
  rw [value]
  grind

theorem value_of_list_stop (hs : skipSpaces s = '[' :: rest)
    (h : turn ']' true rest = .ok (.stop tail)) :
    value stack s = after stack (.list []) tail := by
  rw [value]
  grind

theorem value_of_list_item (hs : skipSpaces s = '[' :: rest)
    (h : turn ']' true rest = .ok (.item tail)) :
    value stack s = value (.list [] :: stack) tail := by
  rw [value]
  grind

theorem value_of_object_stop (hs : skipSpaces s = '\x7b' :: rest)
    (h : turn '\x7d' true rest = .ok (.stop tail)) :
    value stack s = after stack (.object []) tail := by
  rw [value]
  grind

theorem value_of_object_item {key : String} {member : List Char}
    (hs : skipSpaces s = '\x7b' :: rest) (h : turn '\x7d' true rest = .ok (.item member))
    (hk : memberKey member = .ok (key, tail)) :
    value stack s = value (.object [] key :: stack) tail := by
  rw [value]
  grind

theorem after_of_stop (h : turn inner.close false s = .ok (.stop rest)) :
    after (inner :: stack) v s = after stack (inner.finish v) rest := by
  rw [after]
  grind

theorem after_of_list_item {items : List Json} (h : turn ']' false s = .ok (.item rest)) :
    after (.list items :: stack) v s = value (.list (items ++ [v]) :: stack) rest := by
  rw [after]
  grind [Open.close]

theorem after_of_object_item {members : List (String × Json)} {key next : String}
    (h : turn '\x7d' false s = .ok (.item rest)) (hk : memberKey rest = .ok (next, tail)) :
    after (.object members key :: stack) v s =
      value (.object (members ++ [(key, v)]) next :: stack) tail := by
  rw [after]
  grind [Open.close]

end

/-! ## Numerals -/

theorem digits_append {onEnd : JsonFault} {ds s : List Char} (hne : ds ≠ [])
    (hds : ∀ c ∈ ds, c.isDigit = true) (hs : ∀ c ∈ s.head?, c.isDigit = false) :
    digits onEnd (ds ++ s) = .ok (ds, s) := by
  cases ds with
  | nil => exact absurd rfl hne
  | cons c ds =>
    have htail : ∀ c ∈ ds, c.isDigit = true := fun c hc => hds c (.tail _ hc)
    have htake : s.takeWhile Char.isDigit = [] := by cases s <;> simp_all
    rw [List.cons_append, digits, if_pos (hds c (.head _)), List.takeWhile_append_of_pos htail,
      List.dropWhile_append_of_pos htail, Text.dropWhile_eq_self hs, htake, List.append_nil]

theorem exists_digit (n : Nat) :
    ∃ c ds, Nat.toDigits 10 n = c :: ds ∧ c.isDigit = true := by
  obtain ⟨c, ds, h⟩ := List.exists_cons_of_ne_nil (Nat.toDigits_ne_nil (n := n) (b := 10))
  have hc : c ∈ Nat.toDigits 10 n := h ▸ List.mem_cons_self
  exact ⟨c, ds, h, Nat.isDigit_of_mem_toDigits (by decide) (by decide) hc⟩

/-- Only the numeral of zero starts with a zero. -/
theorem eq_zero_of_head?_toDigits {n : Nat} (h : (Nat.toDigits 10 n).head? = some '0') : n = 0 := by
  induction n using Nat.strongRecOn with
  | ind n ih =>
    rw [Nat.toDigits_eq_if (by decide)] at h
    split at h
    · have hall : ∀ n < 10, Nat.digitChar n = '0' → n = 0 := by decide
      exact hall n (by assumption) (Option.some.inj h)
    · obtain ⟨c, ds, hds, -⟩ := exists_digit (n / 10)
      have hzero : n / 10 = 0 := ih (n / 10) (by omega) (by rw [hds] at h ⊢; exact h)
      omega

theorem wholeDigits_toDigits {onEnd : JsonFault} (n : Nat) {s : List Char}
    (hs : ∀ c ∈ s.head?, c.isDigit = false) :
    wholeDigits onEnd (Nat.toDigits 10 n ++ s) = .ok (Nat.toDigits 10 n, s) := by
  have hds : ∀ c ∈ Nat.toDigits 10 n, c.isDigit = true :=
    fun c hc => Nat.isDigit_of_mem_toDigits (by decide) (by decide) hc
  rw [wholeDigits, digits_append Nat.toDigits_ne_nil hds hs]
  split
  · rename_i h
    cases h
  · rename_i h
    simp only [Except.ok.injEq, Prod.mk.injEq] at h
    have hn : n = 0 := eq_zero_of_head?_toDigits (by rw [h.1]; rfl)
    subst hn
    cases h.1
  · rename_i h
    exact h.symm

theorem ne_of_isDigit {c : Char} (hc : c.isDigit = true) (d : Char) (hd : d.isDigit = false) :
    c ≠ d := by
  rintro rfl
  rw [hc] at hd
  cases hd

theorem digitsValue_toDigits (n : Nat) : digitsValue (Nat.toDigits 10 n) = n := by
  have h : digitsValue (Nat.toDigits 10 n) = Nat.ofDigitChars 10 (Nat.toDigits 10 n) 0 := by
    simp only [digitsValue, Nat.ofDigitChars, Nat.mul_comm]
  rw [h, Nat.ofDigitChars_ten_toDigits]

/-! ## Turns between printed parts -/

open Json

/-- Whether a character can start a value or a member: it is no blank and closes nothing. -/
def isStart (c : Char) : Bool := !isSpace c && c != ']' && c != '\x7d'

/-- The text starts with a value or a member. -/
def Starts (s : List Char) : Prop := ∃ c rest, s = c :: rest ∧ isStart c = true

theorem isStart_of_isDigit {c : Char} (h : c.isDigit = true) : isStart c = true := by
  simp [isStart, isSpace, ne_of_isDigit h]

theorem starts_quote (text : String) (s : List Char) : Starts ((quote text).toList ++ s) :=
  ⟨'"', _, toList_quote_append text s, by decide⟩

theorem skipSpaces_cons {c : Char} (h : isSpace c = false) (s : List Char) :
    skipSpaces (c :: s) = c :: s :=
  List.dropWhile_cons_of_neg (by simp [h])

theorem Starts.append {s : List Char} (h : Starts s) (t : List Char) : Starts (s ++ t) := by
  obtain ⟨c, rest, rfl, hc⟩ := h
  exact ⟨c, rest ++ t, rfl, hc⟩

theorem Starts.skipSpaces_eq {s : List Char} (h : Starts s) : skipSpaces s = s := by
  obtain ⟨c, rest, rfl, hc⟩ := h
  refine skipSpaces_cons ?_ rest
  simp only [isStart] at hc
  grind

/-- Blanks only. -/
def Blanks (b : List Char) : Prop := ∀ c ∈ b, isSpace c = true

instance (b : List Char) : Decidable (Blanks b) :=
  decidable_of_iff (b.all isSpace = true) List.all_eq_true

theorem skipSpaces_append {b : List Char} (hb : Blanks b) (s : List Char) :
    skipSpaces (b ++ s) = skipSpaces s :=
  List.dropWhile_append_of_pos hb

theorem toList_newLine (depth : Nat) :
    (newLine depth).toList = '\n' :: List.replicate (2 * depth) ' ' := by
  simp [newLine]

theorem blanks_newLine (depth : Nat) : Blanks (newLine depth).toList := by
  intro c hc
  rw [toList_newLine, List.mem_cons, List.mem_replicate] at hc
  rcases hc with rfl | ⟨-, rfl⟩
  · rfl
  · rfl

section
variable {close : Char} {first : Bool} {b s : List Char}

theorem turn_append (hb : Blanks b) (s : List Char) :
    turn close first (b ++ s) = turn close first s := by
  rw [turn, turn, skipSpaces_append hb]

theorem turn_close (hb : Blanks b) (h : isSpace close = false) (s : List Char) :
    turn close first (b ++ close :: s) = .ok (.stop s) := by
  rw [turn_append hb, turn, skipSpaces_cons h]
  exact if_pos rfl

theorem turn_first (hb : Blanks b) (hclose : isStart close = false) (h : Starts s) :
    turn close true (b ++ s) = .ok (.item s) := by
  rw [turn_append hb, turn, h.skipSpaces_eq]
  obtain ⟨c, rest, rfl, hc⟩ := h
  have hne : c ≠ close := ne_of_apply_ne isStart (by simp [hc, hclose])
  simp only [hne, if_false, if_true]

theorem turn_next (hb : Blanks b) (hclose : isStart close = false) (h : Starts s) :
    turn close false (',' :: (b ++ s)) = .ok (.item s) := by
  have hcomma : ',' ≠ close := ne_of_apply_ne isStart (by rw [hclose]; decide)
  have hs := h.skipSpaces_eq
  obtain ⟨c, rest, rfl, hc⟩ := h
  have hne : c ≠ close := ne_of_apply_ne isStart (by simp [hc, hclose])
  rw [turn, skipSpaces_cons (by decide)]
  simp only [skipSpaces_append hb, hs, hne, hcomma, if_false, if_true, Bool.false_eq_true]

end

theorem string_append {b : List Char} (hb : Blanks b) (text : String) (s : List Char) :
    string (b ++ ((quote text).toList ++ s)) = .ok (text.toList, s) := by
  rw [toList_quote_append, string, skipSpaces_append hb, skipSpaces_cons (by decide)]
  exact stringBody_quoted text.toList s

theorem string_quote (text : String) (s : List Char) :
    string ((quote text).toList ++ s) = .ok (text.toList, s) := by
  have h := string_append (b := []) (by decide) text s
  rwa [List.nil_append] at h

theorem key_quote (text : String) (s : List Char) :
    key ((quote text).toList ++ s) = .ok (text.toList, s) := by
  rw [toList_quote_append]
  exact stringBody_quoted text.toList s

theorem memberKey_quote (key : String) (s : List Char) :
    memberKey ((quote key).toList ++ ':' :: s) = .ok (key, s) := by
  have hcolon : colon (':' :: s) = .ok s := rfl
  rw [memberKey, key_quote]
  simp only [hcolon, Except.map, String.ofList_toList]

/-! ## Printed values -/

section
variable (depth : Nat) (s : List Char)

theorem toList_null : (prettyAt depth .null).toList ++ s = 'n' :: 'u' :: 'l' :: 'l' :: s := by
  simp [prettyAt]

theorem toList_number (n : Nat) :
    (prettyAt depth (.number n)).toList ++ s = Nat.toDigits 10 n ++ s := by
  rw [prettyAt, Nat.toString_eq_ofList_toDigits, String.toList_ofList]

theorem toList_list_nil : (prettyAt depth (.list [])).toList ++ s = '[' :: ']' :: s := by
  simp [prettyAt]

theorem toList_list (item : Json) (items : List Json) :
    (prettyAt depth (.list (item :: items))).toList ++ s =
      '[' :: ((newLine (depth + 1)).toList ++ ((prettyAt (depth + 1) item).toList ++
        ((prettyItems (depth + 1) items).toList ++ ((newLine depth).toList ++ ']' :: s)))) := by
  simp [prettyAt]

theorem toList_object_nil : (prettyAt depth (.object [])).toList ++ s = '\x7b' :: '\x7d' :: s := by
  simp [prettyAt]

theorem toList_object (key : String) (v : Json) (members : List (String × Json)) :
    (prettyAt depth (.object ((key, v) :: members))).toList ++ s =
      '\x7b' :: ((newLine (depth + 1)).toList ++ ((quote key).toList ++ ':' :: ' ' ::
        ((prettyAt (depth + 1) v).toList ++ ((prettyMembers (depth + 1) members).toList ++
          ((newLine depth).toList ++ '\x7d' :: s))))) := by
  simp [prettyAt]

theorem toList_prettyItems (item : Json) (items : List Json) :
    (prettyItems depth (item :: items)).toList ++ s =
      ',' :: ((newLine depth).toList ++ ((prettyAt depth item).toList ++
        ((prettyItems depth items).toList ++ s))) := by
  simp [prettyItems]

theorem toList_prettyMembers (key : String) (v : Json) (members : List (String × Json)) :
    (prettyMembers depth ((key, v) :: members)).toList ++ s =
      ',' :: ((newLine depth).toList ++ ((quote key).toList ++ ':' :: ' ' ::
        ((prettyAt depth v).toList ++ ((prettyMembers depth members).toList ++ s)))) := by
  simp [prettyMembers]

theorem starts_prettyAt (j : Json) : Starts ((prettyAt depth j).toList ++ s) := by
  match j with
  | .null => exact ⟨'n', _, toList_null depth s, by decide⟩
  | .number n =>
    obtain ⟨c, ds, hds, hc⟩ := exists_digit n
    refine ⟨c, ds ++ s, ?_, isStart_of_isDigit hc⟩
    rw [toList_number, hds, List.cons_append]
  | .text t =>
    rw [prettyAt]
    exact starts_quote t s
  | .list [] => exact ⟨'[', _, toList_list_nil depth s, by decide⟩
  | .list (item :: items) => exact ⟨'[', _, toList_list depth s item items, by decide⟩
  | .object [] => exact ⟨'\x7b', _, toList_object_nil depth s, by decide⟩
  | .object ((key, v) :: members) =>
    exact ⟨'\x7b', _, toList_object depth s key v members, by decide⟩

end

/-- What follows a part of a list or an object is no digit, so a numeral ends there. -/
theorem isDigit_prettyItems (depth outer : Nat) (items : List Json) (s : List Char) :
    ∀ c ∈ ((prettyItems depth items).toList ++ ((newLine outer).toList ++ s)).head?,
      c.isDigit = false := by
  cases items with
  | nil => simp [prettyItems, toList_newLine]
  | cons item items => simp [toList_prettyItems]

theorem isDigit_prettyMembers (depth outer : Nat) (members : List (String × Json))
    (s : List Char) :
    ∀ c ∈ ((prettyMembers depth members).toList ++ ((newLine outer).toList ++ s)).head?,
      c.isDigit = false := by
  cases members with
  | nil => simp [prettyMembers, toList_newLine]
  | cons member members => simp [toList_prettyMembers depth _ member.1 member.2 members]

section
variable {stack : List Open} {s : List Char}

theorem value_space : value stack (' ' :: s) = value stack s := by
  rw [value, value.eq_def stack s]
  rfl

theorem value_number (depth n : Nat) (hs : ∀ c ∈ s.head?, c.isDigit = false) :
    value stack ((prettyAt depth (.number n)).toList ++ s) = after stack (.number n) s := by
  obtain ⟨c, ds, hds, hc⟩ := exists_digit n
  have hne : ∀ d : Char, d.isDigit = false → c ≠ d := ne_of_isDigit hc
  have hscalar : scalar (c :: (ds ++ s)) = .ok (.number n, s) := by
    rw [scalar, if_neg (hne _ (by decide)), if_neg (hne _ (by decide)), ← List.cons_append, ← hds,
      wholeDigits_toDigits n hs]
    simp only [Except.map, digitsValue_toDigits]
  rw [toList_number, hds, List.cons_append]
  exact value_of_scalar (skipSpaces_cons (by simp [isSpace, hne]) _) (hne _ (by decide))
    (hne _ (by decide)) hscalar

theorem value_text (depth : Nat) (t : String) :
    value stack ((prettyAt depth (.text t)).toList ++ s) = after stack (.text t) s := by
  have hscalar : scalar ((quote t).toList ++ s) = .ok (.text t, s) := by
    rw [toList_quote_append, scalar, if_pos rfl, stringBody_quoted]
    simp only [Except.map, String.ofList_toList]
  rw [prettyAt]
  rw [toList_quote_append] at hscalar ⊢
  exact value_of_scalar rfl (by decide) (by decide) hscalar

theorem value_list (depth : Nat) (item : Json) (items : List Json) :
    value stack ((prettyAt depth (.list (item :: items))).toList ++ s) =
      value (.list [] :: stack) ((prettyAt (depth + 1) item).toList ++
        ((prettyItems (depth + 1) items).toList ++ ((newLine depth).toList ++ ']' :: s))) := by
  rw [toList_list]
  exact value_of_list_item (skipSpaces_cons (by decide) _)
    (turn_first (blanks_newLine _) (by decide) (starts_prettyAt _ _ item))

theorem value_object (depth : Nat) (key : String) (v : Json) (members : List (String × Json)) :
    value stack ((prettyAt depth (.object ((key, v) :: members))).toList ++ s) =
      value (.object [] key :: stack) ((prettyAt (depth + 1) v).toList ++
        ((prettyMembers (depth + 1) members).toList ++
          ((newLine depth).toList ++ '\x7d' :: s))) := by
  rw [toList_object]
  refine (value_of_object_item (skipSpaces_cons (by decide) _) ?_ (memberKey_quote key _)).trans
    value_space
  exact turn_first (blanks_newLine _) (by decide) (starts_quote key _)

theorem after_item (depth : Nat) (before items : List Json) (v item : Json) :
    after (.list before :: stack) v ((prettyItems depth (item :: items)).toList ++ s) =
      value (.list (before ++ [v]) :: stack) ((prettyAt depth item).toList ++
        ((prettyItems depth items).toList ++ s)) := by
  rw [toList_prettyItems]
  exact after_of_list_item (turn_next (blanks_newLine _) (by decide) (starts_prettyAt _ _ item))

theorem after_member (depth : Nat) (before members : List (String × Json)) (key next : String)
    (v w : Json) :
    after (.object before key :: stack) v
        ((prettyMembers depth ((next, w) :: members)).toList ++ s) =
      value (.object (before ++ [(key, v)]) next :: stack) ((prettyAt depth w).toList ++
        ((prettyMembers depth members).toList ++ s)) := by
  rw [toList_prettyMembers]
  refine (after_of_object_item ?_ (memberKey_quote next _)).trans value_space
  exact turn_next (blanks_newLine _) (by decide) (starts_quote next _)

end

mutual

/-- The reader gets from a printed value to what follows it, with that value in hand. -/
theorem value_prettyAt (depth : Nat) (j : Json) (stack : List Open) (s : List Char)
    (hs : ∀ c ∈ s.head?, c.isDigit = false) :
    value stack ((prettyAt depth j).toList ++ s) = after stack j s := by
  -- for any stack, so that the parts of a list or an object are read inside it
  match j with
  | .null =>
    rw [toList_null]
    exact value_of_scalar rfl (by decide) (by decide) rfl
  | .number n => exact value_number depth n hs
  | .text t => exact value_text depth t
  | .list [] =>
    rw [toList_list_nil]
    exact value_of_list_stop rfl rfl
  | .list (item :: items) =>
    rw [value_list, value_prettyAt (depth + 1) item _ _ (isDigit_prettyItems _ _ _ _),
      after_prettyItems (depth + 1) items, List.nil_append]
  | .object [] =>
    rw [toList_object_nil]
    exact value_of_object_stop rfl rfl
  | .object ((key, v) :: members) =>
    rw [value_object, value_prettyAt (depth + 1) v _ _ (isDigit_prettyMembers _ _ _ _),
      after_prettyMembers (depth + 1) members, List.nil_append]

/-- After an item, the reader gets through the items that follow to the end of the list. -/
theorem after_prettyItems (depth : Nat) (items : List Json) (outer : Nat) (before : List Json)
    (v : Json) (stack : List Open) (s : List Char) :
    after (.list before :: stack) v
        ((prettyItems depth items).toList ++ ((newLine outer).toList ++ ']' :: s)) =
      after stack (.list (before ++ v :: items)) s := by
  match items with
  | [] =>
    rw [prettyItems]
    exact after_of_stop (turn_close (blanks_newLine outer) rfl s)
  | item :: items =>
    rw [after_item, value_prettyAt depth item _ _ (isDigit_prettyItems _ _ _ _),
      after_prettyItems depth items, List.append_assoc, List.singleton_append]

/-- After a value, the reader gets through the members that follow to the end of the object. -/
theorem after_prettyMembers (depth : Nat) (members : List (String × Json)) (outer : Nat)
    (before : List (String × Json)) (key : String) (v : Json) (stack : List Open)
    (s : List Char) :
    after (.object before key :: stack) v
        ((prettyMembers depth members).toList ++ ((newLine outer).toList ++ '\x7d' :: s)) =
      after stack (.object (before ++ (key, v) :: members)) s := by
  match members with
  | [] =>
    rw [prettyMembers]
    exact after_of_stop (turn_close (blanks_newLine outer) rfl s)
  | (next, w) :: members =>
    rw [after_member, value_prettyAt depth w _ _ (isDigit_prettyMembers _ _ _ _),
      after_prettyMembers depth members, List.append_assoc, List.singleton_append]

end

/-- The value of a text that has nothing else. -/
def read (s : List Char) : Except JsonFault Json :=
  match value [] s with
  | .error fault => .error fault
  | .ok (v, rest) => if (skipSpaces rest).isEmpty then .ok v else .error .malformed

theorem read_pretty (j : Json) : read j.pretty.toList = .ok j := by
  have hvalue := value_prettyAt 0 j [] [] (by simp)
  rw [List.append_nil] at hvalue
  rw [read, Json.pretty, hvalue, after]
  rfl

end TreeSchema.JsonText
