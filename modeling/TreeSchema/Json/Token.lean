import TreeSchema.Error
import TreeSchema.Text.Lines
/-!
# JSON texts: tokens

A JSON text is read once, from front to back, and the first problem decides which fault is reported.
Each reader takes the text that is left and returns what it read with the text after it. This file
has the readers for strings, numerals and the literal names.

The `_shrinks` lemmas say that a reader consumes something; the recursions over items end by them.
-/
namespace TreeSchema.JsonText

/-- The blanks between the tokens of a JSON text. -/
def isSpace (c : Char) : Bool := c == ' ' || c == '\t' || c == '\n' || c == '\r'

def skipSpaces (s : List Char) : List Char := s.dropWhile isSpace

theorem length_dropWhile_le (p : Char → Bool) (s : List Char) : (s.dropWhile p).length ≤ s.length :=
  (List.dropWhile_sublist p).length_le

theorem length_skipSpaces_le (s : List Char) : (skipSpaces s).length ≤ s.length :=
  length_dropWhile_le isSpace s

/-! ## Strings -/

/-- The value of a hexadecimal digit. -/
def hexValue? (c : Char) : Option Nat :=
  if c.isDigit then some (c.toNat - '0'.toNat)
  else if 'a' ≤ c && c ≤ 'f' then some (c.toNat - 'a'.toNat + 10)
  else if 'A' ≤ c && c ≤ 'F' then some (c.toNat - 'A'.toNat + 10)
  else none

/-- The number that four digits after `\u` stand for. A text that is over before four bytes of it
are read is truncated. -/
def hexUnit (s : List Char) : Except JsonFault (Nat × List Char) :=
  match s with
  | a :: b :: c :: d :: rest =>
    match hexValue? a, hexValue? b, hexValue? c, hexValue? d with
    | some a, some b, some c, some d => .ok (((a * 16 + b) * 16 + c) * 16 + d, rest)
    | _, _, _, _ => .error .malformed
  | _ => .error (if Text.byteLength s < 4 then .truncated else .malformed)

theorem hexUnit_shrinks {s rest : List Char} {n : Nat} (h : hexUnit s = .ok (n, rest)) :
    rest.length < s.length := by
  unfold hexUnit at h
  split at h
  · split at h
    · cases h; simp only [List.length_cons]; omega
    · cases h
  · cases h

/-- What the letter after a backslash stands for, `u` apart. -/
def shortEscape? (c : Char) : Option Char :=
  if c = '"' ∨ c = '\\' ∨ c = '/' then some c
  else if c = 'b' then some '\x08'
  else if c = 'f' then some '\x0c'
  else if c = 'n' then some '\n'
  else if c = 'r' then some '\r'
  else if c = 't' then some '\t'
  else none

/-- The second half of a pair of units for a character beyond U+FFFF. -/
def trailingUnit (s : List Char) : Except JsonFault (Nat × List Char) :=
  match s with
  | [] => .error .truncated
  | ['\\'] => .error .truncated
  | '\\' :: 'u' :: s =>
    match hexUnit s with
    | .error fault => .error fault
    | .ok (n, rest) => if 0xDC00 ≤ n ∧ n ≤ 0xDFFF then .ok (n, rest) else .error .malformed
  | _ => .error .malformed

/-- The character that an escape stands for, read after its backslash. A half of a pair of units
does not stand alone. -/
def escape (s : List Char) : Except JsonFault (Char × List Char) :=
  match s with
  | [] => .error .truncated
  | 'u' :: s =>
    match hexUnit s with
    | .error fault => .error fault
    | .ok (n, rest) =>
      if 0xDC00 ≤ n ∧ n ≤ 0xDFFF then .error .malformed
      else if 0xD800 ≤ n ∧ n ≤ 0xDBFF then
        match trailingUnit rest with
        | .error fault => .error fault
        | .ok (m, rest) => .ok (Char.ofNat (0x10000 + (n - 0xD800) * 0x400 + (m - 0xDC00)), rest)
      else .ok (Char.ofNat n, rest)
  | c :: s =>
    match shortEscape? c with
    | some d => .ok (d, s)
    | none => .error .malformed

/-- An escape whose character does not matter, so that a half of a pair of units may stand alone. -/
def skipEscape (s : List Char) : Except JsonFault (List Char) :=
  match s with
  | [] => .error .truncated
  | 'u' :: s =>
    match hexUnit s with
    | .error fault => .error fault
    | .ok (_, rest) => .ok rest
  | c :: s => if (shortEscape? c).isSome then .ok s else .error .malformed

theorem trailingUnit_shrinks {s rest : List Char} {n : Nat} (h : trailingUnit s = .ok (n, rest)) :
    rest.length < s.length := by
  unfold trailingUnit at h
  grind [→ hexUnit_shrinks]

theorem escape_shrinks {s rest : List Char} {c : Char} (h : escape s = .ok (c, rest)) :
    rest.length < s.length := by
  unfold escape at h
  grind [→ hexUnit_shrinks, → trailingUnit_shrinks]

theorem skipEscape_shrinks {s rest : List Char} (h : skipEscape s = .ok rest) :
    rest.length < s.length := by
  unfold skipEscape at h
  grind [→ hexUnit_shrinks]

/-- The rest of a string after its opening quote. -/
def stringBody (s : List Char) : Except JsonFault (List Char × List Char) :=
  match s with
  | [] => .error .truncated
  | c :: s =>
    if c = '"' then .ok ([], s)
    else if c = '\\' then
      match _h : escape s with
      | .error fault => .error fault
      | .ok (d, rest) => (stringBody rest).map fun (text, rest) => (d :: text, rest)
    else if c.toNat < 0x20 then .error .malformed
    else (stringBody s).map fun (text, rest) => (c :: text, rest)
termination_by s.length
decreasing_by
  · have := escape_shrinks _h
    simp only [List.length_cons]; omega
  · simp

/-- The rest of a string whose text does not matter. -/
def skipStringBody (s : List Char) : Except JsonFault (List Char) :=
  match s with
  | [] => .error .truncated
  | c :: s =>
    if c = '"' then .ok s
    else if c = '\\' then
      match _h : skipEscape s with
      | .error fault => .error fault
      | .ok rest => skipStringBody rest
    else if c.toNat < 0x20 then .error .malformed
    else skipStringBody s
termination_by s.length
decreasing_by
  · have := skipEscape_shrinks _h
    simp only [List.length_cons]; omega
  · simp

theorem stringBody_shrinks {s text rest : List Char} (h : stringBody s = .ok (text, rest)) :
    rest.length < s.length := by
  fun_induction stringBody s generalizing text with
  | case1 => cases h
  | case2 => cases h; simp
  | case3 => cases h
  | case4 s d r he _ ih =>
    have := escape_shrinks he
    cases hr : stringBody r with
    | error e => simp [hr, Except.map] at h
    | ok p =>
      simp only [hr, Except.map, Except.ok.injEq, Prod.mk.injEq] at h
      have := ih (show stringBody r = .ok (p.1, rest) by rw [hr, ← h.2])
      simp only [List.length_cons]; omega
  | case5 => cases h
  | case6 c s _ _ _ ih =>
    cases hr : stringBody s with
    | error e => simp [hr, Except.map] at h
    | ok p =>
      simp only [hr, Except.map, Except.ok.injEq, Prod.mk.injEq] at h
      have := ih (show stringBody s = .ok (p.1, rest) by rw [hr, ← h.2])
      simp only [List.length_cons]; omega

theorem skipStringBody_shrinks {s rest : List Char} (h : skipStringBody s = .ok rest) :
    rest.length < s.length := by
  fun_induction skipStringBody s with
  | case1 => cases h
  | case2 => cases h; simp
  | case3 => cases h
  | case4 s r he _ ih =>
    have := skipEscape_shrinks he
    have := ih h
    simp only [List.length_cons]; omega
  | case5 => cases h
  | case6 c s _ _ _ ih =>
    have := ih h
    simp only [List.length_cons]; omega

/-! ## Numerals and literal names -/

/-- A numeral without its sign: `significand` times ten to the power `exponent`. The significand
keeps as many digits as 64 bits hold. -/
structure Numeral where
  significand : Nat
  exponent : Int
deriving DecidableEq, Repr

/-- Whether a numeral is too large for a double: it would be infinite. -/
def Numeral.isHuge (n : Numeral) : Bool :=
  if n.significand = 0 || n.exponent < 0 then false
  else if 308 < n.exponent then true
  else
    ((UInt64.ofNat n.significand).toFloat * Float.ofScientific 1 false n.exponent.toNat).isInf

/-- Appends digits to a significand while it stays within 64 bits. Returns it with the digits that
are left. -/
def appendDigits (m : Nat) : List Char → Nat × List Char
  | [] => (m, [])
  | c :: ds =>
    let next := m * 10 + (c.toNat - '0'.toNat)
    if next < 2 ^ 64 then appendDigits next ds else (m, c :: ds)

/-- The numeral with the given digits before and after the point and the given power of ten. -/
def Numeral.ofDigits (whole fraction : List Char) (power : Int) : Numeral :=
  let (m, wholeLeft) := appendDigits 0 whole
  let (n, fractionLeft) := appendDigits m fraction
  ⟨n, power + wholeLeft.length - (fraction.length - fractionLeft.length : Nat)⟩

/-- At least one digit. `onEnd` is the fault of a text that is over. -/
def digits (onEnd : JsonFault) (s : List Char) : Except JsonFault (List Char × List Char) :=
  match s with
  | [] => .error onEnd
  | c :: rest =>
    if c.isDigit then .ok (c :: rest.takeWhile Char.isDigit, rest.dropWhile Char.isDigit)
    else .error .malformed

/-- The digits before the point. A zero stands alone. -/
def wholeDigits (onEnd : JsonFault) (s : List Char) : Except JsonFault (List Char × List Char) :=
  match digits onEnd s with
  | .error fault => .error fault
  | .ok ('0' :: _ :: _, _) => .error .malformed
  | .ok (ds, rest) => .ok (ds, rest)

/-- The digits after the point, if there is one. -/
def fractionDigits (onEnd : JsonFault) (s : List Char) : Except JsonFault (List Char × List Char) :=
  match s with
  | '.' :: rest => digits onEnd rest
  | _ => .ok ([], s)

def digitsValue (ds : List Char) : Nat := ds.foldl (fun n c => n * 10 + (c.toNat - '0'.toNat)) 0

/-- The power of ten after an `e`, if there is one. -/
def powerOfTen (onEnd : JsonFault) (s : List Char) : Except JsonFault (Int × List Char) :=
  match s with
  | [] => .ok (0, s)
  | c :: rest =>
    if c = 'e' ∨ c = 'E' then
      let unsigned := if rest.head? = some '-' ∨ rest.head? = some '+' then rest.drop 1 else rest
      match digits onEnd unsigned with
      | .error fault => .error fault
      | .ok (ds, after) =>
        let power : Int := digitsValue ds
        .ok (if rest.head? = some '-' then -power else power, after)
    else .ok (0, s)

/-- A numeral without its sign. -/
def numeral (onEnd : JsonFault) (s : List Char) : Except JsonFault (Numeral × List Char) :=
  match wholeDigits onEnd s with
  | .error fault => .error fault
  | .ok (whole, rest) =>
    match fractionDigits onEnd rest with
    | .error fault => .error fault
    | .ok (fraction, rest) =>
      match powerOfTen onEnd rest with
      | .error fault => .error fault
      | .ok (power, rest) =>
        .ok (.ofDigits whole fraction power, rest)

/-- The given letters. -/
def letters : List Char → List Char → Except JsonFault (List Char)
  | [], s => .ok s
  | _ :: _, [] => .error .truncated
  | e :: expected, c :: s => if c = e then letters expected s else .error .malformed

theorem digits_shrinks {onEnd : JsonFault} {s ds rest : List Char}
    (h : digits onEnd s = .ok (ds, rest)) : rest.length < s.length := by
  unfold digits at h
  grind [length_dropWhile_le]

theorem numeral_shrinks {onEnd : JsonFault} {s rest : List Char} {n : Numeral}
    (h : numeral onEnd s = .ok (n, rest)) : rest.length < s.length := by
  have hw {s ds rest} (h : wholeDigits onEnd s = .ok (ds, rest)) : rest.length < s.length := by
    unfold wholeDigits at h
    grind [→ digits_shrinks]
  have hf {s ds rest} (h : fractionDigits onEnd s = .ok (ds, rest)) : rest.length ≤ s.length := by
    unfold fractionDigits at h
    grind [→ digits_shrinks]
  have hp {s power rest} (h : powerOfTen onEnd s = .ok (power, rest)) : rest.length ≤ s.length := by
    unfold powerOfTen at h
    grind [→ digits_shrinks]
  unfold numeral at h
  grind

theorem letters_length_le {expected s rest : List Char} (h : letters expected s = .ok rest) :
    rest.length ≤ s.length := by
  fun_induction letters expected s <;> grind

theorem letters_append (expected s : List Char) : letters expected (expected ++ s) = .ok s := by
  induction expected with
  | nil => rfl
  | cons c expected ih => rw [List.cons_append, letters, if_pos rfl, ih]

/-- The letters of `null`, `true` and `false` after the first one. -/
def literalTail? (c : Char) : Option (List Char) :=
  if c = 'n' then some ['u', 'l', 'l']
  else if c = 't' then some ['r', 'u', 'e']
  else if c = 'f' then some ['a', 'l', 's', 'e']
  else none

end TreeSchema.JsonText
