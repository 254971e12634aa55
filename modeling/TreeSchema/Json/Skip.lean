import TreeSchema.Json.StringValue
/-!
# JSON texts: values that do not matter

A value that does not matter must still be JSON. It may nest to any depth: the brackets that are
open are kept in a list, and reading goes on until it is empty.
-/
namespace TreeSchema.JsonText

inductive Bracket where
  | list
  | object
deriving DecidableEq, Repr

def Bracket.close : Bracket → Char
  | .list => ']'
  | .object => '\x7d'

/-- Skips a numeral of any size. One that stops short is no numeral. -/
def skipNumeral (s : List Char) : Except JsonFault (List Char) :=
  match numeral .malformed s with
  | .error fault => .error fault
  | .ok (_, rest) => .ok rest

/-- Skips a value without parts. -/
def skipScalar (s : List Char) : Except JsonFault (List Char) :=
  match s with
  | [] => .error .truncated
  | c :: rest =>
    if c = '"' then skipStringBody rest
    else if c = '-' then skipNumeral rest
    else if c.isDigit then skipNumeral s
    else
      match literalTail? c with
      | some tail => letters tail rest
      | none => .error .malformed

/-- Skips the key of a member and the colon after it. -/
def skipKey (s : List Char) : Except JsonFault (List Char) :=
  match skipSpaces s with
  | [] => .error .truncated
  | c :: rest =>
    if c = '"' then
      match skipStringBody rest with
      | .ok rest => colon rest
      | .error fault => .error fault
    else .error .malformed

theorem skipScalar_shrinks {s rest : List Char} (h : skipScalar s = .ok rest) :
    rest.length < s.length := by
  have hn {s rest} (h : skipNumeral s = .ok rest) : rest.length < s.length := by
    unfold skipNumeral at h
    grind [→ numeral_shrinks]
  unfold skipScalar at h
  grind [→ skipStringBody_shrinks, → letters_length_le]

theorem skipKey_shrinks {s rest : List Char} (h : skipKey s = .ok rest) :
    rest.length < s.length := by
  unfold skipKey at h
  have := length_skipSpaces_le s
  grind [→ skipStringBody_shrinks, → colon_shrinks]

mutual

/-- Skips a value inside the brackets that are open, and what follows it up to their end. -/
def skipValue (stack : List Bracket) (s : List Char) : Except JsonFault (List Char) :=
  match _hs : skipSpaces s with
  | [] => .error .truncated
  | '[' :: rest =>
    match _hr : skipSpaces rest with
    | ']' :: rest => skipRest stack rest
    | _ => skipValue (.list :: stack) rest
  | '\x7b' :: rest =>
    match _hr : skipSpaces rest with
    | '\x7d' :: rest => skipRest stack rest
    | _ =>
      match _hk : skipKey rest with
      | .error fault => .error fault
      | .ok rest => skipValue (.object :: stack) rest
  | c :: rest =>
    match _hk : skipScalar (c :: rest) with
    | .error fault => .error fault
    | .ok rest => skipRest stack rest
termination_by s.length
decreasing_by
  all_goals
    have := length_skipSpaces_le s
    grind [→ skipKey_shrinks, → skipScalar_shrinks, length_skipSpaces_le]

/-- Skips what follows a value up to the end of the brackets that are open. -/
def skipRest (stack : List Bracket) (s : List Char) : Except JsonFault (List Char) :=
  match stack with
  | [] => .ok s
  | bracket :: outer =>
    match _hs : skipSpaces s with
    | [] => .error .truncated
    | ',' :: rest =>
      match bracket with
      | .list => skipValue (bracket :: outer) rest
      | .object =>
        match _hk : skipKey rest with
        | .error fault => .error fault
        | .ok rest => skipValue (bracket :: outer) rest
    | c :: rest => if c = bracket.close then skipRest outer rest else .error .malformed
termination_by s.length
decreasing_by
  all_goals
    have := length_skipSpaces_le s
    grind [→ skipKey_shrinks, length_skipSpaces_le]

end

/-- Skips one value of any shape and depth. -/
def skip (s : List Char) : Except JsonFault (List Char) := skipValue [] s

mutual

theorem skipValue_length_le {stack : List Bracket} {s rest : List Char}
    (h : skipValue stack s = .ok rest) : rest.length ≤ s.length := by
  have hs := length_skipSpaces_le s
  rw [skipValue] at h
  split at h
  · cases h
  · rename_i r hr
    have hlt : r.length < s.length := by rw [hr, List.length_cons] at hs; omega
    have hr := length_skipSpaces_le r
    split at h
    · rename_i r' hc
      have hlt' : r'.length < s.length := by rw [hc, List.length_cons] at hr; omega
      have := skipRest_length_le h
      omega
    · have := skipValue_length_le h
      omega
  · rename_i r hr
    have hlt : r.length < s.length := by rw [hr, List.length_cons] at hs; omega
    have hr := length_skipSpaces_le r
    split at h
    · rename_i r' hc
      have hlt' : r'.length < s.length := by rw [hc, List.length_cons] at hr; omega
      have := skipRest_length_le h
      omega
    · split at h
      · cases h
      · rename_i r' hk
        have hlt' : r'.length < s.length := by have := skipKey_shrinks hk; omega
        have := skipValue_length_le h
        omega
  · rename_i c r _ _ hr
    split at h
    · cases h
    · rename_i r' hk
      have hlt : r'.length < s.length := by
        have := skipScalar_shrinks hk
        rw [hr] at hs; omega
      have := skipRest_length_le h
      omega
termination_by s.length

theorem skipRest_length_le {stack : List Bracket} {s rest : List Char}
    (h : skipRest stack s = .ok rest) : rest.length ≤ s.length := by
  have hs := length_skipSpaces_le s
  rw [skipRest.eq_def] at h
  split at h
  · cases h; exact Nat.le_refl _
  · split at h
    · cases h
    · rename_i r hr
      have hlt : r.length < s.length := by rw [hr, List.length_cons] at hs; omega
      split at h
      · have := skipValue_length_le h
        omega
      · split at h
        · cases h
        · rename_i r' hk
          have hlt' : r'.length < s.length := by have := skipKey_shrinks hk; omega
          have := skipValue_length_le h
          omega
    · rename_i c r _ hr
      have hlt : r.length < s.length := by rw [hr, List.length_cons] at hs; omega
      split at h
      · have := skipRest_length_le h
        omega
      · cases h
termination_by s.length

end

end TreeSchema.JsonText
