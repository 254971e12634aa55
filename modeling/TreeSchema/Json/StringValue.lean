import TreeSchema.Entries
import TreeSchema.Json.Token
/-!
# JSON texts: values of a given shape

Settings are made of strings, lists of strings, and objects with strings under their keys. A value
of another shape is refused with the fault that `wrongValue` finds in it.
-/
namespace TreeSchema.JsonText

/-- The fault of a value that is not of the shape that is wanted. A value without parts is read
first, and a list or an object is refused at its bracket. -/
def wrongValue (s : List Char) : JsonFault :=
  match skipSpaces s with
  | [] => .truncated
  | c :: s =>
    if c = '[' ∨ c = '\x7b' then .mismatched
    else if c = '"' then faultOf (stringBody s)
    else if c = '-' then numeralFault s
    else if c.isDigit then numeralFault (c :: s)
    else
      match literalTail? c with
      | some tail => faultOf (letters tail s)
      | none => .malformed
where
  faultOf {α : Type} (x : Except JsonFault α) : JsonFault :=
    match x with
    | .ok _ => .mismatched
    | .error fault => fault
  numeralFault (s : List Char) : JsonFault :=
    match numeral .truncated s with
    | .ok (n, _) => if n.isHuge then .malformed else .mismatched
    | .error fault => fault

/-- A string. -/
def string (s : List Char) : Except JsonFault (List Char × List Char) :=
  match skipSpaces s with
  | '"' :: rest => stringBody rest
  | _ => .error (wrongValue s)

/-- A mapped result is that of a result. -/
theorem exists_ok_of_map_eq_ok {α β : Type} {f : α → β} {x : Except JsonFault α} {b : β}
    (h : x.map f = .ok b) : ∃ a, x = .ok a ∧ f a = b := by
  cases x with
  | error fault => cases h
  | ok a => exact ⟨a, rfl, Except.ok.inj h⟩

theorem string_shrinks {s text rest : List Char} (h : string s = .ok (text, rest)) :
    rest.length < s.length := by
  unfold string at h
  have hs := length_skipSpaces_le s
  split at h
  · rename_i r hr
    have := stringBody_shrinks h
    rw [hr, List.length_cons] at hs
    omega
  · cases h

/-- How a list or an object goes on: it ends, or an item comes. -/
inductive Turn where
  | stop (rest : List Char)
  | item (rest : List Char)

/-- Reads up to the next item, or up to the end at `close`. A comma stands between two items and
nowhere else. -/
def turn (close : Char) (first : Bool) (s : List Char) : Except JsonFault Turn :=
  match skipSpaces s with
  | [] => .error .truncated
  | c :: rest =>
    if c = close then .ok (.stop rest)
    else if first then .ok (.item (c :: rest))
    else if c = ',' then
      match skipSpaces rest with
      | [] => .error .truncated
      | d :: rest => if d = close then .error .malformed else .ok (.item (d :: rest))
    else .error .malformed

theorem length_le_of_turn_eq_item {close : Char} {first : Bool} {s rest : List Char}
    (h : turn close first s = .ok (.item rest)) : rest.length ≤ s.length := by
  unfold turn at h
  have hs := length_skipSpaces_le s
  split at h
  · cases h
  · rename_i c r hr
    rw [hr, List.length_cons] at hs
    split at h
    · cases h
    · split at h
      · cases h; simpa using hs
      · split at h
        · have hr' := length_skipSpaces_le r
          split at h
          · cases h
          · rename_i d r' hd
            rw [hd] at hr'
            split at h
            · cases h
            · cases h; omega
        · cases h

theorem length_le_of_turn_eq_stop {close : Char} {first : Bool} {s rest : List Char}
    (h : turn close first s = .ok (.stop rest)) : rest.length ≤ s.length := by
  unfold turn at h
  have hs := length_skipSpaces_le s
  split at h
  · cases h
  · rename_i c r hr
    rw [hr, List.length_cons] at hs
    grind

/-- The key of a member, which is a string. -/
def key (s : List Char) : Except JsonFault (List Char × List Char) :=
  match s with
  | '"' :: rest => stringBody rest
  | _ => .error .malformed

def colon (s : List Char) : Except JsonFault (List Char) :=
  match skipSpaces s with
  | [] => .error .truncated
  | c :: rest => if c = ':' then .ok rest else .error .malformed

theorem key_shrinks {s text rest : List Char} (h : key s = .ok (text, rest)) :
    rest.length < s.length := by
  unfold key at h
  split at h
  · have := stringBody_shrinks h
    simp only [List.length_cons]; omega
  · cases h

theorem colon_shrinks {s rest : List Char} (h : colon s = .ok rest) : rest.length < s.length := by
  unfold colon at h
  have hs := length_skipSpaces_le s
  split at h
  · cases h
  · rename_i c r hr
    rw [hr, List.length_cons] at hs
    split at h
    · cases h; omega
    · cases h

/-- The strings of a list, after its bracket or after an item. -/
def stringItems (first : Bool) (s : List Char) : Except JsonFault (List String × List Char) :=
  match _ht : turn ']' first s with
  | .error fault => .error fault
  | .ok (.stop rest) => .ok ([], rest)
  | .ok (.item rest) =>
    match _hs : string rest with
    | .error fault => .error fault
    | .ok (text, rest) =>
      (stringItems false rest).map fun (texts, rest) => (String.ofList text :: texts, rest)
termination_by s.length
decreasing_by
  have := length_le_of_turn_eq_item _ht
  have := string_shrinks _hs
  omega

theorem stringItems_length_le {first : Bool} {s rest : List Char} {texts : List String}
    (h : stringItems first s = .ok (texts, rest)) : rest.length ≤ s.length := by
  fun_induction stringItems first s generalizing texts with
  | case1 => cases h
  | case2 first s r ht => cases h; exact length_le_of_turn_eq_stop ht
  | case3 => cases h
  | case4 first s r ht text r' hs ih =>
    have := length_le_of_turn_eq_item ht
    have := string_shrinks hs
    obtain ⟨⟨texts', rest'⟩, ha, hb⟩ := exists_ok_of_map_eq_ok h
    cases hb
    have := ih ha
    omega

/-- A list of strings. -/
def stringList (s : List Char) : Except JsonFault (List String × List Char) :=
  match skipSpaces s with
  | '[' :: rest => stringItems true rest
  | _ => .error (wrongValue s)

/-- The members of an object with strings under its keys, after its bracket or after a member. -/
def stringMembers (first : Bool) (s : List Char) :
    Except JsonFault (List (String × String) × List Char) :=
  match _ht : turn '\x7d' first s with
  | .error fault => .error fault
  | .ok (.stop rest) => .ok ([], rest)
  | .ok (.item rest) =>
    match _hk : key rest with
    | .error fault => .error fault
    | .ok (name, rest) =>
      match _hc : colon rest with
      | .error fault => .error fault
      | .ok rest =>
        match _hs : string rest with
        | .error fault => .error fault
        | .ok (text, rest) =>
          (stringMembers false rest).map fun (members, rest) =>
            ((String.ofList name, String.ofList text) :: members, rest)
termination_by s.length
decreasing_by
  have := length_le_of_turn_eq_item _ht
  have := key_shrinks _hk
  have := colon_shrinks _hc
  have := string_shrinks _hs
  omega

theorem stringMembers_length_le {first : Bool} {s rest : List Char} {ms : List (String × String)}
    (h : stringMembers first s = .ok (ms, rest)) : rest.length ≤ s.length := by
  fun_induction stringMembers first s generalizing ms with
  | case1 => cases h
  | case2 first s r ht => cases h; exact length_le_of_turn_eq_stop ht
  | case3 => cases h
  | case4 => cases h
  | case5 => cases h
  | case6 first s r ht name r₁ hk r₂ hc text r₃ hs ih =>
    have := length_le_of_turn_eq_item ht
    have := key_shrinks hk
    have := colon_shrinks hc
    have := string_shrinks hs
    obtain ⟨⟨ms', rest'⟩, ha, hb⟩ := exists_ok_of_map_eq_ok h
    cases hb
    have := ih ha
    omega

/-- An object with strings under its keys. A key that is written again replaces the value and keeps
its place. -/
def stringEntries (s : List Char) : Except JsonFault (Entries String × List Char) :=
  match skipSpaces s with
  | '\x7b' :: rest =>
    (stringMembers true rest).map fun (members, rest) =>
      (members.foldl (fun entries (name, text) => Entries.insert entries name text) [], rest)
  | _ => .error (wrongValue s)

theorem stringList_length_le {s rest : List Char} {texts : List String}
    (h : stringList s = .ok (texts, rest)) : rest.length ≤ s.length := by
  unfold stringList at h
  have hs := length_skipSpaces_le s
  split at h
  · rename_i r hr
    rw [hr, List.length_cons] at hs
    have := stringItems_length_le h
    omega
  · cases h

theorem stringEntries_length_le {s rest : List Char} {entries : Entries String}
    (h : stringEntries s = .ok (entries, rest)) : rest.length ≤ s.length := by
  unfold stringEntries at h
  have hs := length_skipSpaces_le s
  split at h
  · rename_i r hr
    rw [hr, List.length_cons] at hs
    obtain ⟨⟨ms, rest'⟩, ha, hb⟩ := exists_ok_of_map_eq_ok h
    cases hb
    have := stringMembers_length_le ha
    omega
  · cases h

end TreeSchema.JsonText
