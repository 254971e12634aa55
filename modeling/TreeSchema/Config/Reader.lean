import TreeSchema.Config
import TreeSchema.Json.Skip
/-!
# Reading settings

Settings are a JSON object in which every key may be left out, or a list of the values in the order
of the keys, of which the last ones may be left out. What is left out is as in `Config.standard`.
Other keys are allowed and do not matter.
-/
namespace TreeSchema.Config

/-- The settings by name. -/
inductive Key where
  | protoImport
  | matchImport
  | interceptImport
  | nodeSuffix
  | pathSeparator
  | nullableNodes
  | fixedGuards
  | typeofOneofNodes
deriving DecidableEq, Repr

namespace Key

/-- The keys in the order in which a list gives their values. -/
def all : List Key :=
  [.protoImport, .matchImport, .interceptImport, .nodeSuffix, .pathSeparator, .nullableNodes,
    .fixedGuards, .typeofOneofNodes]

def label : Key → String
  | .protoImport => "proto_import"
  | .matchImport => "match_import"
  | .interceptImport => "intercept_import"
  | .nodeSuffix => "node_suffix"
  | .pathSeparator => "path_separator"
  | .nullableNodes => "nullable_nodes"
  | .fixedGuards => "fixed_guards"
  | .typeofOneofNodes => "typeof_oneof_nodes"

def ofLabel? (label : String) : Option Key := all.find? (·.label == label)

end Key

open JsonText

/-- Reads a string and hands it on. -/
def withString (s : List Char) (f : String → Config) : Except JsonFault (Config × List Char) :=
  (string s).map fun (text, rest) => (f (String.ofList text), rest)

/-- Reads the value of a key into the settings. -/
def readValue (c : Config) (key : Key) (s : List Char) : Except JsonFault (Config × List Char) :=
  match key with
  | .protoImport => withString s ({ c with protoImport := · })
  | .matchImport => withString s ({ c with matchImport := · })
  | .interceptImport => withString s ({ c with interceptImport := · })
  | .nodeSuffix => withString s ({ c with nodeSuffix := · })
  | .pathSeparator => withString s ({ c with pathSeparator := · })
  | .nullableNodes =>
    (stringList s).map fun (names, rest) => ({ c with nullableNodes := names }, rest)
  | .fixedGuards =>
    (stringEntries s).map fun (guards, rest) => ({ c with fixedGuards := guards }, rest)
  | .typeofOneofNodes =>
    (stringList s).map fun (names, rest) => ({ c with typeofOneofNodes := names }, rest)

/-- Reads the value of a member whose key is known or not. -/
def readMember (c : Config) (key : Option Key) (s : List Char) :
    Except JsonFault (Config × List Char) :=
  match key with
  | some key => readValue c key s
  | none => (skip s).map fun rest => (c, rest)

theorem readValue_length_le {c d : Config} {key : Key} {s rest : List Char}
    (h : readValue c key s = .ok (d, rest)) : rest.length ≤ s.length := by
  have hw {s rest d} {f : String → Config} (h : withString s f = .ok (d, rest)) :
      rest.length ≤ s.length := by
    obtain ⟨⟨text, rest'⟩, ha, hb⟩ := exists_ok_of_map_eq_ok h
    cases hb
    exact Nat.le_of_lt (string_shrinks ha)
  cases key with
  | protoImport | matchImport | interceptImport | nodeSuffix | pathSeparator =>
    unfold readValue at h
    exact hw h
  | nullableNodes | typeofOneofNodes =>
    obtain ⟨⟨names, rest'⟩, ha, hb⟩ := exists_ok_of_map_eq_ok h
    cases hb
    exact stringList_length_le ha
  | fixedGuards =>
    obtain ⟨⟨guards, rest'⟩, ha, hb⟩ := exists_ok_of_map_eq_ok h
    cases hb
    exact stringEntries_length_le ha

theorem readMember_length_le {c d : Config} {key : Option Key} {s rest : List Char}
    (h : readMember c key s = .ok (d, rest)) : rest.length ≤ s.length := by
  cases key with
  | some key => exact readValue_length_le h
  | none =>
    obtain ⟨rest', ha, hb⟩ := exists_ok_of_map_eq_ok h
    cases hb
    exact skipValue_length_le ha

/-- Reads the members of an object, after its bracket or after a member. `seen` holds the keys that
have been read, none of which may come again. -/
def readMembers (c : Config) (seen : List Key) (first : Bool) (s : List Char) :
    Except JsonFault (Config × List Char) :=
  match _ht : turn '\x7d' first s with
  | .error fault => .error fault
  | .ok (.stop rest) => .ok (c, rest)
  | .ok (.item rest) =>
    match _hk : key rest with
    | .error fault => .error fault
    | .ok (label, rest) =>
      let known := Key.ofLabel? (String.ofList label)
      if known.any seen.contains then .error .mismatched
      else
        match _hc : colon rest with
        | .error fault => .error fault
        | .ok rest =>
          match _hv : readMember c known rest with
          | .error fault => .error fault
          | .ok (d, rest) => readMembers d (known.toList ++ seen) false rest
termination_by s.length
decreasing_by
  have := length_le_of_turn_eq_item _ht
  have := key_shrinks _hk
  have := colon_shrinks _hc
  have := readMember_length_le _hv
  omega

/-- Reads the items of a list, the values of `keys` in order. -/
def readItems (c : Config) (first : Bool) :
    List Key → List Char → Except JsonFault (Config × List Char)
  | [], s =>
    match skipSpaces s with
    | [] => .error .truncated
    | d :: rest => if d = ']' then .ok (c, rest) else .error .malformed
  | key :: keys, s =>
    match turn ']' first s with
    | .error fault => .error fault
    | .ok (.stop rest) => .ok (c, rest)
    | .ok (.item rest) =>
      match readValue c key rest with
      | .error fault => .error fault
      | .ok (d, rest) => readItems d false keys rest

/-- Reads settings from the front of a text. -/
def readFront (s : List Char) : Except JsonFault (Config × List Char) :=
  match skipSpaces s with
  | '\x7b' :: rest => readMembers standard [] true rest
  | '[' :: rest => readItems standard true Key.all rest
  | _ => .error (wrongValue s)

/-- Reads settings from a text that has nothing else. -/
def read (s : List Char) : Except JsonFault Config :=
  match readFront s with
  | .error fault => .error fault
  | .ok (c, rest) => if (skipSpaces rest).isEmpty then .ok c else .error .malformed

/-- The settings that a JSON text gives. They are judged only once the whole text has been read. -/
def ofJson (text : String) : Except Error Config :=
  match read text.toList with
  | .error fault => .error (.json fault)
  | .ok c => c.validate

end TreeSchema.Config
