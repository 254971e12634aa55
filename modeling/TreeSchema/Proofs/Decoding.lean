import TreeSchema.Proofs.Faults
import TreeSchema.Proofs.Literals
import TreeSchema.Proofs.Openings
/-!
# What the decoder of an enum does

The decoder of an enum is written as lines of code, and `Decoder.call` runs such lines on a value,
from their text alone: a literal is read as JSON reads it, a line that compares the value with
another literal is passed by, and an error is thrown with the literals that it lists.

`call_enum` says that the decoder returns the symbol of the first tag that is the value, and that it
throws exactly the declared tags if none is, whatever characters the tags are made of. It is put
together from what one line does (`check?_line`, `item?_line`) and from what the lines do one after
another (`run_checks`, `items?_lines`).
-/
namespace TreeSchema

namespace Decoder

/-! ## Running the lines -/

/-- How the call of a decoder ends. -/
inductive Outcome where
  | returned (expression : String)
  | threw (expected : List String)
deriving DecidableEq, Repr

/-- A line without its indentation. -/
def unindented (line : String) : List Char := line.toList.dropWhile (· == ' ')

/-- The text after the given letters. -/
def after? (letters s : List Char) : Option (List Char) :=
  (JsonText.letters letters s).toOption

/-- A literal at the front of a text, and what follows it. -/
def literal? (s : List Char) : Option (String × List Char) :=
  (JsonText.key s).toOption.map fun (text, rest) => (String.ofList text, rest)

/-- The tag that a line compares the value with, and the expression that it returns then. -/
def check? (line : String) : Option (String × String) := do
  let rest ← after? "if (value === ".toList (unindented line)
  let (tag, rest) ← literal? rest
  let rest ← after? ") return ".toList rest
  if rest.getLast? = some ';' then pure (tag, String.ofList rest.dropLast) else none

/-- The tag on a line of a list. -/
def item? (line : String) : Option String := do
  let (tag, rest) ← literal? (unindented line)
  if rest = [','] then pure tag else none

/-- The tags of a list, up to the line that closes it. -/
def items? : List String → Option (List String)
  | [] => none
  | line :: rest =>
    if unindented line = "],".toList then some []
    else do
      let tag ← item? line
      let tags ← items? rest
      pure (tag :: tags)

/-- The tags that an error lists, from the lines after the one that throws it. -/
def expected? : List String → Option (List String)
  | [] => none
  | line :: rest => if unindented line = "expected: [".toList then items? rest else none

/-- Runs the body of a decoder on a value. -/
def run (value : String) : List String → Option Outcome
  | [] => none
  | line :: rest =>
    match check? line with
    | some (tag, expression) =>
      if tag = value then some (.returned expression) else run value rest
    | none =>
      if unindented line = [] then run value rest
      else if unindented line = "throw \x7b".toList then (expected? rest).map .threw
      else none

/-- Calls the decoder that lines of code declare. The first of them opens its body. -/
def call (value : String) (lines : List String) : Option Outcome := run value lines.tail

/-! ## What one line does -/

theorem unindented_indented (n : Nat) {line : String} (h : ∀ c ∈ line.toList.head?, c ≠ ' ') :
    unindented (String.ofList (List.replicate n ' ') ++ line) = line.toList := by
  rw [unindented, String.toList_append, String.toList_ofList, dropWhile_replicate_append]
  exact Text.dropWhile_eq_self fun c hc => by simpa using h c hc

theorem after?_append (letters s : List Char) : after? letters (letters ++ s) = some s := by
  rw [after?, JsonText.letters_append]
  rfl

theorem literal?_quote (text : String) (s : List Char) :
    literal? ((quote text).toList ++ s) = some (text, s) := by
  rw [literal?, JsonText.toList_quote_append, JsonText.key, JsonText.stringBody_quoted]
  simp only [Except.toOption, Option.map_some, String.ofList_toList]

/-- The line for a tag is read as the comparison that it is. -/
theorem check?_line (n : Nat) (tag expression : String) :
    check? (String.ofList (List.replicate n ' ') ++
      ("if (value === " ++ quote tag ++ ") return " ++ expression ++ ";")) =
      some (tag, expression) := by
  have htext : ("if (value === " ++ quote tag ++ ") return " ++ expression ++ ";").toList =
      "if (value === ".toList ++
        ((quote tag).toList ++ (") return ".toList ++ (expression.toList ++ [';']))) := by
    simp only [String.toList_append, List.append_assoc]
    rfl
  have hhead : ∀ c ∈ ("if (value === " ++ quote tag ++ ") return " ++ expression ++ ";").toList.head?,
      c ≠ ' ' := by
    rw [htext]
    intro c hc
    cases hc
    decide
  simp only [check?, unindented_indented n hhead, htext, after?_append, literal?_quote,
    Option.bind_eq_bind, Option.bind_some, List.getLast?_concat, List.dropLast_concat,
    String.ofList_toList, if_true]
  rfl

theorem item?_line (n : Nat) (tag : String) :
    item? (String.ofList (List.replicate n ' ') ++ (quote tag ++ ",")) = some tag := by
  have htext : (quote tag ++ ",").toList = (quote tag).toList ++ [','] := by
    rw [String.toList_append]
    rfl
  have hhead : ∀ c ∈ (quote tag ++ ",").toList.head?, c ≠ ' ' := by
    rw [htext, JsonText.toList_quote_append]
    intro c hc
    cases hc
    decide
  rw [item?, unindented_indented n hhead, htext, literal?_quote]
  rfl

/-! ## What the lines do -/

theorem items?_lines (n : Nat) (tags rest : List String) :
    items? (indent n (tags.map fun tag => quote tag ++ ",") ++ "    ]," :: rest) = some tags := by
  induction tags with
  | nil => rfl
  | cons tag tags ih =>
    have hline := item?_line n tag
    -- a line with a literal is not the one that closes the list
    have hopen : unindented (String.ofList (List.replicate n ' ') ++ (quote tag ++ ",")) ≠
        "],".toList := by
      intro hclose
      rw [item?, hclose] at hline
      cases hline
    rw [List.map_cons, indent_cons, List.cons_append, items?, if_neg hopen, hline, ih]
    rfl

theorem run_checks (value qualified : String) (n : Nat) (values : List EnumValue)
    (rest : List String) :
    run value (indent n (values.map fun v =>
        "if (value === " ++ quote v.tag ++ ") return proto." ++ qualified ++ "." ++ v.symbol ++
          ";") ++ rest) =
      (values.find? (·.tag = value)).elim (run value rest) fun v =>
        some (.returned ("proto." ++ qualified ++ "." ++ v.symbol)) := by
  induction values with
  | nil => rfl
  | cons v values ih =>
    have htext : "if (value === " ++ quote v.tag ++ ") return proto." ++ qualified ++ "." ++
          v.symbol ++ ";" =
        "if (value === " ++ quote v.tag ++ ") return " ++
          ("proto." ++ qualified ++ "." ++ v.symbol) ++ ";" := by
      rw [← String.toList_inj]
      simp
    rw [List.map_cons, indent_cons, List.cons_append, run, htext, check?_line]
    by_cases htag : v.tag = value
    · rw [List.find?_cons_of_pos (by simpa using htag)]
      exact if_pos htag
    · rw [List.find?_cons_of_neg (by simpa using htag), ← ih]
      exact if_neg htag

theorem run_throw (value : String) (n : Nat) (tags rest : List String) :
    run value ("" :: "  throw \x7b" :: "    expected: [" ::
      (indent n (tags.map fun tag => quote tag ++ ",") ++ "    ]," :: rest)) =
      some (.threw tags) := by
  have hblank (ls : List String) : run value ("" :: ls) = run value ls := rfl
  have hthrow (ls : List String) :
      run value ("  throw \x7b" :: ls) = (expected? ls).map .threw := rfl
  have hexpected (ls : List String) : expected? ("    expected: [" :: ls) = items? ls := rfl
  rw [hblank, hthrow, hexpected, items?_lines]
  rfl

end Decoder

open Decoder

/-- The decoder of an enum returns the symbol of the first tag that is the value, and throws the
tags if there is none. -/
theorem call_enum (exported : Bool) (name qualified value : String) (values : List EnumValue) :
    call value ((Encoder.enum name qualified values).lines exported) =
      (values.find? (·.tag = value)).elim (some (.threw (values.map EnumValue.tag))) fun v =>
        some (.returned ("proto." ++ qualified ++ "." ++ v.symbol)) := by
  have hlines : ((Encoder.enum name qualified values).lines exported).tail =
      indent 2 (values.map fun v =>
        "if (value === " ++ quote v.tag ++ ") return proto." ++ qualified ++ "." ++ v.symbol ++
          ";") ++
      "" :: "  throw \x7b" :: "    expected: [" ::
        (indent 6 ((values.map EnumValue.tag).map fun tag => quote tag ++ ",") ++
          "    ]," :: ["    found: value,", "  \x7d;", "\x7d", ""]) := by
    simp only [Encoder.lines, Encoder.enumLines, List.map_map, List.cons_append, List.tail_cons,
      List.append_assoc, List.nil_append]
    rfl
  rw [call, hlines, run_checks, run_throw]

theorem enumValues_eq_ok {declarations : List String} {values : List EnumValue}
    (h : declarations.map EnumValue.ofDeclaration = values.map .ok) :
    Scope.enumValues declarations = .ok values := by
  induction declarations generalizing values with
  | nil =>
    cases values with
    | nil => rfl
    | cons v values => cases h
  | cons d declarations ih =>
    cases values with
    | nil => cases h
    | cons v values =>
      obtain ⟨hv, h⟩ := List.cons_eq_cons.1 h
      rw [Scope.enumValues, hv, ih h]
      rfl

/-- The decoder of an enum is exhaustive. Whatever the declarations of an enum are, as long as each
can be read, its encoder is made from the values that they declare, in order. Called with the tag
of a value that no earlier value has, it returns the symbol of that value; and it throws exactly
with what is no declared tag, and then with all declared tags, in order. -/
theorem enum_decoder_exhaustive {n : Node} (hkind : n.kind = .enum) {values : List EnumValue}
    (hvalues : (Entries.keys n.fields).map EnumValue.ofDeclaration = values.map .ok)
    (exported : Bool) (name qualified value : String) :
    (∀ (cx : Scope) (path : List String), (cx.encoder path name n).result =
      .ok (.enum name (cx.qualify (path ++ [name])) values)) ∧
    (∀ (k : Nat) (v : EnumValue), values[k]? = some v → v.tag = value →
      (∀ earlier ∈ values.take k, earlier.tag ≠ value) →
      call value ((Encoder.enum name qualified values).lines exported) =
        some (.returned ("proto." ++ qualified ++ "." ++ v.symbol))) ∧
    (∀ expected, call value ((Encoder.enum name qualified values).lines exported) =
        some (.threw expected) ↔
      value ∉ values.map EnumValue.tag ∧ expected = values.map EnumValue.tag) := by
  refine ⟨fun cx path => ?_, fun k v hk hv hearlier => ?_, fun expected => ?_⟩
  · obtain ⟨_, line, kind, nested, fields⟩ := n
    subst hkind
    exact Scope.encoder_enum_eq_ok.2 ⟨values, enumValues_eq_ok hvalues, rfl⟩
  · have hfind : values.find? (·.tag = value) = some v := by
      obtain ⟨hlt, hget⟩ := List.getElem?_eq_some_iff.1 hk
      refine List.find?_eq_some_iff_append.2 ⟨by simpa using hv, values.take k,
        values.drop (k + 1), ?_, fun x hx => by simpa using hearlier x hx⟩
      rw [← hget, ← List.drop_eq_getElem_cons hlt, List.take_append_drop]
    rw [call_enum, hfind]
    rfl
  · rw [call_enum]
    cases hfind : values.find? (·.tag = value) with
    | none =>
      have hnone : value ∉ values.map EnumValue.tag := by
        intro hmem
        obtain ⟨v, hv, hvtag⟩ := List.mem_map.1 hmem
        exact List.find?_eq_none.1 hfind v hv (by simpa using hvtag)
      simp [hnone, eq_comm]
    | some v =>
      have hsome : value ∈ values.map EnumValue.tag :=
        List.mem_map.2 ⟨v, List.mem_of_find?_eq_some hfind, by simpa using List.find?_some hfind⟩
      simp [hsome]

/-- Tags with a backslash and a quote, one of them declared twice. -/
theorem enum_decoder_exhaustive_escaped :
    let n : Node := ⟨"E", 1, .enum, [],
      [("A = \"a\\\";", .plain), ("B; // (\")", .plain), ("C = \"a\\\";", .plain)]⟩
    let values : List EnumValue := [⟨"A", "a\\"⟩, ⟨"B", "\""⟩, ⟨"C", "a\\"⟩]
    n.kind = .enum ∧ (Entries.keys n.fields).map EnumValue.ofDeclaration = values.map .ok ∧
      call "a\\" ((Encoder.enum "E" "P_E" values).lines true) = some (.returned "proto.P_E.A") ∧
      call "\"" ((Encoder.enum "E" "P_E" values).lines true) = some (.returned "proto.P_E.B") ∧
      call "a" ((Encoder.enum "E" "P_E" values).lines true) =
        some (.threw ["a\\", "\"", "a\\"]) := by
  intro n values
  have hvalues : (Entries.keys n.fields).map EnumValue.ofDeclaration = values.map .ok := rfl
  have h := enum_decoder_exhaustive (n := n) rfl hvalues true "E" "P_E"
  refine ⟨rfl, hvalues, ?_, ?_, ?_⟩
  · exact (h "a\\").2.1 0 _ rfl rfl (by decide)
  · exact (h "\"").2.1 1 _ rfl rfl (by decide)
  · exact ((h "a").2.2 _).2 ⟨by decide, rfl⟩

end TreeSchema
