import TreeSchema.Override
import TreeSchema.Trace
/-!
# Declarations

What the declarations inside a node say: a field of a message is `[modifier] Type name`, a variant
of a `oneof` is `Type name`, and a value of an enum is `SYMBOL = value`. What follows `=` in a field
or a variant, a number as a rule, is not used.
-/
namespace TreeSchema

inductive Modifier where
  | required
  | optional
  | repeated
deriving DecidableEq, Repr

structure Field where
  modifier : Modifier
  type : String
  name : String
  override : Override
deriving DecidableEq, Repr

structure Variant where
  type : String
  name : String
  override : Override
deriving DecidableEq, Repr

/-- A value of an enum: its name there, and the text that stands for it in a syntax tree. -/
structure EnumValue where
  symbol : String
  tag : String
deriving DecidableEq, Repr

namespace Text

/-- The words of a declaration before its `=`, comment and semicolons. -/
def declaredWords (line : List Char) : List (List Char) :=
  words (dropSemicolons (leftSide (code line)))

/-- The text between the quotes of a literal, taken as it stands. -/
def insideQuotes? (s : List Char) : Option (List Char) :=
  match s with
  | '"' :: rest => if rest.getLast? = some '"' then some rest.dropLast else none
  | _ => none

end Text

/-- The modifier that a word names. -/
def Modifier.ofWord? (word : String) : Option Modifier :=
  if word = "optional" then some .optional
  else if word = "repeated" then some .repeated
  else none

/-- Reads a field. A modifier that is not known is noted and counts for nothing. -/
def Field.ofDeclaration (declaration : String) : Traced Field :=
  let line := declaration.toList
  match (Text.declaredWords line).map String.ofList with
  | [word, type, name] =>
    match Modifier.ofWord? word with
    | some modifier => pure ⟨modifier, type, name, .ofLine line⟩
    | none => do
      Traced.note (.unknownModifier word declaration)
      pure ⟨.required, type, name, .ofLine line⟩
  | [type, name] => pure ⟨.required, type, name, .ofLine line⟩
  | _ => .fail (.declaration declaration .field)

/-- Reads a variant. -/
def Variant.ofDeclaration (declaration : String) : Except Error Variant :=
  let line := declaration.toList
  match (Text.declaredWords line).map String.ofList with
  | [type, name] => .ok ⟨type, name, .ofLine line⟩
  | _ => .error (.declaration declaration .variant)

/-- Reads a value of an enum. Its tag is the guard of the override, else the literal after `=`, else
the symbol. -/
def EnumValue.ofDeclaration (declaration : String) : Except Error EnumValue :=
  let line := declaration.toList
  let code := Text.code line
  let symbol := Text.dropSemicolons (Text.leftSide code)
  if symbol.isEmpty || symbol.any Text.isBlank then .error (.declaration declaration .enumValue)
  else
    let literal := (Text.insideQuotes? (Text.dropSemicolons (Text.rightSide code))).getD symbol
    .ok ⟨String.ofList symbol, (Override.ofLine line).guard.getD (String.ofList literal)⟩

/-- The types of variants, in order. -/
def Variant.types : List String → Except Error (List String)
  | [] => .ok []
  | declaration :: rest => do
    let variant ← Variant.ofDeclaration declaration
    let types ← types rest
    pure (variant.type :: types)

end TreeSchema
