import TreeSchema.Declaration
import TreeSchema.Text.Quoted
/-!
# Encoders and their TypeScript

An encoder is what is generated for a node of the schema: for an enum a function that decodes its
tags, and for a message a function that matches a node of the syntax tree and builds the message
from it. The encoders of nested nodes stand inside the function of the node around them. This file
has the encoders as data and the lines of code that they are written as.
-/
namespace TreeSchema

/-- Lines with `n` spaces before each. -/
def indent (n : Nat) (lines : List String) : List String :=
  lines.map (String.ofList (List.replicate n ' ') ++ ·)

/-- What an arm of a match answers to: one expression, or any of several tags. -/
inductive Guard where
  | single (expression : String)
  | anyOf (tags : List String)
deriving DecidableEq, Repr

/-- An arm of a match, with the lines of the object that it builds. -/
structure Arm where
  guard : Guard
  body : List String
deriving DecidableEq, Repr

/-- A property of the object that a message without forms is built as. -/
inductive Property where
  /-- A position, which is handed on. -/
  | position (name : String)
  | value (key expression : String)
  /-- A match of its own, for a `oneof`. -/
  | choice (key messageType matcher : String) (arms : List Arm)
deriving DecidableEq, Repr

/-- How the encoder of a message goes on: an arm for each form of a union, or one arm that builds
the whole message. -/
inductive Dispatch where
  | union (arms : List Arm)
  | flat (guard : String) (properties : List Property)
deriving DecidableEq, Repr

inductive Encoder where
  | enum (name qualified : String) (values : List EnumValue)
  | message (name qualified : String) (nullable : Bool) (nested : List Encoder) (dispatch : Dispatch)

/-- The first lines of an arm, up to the object that it builds. -/
def Guard.lines : Guard → List String
  | .single expression => [".with(" ++ expression ++ ", () => (\x7b"]
  | .anyOf tags => [".with(["] ++ indent 2 (tags.map (· ++ ",")) ++ ["], () => (\x7b"]

def Arm.lines (a : Arm) : List String := a.guard.lines ++ indent 2 a.body ++ ["\x7d))"]

def Property.lines : Property → List String
  | .position name => [name ++ ","]
  | .value key expression => [key ++ ": " ++ expression ++ ","]
  | .choice key messageType matcher arms =>
    [key ++ ": matchEncoding<proto." ++ messageType ++ "[" ++ quote key ++ "]>(" ++ matcher ++
        ", start, end)"] ++
      indent 2 (arms.flatMap Arm.lines) ++ ["  .end(),"]

def Dispatch.lines : Dispatch → List String
  | .union arms => arms.flatMap Arm.lines
  | .flat guard properties =>
    (Guard.single guard).lines ++ indent 2 (properties.flatMap Property.lines) ++ ["\x7d))"]

namespace Encoder

/-- The word before a function that other modules may use. -/
def exportMark (exported : Bool) : String := if exported then "export " else ""

/-- The node of the syntax tree with its parts taken out. -/
def nodePattern : String := "\x7b type, start, end, ...props \x7d"

/-- The lines of the decoder of an enum: a line for each tag, and an error that lists them all. -/
def enumLines (exported : Bool) (name qualified : String) (values : List EnumValue) : List String :=
  [exportMark exported ++ "function encode" ++ name ++ "(value: string): proto." ++ qualified ++
      " \x7b"] ++
    indent 2 (values.map fun v =>
      "if (value === " ++ quote v.tag ++ ") return proto." ++ qualified ++ "." ++ v.symbol ++ ";") ++
    ["", "  throw \x7b", "    expected: ["] ++
    indent 6 (values.map fun v => quote v.tag ++ ",") ++
    ["    ],", "    found: value,", "  \x7d;", "\x7d", ""]

/-- The parameter of the encoder of a message. A node that may be absent is taken apart inside. -/
def parameter (nullable : Bool) : String := if nullable then "ast" else nodePattern

/-- What the encoder of a message matches on. -/
def matcher (nullable : Bool) : String :=
  if nullable then "type ?? \"null\", start, end" else "String(type), start, end"

mutual

/-- The lines of an encoder. -/
def lines (exported : Bool) : Encoder → List String
  | .enum name qualified values => enumLines exported name qualified values
  | .message name qualified nullable nested dispatch =>
    [exportMark exported ++ "function encode" ++ name ++ "(" ++ parameter nullable ++
        ": ASTNode): proto." ++ qualified ++ " \x7b"] ++
      indent 2 (linesAll false nested ++
        if nullable then ["const " ++ nodePattern ++ " = ast ?? \x7b\x7d"] else []) ++
      ["  return matchEncoding<proto." ++ qualified ++ ">(" ++ matcher nullable ++ ")"] ++
      indent 4 dispatch.lines ++
      ["    .end()", "\x7d", ""]

/-- The lines of several encoders, one after another. -/
def linesAll (exported : Bool) : List Encoder → List String
  | [] => []
  | e :: es => lines exported e ++ linesAll exported es

end

end Encoder

end TreeSchema
