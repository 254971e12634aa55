import TreeSchema.Config
import TreeSchema.Encoder
import TreeSchema.Text.CamelCase
import TreeSchema.TypeClass
/-!
# From nodes to encoders

The encoder of a node is built from its declarations, with the rest of the schema and the settings
at hand. A declaration that cannot be read ends the run.
-/
namespace TreeSchema

/-- What an encoder is built with. -/
structure Scope where
  schema : Schema
  config : Config

/-- How the property of a name is read from a node of the syntax tree. -/
def propertyOf (name : String) : String := "props[" ++ quote name ++ "]"

/-- Where the encoder of a variant finds what it encodes: in the whole node, or in a property. -/
inductive Source where
  | node
  | property (name : String)
deriving DecidableEq, Repr

def Source.expression : Source → String
  | .node => Encoder.nodePattern
  | .property name => propertyOf name

/-- The lines of the object that a variant is encoded as, under `kind` if it stands in a union. -/
def Variant.body (v : Variant) (inUnion : Bool) (source : Source) : List String :=
  let name := outputName v.name
  let value := v.override.value.getD ("encode" ++ v.type ++ "(" ++ source.expression ++ ")")
  let choice := ["oneofKind: " ++ quote name ++ ",", name ++ ": " ++ value]
  if inUnion then ["kind: \x7b"] ++ indent 2 choice ++ ["\x7d"] else choice

namespace Scope

def tag (cx : Scope) (type : String) : String := nodeTag type cx.config.nodeSuffix

/-- The guard of a variant: that of its override, else the tag of its type, else the tags of the
variants of its type. -/
def variantGuard (cx : Scope) (v : Variant) : Except Error Guard :=
  match v.override.guard with
  | some expression => .ok (.single expression)
  | none => do
    match ← cx.schema.variantClass v.type cx.config.nodeSuffix with
    | .tag => pure (.single (cx.tag v.type))
    | .union variants =>
      let types ← Variant.types variants
      pure (.anyOf (types.map cx.tag))

/-- The arm of a variant. -/
def arm (cx : Scope) (inUnion : Bool) (source : Source) (declaration : String) :
    Except Error Arm := do
  let v ← Variant.ofDeclaration declaration
  let guard ← cx.variantGuard v
  pure ⟨guard, v.body inUnion source⟩

/-- The arms of variants, in order. -/
def arms (cx : Scope) (inUnion : Bool) (source : Source) : List String → Except Error (List Arm)
  | [] => .ok []
  | declaration :: rest => do
    let a ← cx.arm inUnion source declaration
    let as ← cx.arms inUnion source rest
    pure (a :: as)

/-- A single value of a type. -/
def single (cls : TypeClass) (type source : String) : String :=
  match cls with
  | .enum => "interceptEnumError(() => encode" ++ type ++ "(" ++ source ++ "), start, end)"
  | .message => "encode" ++ type ++ "(" ++ source ++ ")"
  | .primitive => source

/-- A list of values of a type. Lists of other than messages are not foreseen, which is noted. -/
def repeated (cls : TypeClass) (type source declaration : String) : Traced String :=
  match cls with
  | .message => pure (source ++ ".map((item: ASTNode) => encode" ++ type ++ "(item))")
  | .enum => do
    Traced.note (.repeatedEnum declaration)
    pure (source ++ ".map((item: string) => interceptEnumError(() => encode" ++ type ++
      "(item), start, end))")
  | .primitive => do
    Traced.note (.repeatedPrimitive declaration)
    pure source

/-- The property of a single declaration. An override stands for the property of the node that is
read otherwise. -/
def plainProperty (cx : Scope) (declaration : String) : Traced Property := do
  let field ← Field.ofDeclaration declaration
  if field.name = "start" ∨ field.name = "end" then pure (.position field.name)
  else
    let source := (field.override.value <|> field.override.guard).getD (propertyOf field.name)
    let cls := cx.schema.typeClass field.type
    let expression ←
      match field.modifier with
      | .required => pure (single cls field.type source)
      | .optional => pure (source ++ " ? " ++ single cls field.type source ++ " : undefined")
      | .repeated => repeated cls field.type source declaration
    pure (.value (outputName field.name) expression)

/-- The property of a `oneof`. Its alternatives are told apart by the tag of the node under its key,
or by the type of the value there. -/
def choiceProperty (cx : Scope) (qualified key : String) (variants : List String) :
    Except Error Property := do
  let value := propertyOf key
  if cx.config.isTypeof qualified then
    let arms ← cx.arms false .node variants
    pure (.choice (outputName key) qualified
      (value ++ " === null ? \"null\" : typeof " ++ value) arms)
  else
    let arms ← cx.arms false (.property key) variants
    pure (.choice (outputName key) qualified (value ++ ".type") arms)

def property (cx : Scope) (qualified : String) : String × Member → Traced Property
  | (declaration, .plain) => cx.plainProperty declaration
  | (key, .oneof variants) => cx.choiceProperty qualified key variants

/-- What the encoder of a message does with a node of the syntax tree. -/
def dispatch (cx : Scope) (qualified : String) (n : Node) : Traced Dispatch :=
  match n.unionVariants? with
  | some variants => do
    let arms ← cx.arms true .node variants
    pure (.union arms)
  | none => do
    let guard := (cx.config.fixedGuard? qualified).getD (cx.tag qualified)
    let properties ← Traced.forEach (cx.property qualified) n.fields
    pure (.flat guard properties)

/-- The values of an enum, in order. -/
def enumValues : List String → Except Error (List EnumValue)
  | [] => .ok []
  | declaration :: rest => do
    let v ← EnumValue.ofDeclaration declaration
    let vs ← enumValues rest
    pure (v :: vs)

/-- The name of a node with the names of its ancestors before it, the outermost first. -/
def qualify (cx : Scope) (path : List String) : String :=
  cx.config.pathSeparator.intercalate path

mutual

/-- Builds the encoder of the node under `key` inside the node that `path` leads to. Nested nodes
come before the declarations of their parent, and those of an enum do not count. -/
def encoder (cx : Scope) (path : List String) (key : String) : Node → Traced Encoder
  | ⟨name, line, kind, nested, fields⟩ =>
    let qualified := cx.qualify (path ++ [key])
    match kind with
    | .enum => do
      Traced.note (.decoder qualified)
      let values ← enumValues (Entries.keys fields)
      pure (.enum key qualified values)
    | .message => do
      Traced.note (.encoder qualified)
      let inner ← encoders cx (path ++ [key]) nested
      let dispatch ← cx.dispatch qualified ⟨name, line, kind, nested, fields⟩
      pure (.message key qualified (cx.config.isNullable qualified) inner dispatch)

/-- Builds the encoders of the nodes inside the node that `path` leads to. -/
def encoders (cx : Scope) (path : List String) : List (String × Node) → Traced (List Encoder)
  | [] => pure []
  | (key, n) :: rest => do
    let e ← encoder cx path key n
    let es ← encoders cx path rest
    pure (e :: es)

end

end Scope

end TreeSchema
