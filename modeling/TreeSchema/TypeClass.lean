import TreeSchema.Declaration
import TreeSchema.Schema
import TreeSchema.Text.LetterCase
/-!
# What a type stands for

The type of a field is a primitive, an enum or a message, and the type of a variant is a node of
the syntax tree or a union of such nodes. Only the top level of the schema is asked.
-/
namespace TreeSchema

inductive TypeClass where
  | primitive
  | enum
  | message
deriving DecidableEq, Repr

/-- What the type of a variant stands for: a node with a tag of its own, or a union with its
variants. -/
inductive VariantClass where
  | tag
  | union (variants : List String)
deriving DecidableEq, Repr

namespace Schema

/-- The class of a type. A type that is no enum is a message if it starts with a capital letter of
ASCII. -/
def typeClass (s : Schema) (type : String) : TypeClass :=
  if s.isEnum type then .enum
  else if (type.toList.head?.map Char.isUpper).getD false then .message
  else .primitive

/-- The class of the type of a variant. A type with the suffix of nodes, or without a capital
letter, needs no declaration. -/
def variantClass (s : Schema) (type suffix : String) : Except Error VariantClass :=
  if endsWith type suffix || Text.isOwnLowercase type.toList then .ok .tag
  else
    match s.get? type with
    | none => .error (.unknownType type)
    | some n =>
      match n.unionVariants? with
      | some variants => .ok (.union variants)
      | none => .ok .tag

end Schema

/-- The tag of a node, as a member of the enumeration of tags. -/
def nodeTag (type suffix : String) : String := "NodeType." ++ stripSuffix type suffix

end TreeSchema
