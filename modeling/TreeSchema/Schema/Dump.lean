import TreeSchema.Json.Value
import TreeSchema.Schema
/-!
# The JSON dump of a schema

A node is an object with its name, line, kind, nested nodes and fields, in this order. A single
declaration has no value beside its key, which is written `null`, and a `oneof` has the list of its
variants.
-/
namespace TreeSchema

def NodeKind.label : NodeKind → String
  | .message => "Message"
  | .enum => "Enum"

def Member.toJson : Member → Json
  | .plain => .null
  | .oneof variants => .list (variants.map .text)

mutual

def Node.toJson : Node → Json
  | ⟨name, line, kind, nested, fields⟩ =>
    .object
      [("name", .text name), ("line", .number line), ("kind", .text kind.label),
        ("nested", .object (Node.toJsonAll nested)),
        ("fields", .object (fields.map fun (key, member) => (key, member.toJson)))]

def Node.toJsonAll : List (String × Node) → List (String × Json)
  | [] => []
  | (key, n) :: rest => (key, n.toJson) :: Node.toJsonAll rest

end

namespace Schema

def toJson (s : Schema) : Json := .object [("nodes", .object (Node.toJsonAll s.nodes))]

/-- The schema as a JSON text. -/
def dump (s : Schema) : String := s.toJson.pretty

end Schema

end TreeSchema
