import TreeSchema.Assembly
import TreeSchema.Encoder.Build
/-!
# The generated module

The generated TypeScript module imports what the encoders need, declares the type of a node of the
syntax tree and the enumeration of its tags, and holds the encoders of the schema in order.
-/
namespace TreeSchema

namespace Schema

/-- The tags of nodes: the names of the messages at the top level that have the suffix of nodes,
without it. -/
def nodeTypes (s : Schema) (c : Config) : List String :=
  s.nodes.filterMap fun (name, n) =>
    if n.kind = .message ∧ endsWith name c.nodeSuffix then some (stripSuffix name c.nodeSuffix)
    else none

/-- The encoders of the nodes at the top level, in order. -/
def encoders (s : Schema) (c : Config) : Traced (List Encoder) := Scope.encoders ⟨s, c⟩ [] s.nodes

/-- What stands in the module before the encoders. -/
def prologue (c : Config) (nodeTypes : List String) : List String :=
  ["import * as proto from " ++ quote c.protoImport ++ ";",
    "import matchEncoding from " ++ quote c.matchImport ++ ";",
    "import interceptEnumError from " ++ quote c.interceptImport ++ ";",
    "",
    "export type ASTNode = \x7b",
    "  type: string,",
    "  start: number,",
    "  end: number,",
    "  [x: string]: any",
    "\x7d",
    "",
    "export const enum NodeType \x7b"] ++
  indent 2 (nodeTypes.map fun t => t ++ " = " ++ quote t ++ ",") ++
  ["\x7d", ""]

/-- The lines of the module. -/
def moduleLines (s : Schema) (c : Config) : Traced (List String) := do
  let encoders ← s.encoders c
  let nodeTypes := s.nodeTypes c
  Traced.note (.generated s.nodeCount nodeTypes.length)
  pure (prologue c nodeTypes ++ Encoder.linesAll true encoders)

/-- The text of the module. -/
def moduleText (s : Schema) (c : Config) : Traced String := do
  let lines ← s.moduleLines c
  pure ("\n".intercalate lines)

end Schema

/-- The module that is generated from a schema text. -/
def generate (text : String) (c : Config) : Traced String := do
  let s ← Schema.ofText text
  s.moduleText c

end TreeSchema
