import TreeSchema.Entries
import TreeSchema.Error
/-!
# Settings

The settings say which modules the generated code imports, how nodes are named, and which nodes are
special: those that may be absent from a syntax tree, those with a guard of their own, and those
whose alternatives are told apart by the type of a value and not by a tag.
-/
namespace TreeSchema

structure Config where
  protoImport : String
  matchImport : String
  interceptImport : String
  /-- How the names of nodes end that have a tag. -/
  nodeSuffix : String
  /-- What stands between the names of a nested node's ancestors and its own. -/
  pathSeparator : String
  nullableNodes : List String
  fixedGuards : Entries String
  typeofOneofNodes : List String
deriving DecidableEq, Repr

namespace Config

def standard : Config where
  protoImport := "generated/ecmascript2022"
  matchImport := "helpers/matchEncoding"
  interceptImport := "helpers/interceptEnumError"
  nodeSuffix := "Node"
  pathSeparator := "_"
  nullableNodes := ["ArrayPatternNode_Element"]
  fixedGuards := [("LiteralNode_RegEx", "\"undefined\"")]
  typeofOneofNodes := ["LiteralNode"]

def isNullable (c : Config) (qualified : String) : Bool := c.nullableNodes.contains qualified

def fixedGuard? (c : Config) (qualified : String) : Option String := c.fixedGuards.get? qualified

def isTypeof (c : Config) (qualified : String) : Bool := c.typeofOneofNodes.contains qualified

/-- Refuses settings under which names could not be told apart. -/
def validate (c : Config) : Except Error Config :=
  if c.nodeSuffix.isEmpty then .error (.setting .emptySuffix)
  else if c.pathSeparator.isEmpty then .error (.setting .emptySeparator)
  else .ok c

end Config

end TreeSchema
