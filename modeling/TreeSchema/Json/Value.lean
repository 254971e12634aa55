import TreeSchema.Entries
import TreeSchema.Text.Quoted
/-!
# JSON values and their printed form

The printed form puts each item of a list and each member of an object on a line of its own, two
spaces deeper than the brackets around it. Empty brackets stand together.
-/
namespace TreeSchema

/-- The JSON values that a schema is made of. -/
inductive Json where
  | null
  | number (n : Nat)
  | text (s : String)
  | list (items : List Json)
  | object (members : List (String × Json))

namespace Json

/-- The start of a line at a depth. -/
def newLine (depth : Nat) : String := "\n" ++ String.ofList (List.replicate (2 * depth) ' ')

mutual

/-- The printed form of a value whose first line stands at a depth. -/
def prettyAt (depth : Nat) : Json → String
  | .null => "null"
  | .number n => toString n
  | .text s => quote s
  | .list [] => "[]"
  | .list (item :: items) =>
    "[" ++ newLine (depth + 1) ++ prettyAt (depth + 1) item ++ prettyItems (depth + 1) items ++
      newLine depth ++ "]"
  | .object [] => "\x7b\x7d"
  | .object ((key, value) :: members) =>
    "\x7b" ++ newLine (depth + 1) ++ quote key ++ ": " ++ prettyAt (depth + 1) value ++
      prettyMembers (depth + 1) members ++ newLine depth ++ "\x7d"

/-- The items of a list after the first one. -/
def prettyItems (depth : Nat) : List Json → String
  | [] => ""
  | item :: items => "," ++ newLine depth ++ prettyAt depth item ++ prettyItems depth items

/-- The members of an object after the first one. -/
def prettyMembers (depth : Nat) : List (String × Json) → String
  | [] => ""
  | (key, value) :: members =>
    "," ++ newLine depth ++ quote key ++ ": " ++ prettyAt depth value ++
      prettyMembers depth members

end

def pretty (j : Json) : String := prettyAt 0 j

end Json

end TreeSchema
