import TreeSchema.Entries
/-!
# Schemas of syntax trees

A schema declares the nodes of a syntax tree. A message is a node with fields, an enum is a set of
named values, and a message may hold further nodes that only it uses. The declarations inside a
node are kept as they are written; what they say is read in `TreeSchema.Declaration`.
-/
namespace TreeSchema

inductive NodeKind where
  | message
  | enum
deriving DecidableEq, Repr

/-- What stands under a key of a node: a single declaration, which is the key itself, or a `oneof`
with its variants. -/
inductive Member where
  | plain
  | oneof (variants : List String)
deriving DecidableEq, Repr

/-- A declared node. `line` is where its block opens. -/
structure Node where
  name : String
  line : Nat
  kind : NodeKind
  nested : List (String × Node)
  fields : Entries Member

structure Schema where
  nodes : Entries Node

namespace Node

/-- A node without declarations. -/
def empty (name : String) (kind : NodeKind) (line : Nat) : Node := ⟨name, line, kind, [], []⟩

def insertNode (n : Node) (key : String) (child : Node) : Node :=
  { n with nested := Entries.insert n.nested key child }

def insertField (n : Node) (key : String) (member : Member) : Node :=
  { n with fields := Entries.insert n.fields key member }

/-- The variants of the `oneof` that is called `kind`, which tells the forms of a union apart. -/
def unionVariants? (n : Node) : Option (List String) :=
  match n.fields.get? "kind" with
  | some (.oneof variants) => some variants
  | _ => none

/-- A message that is one of several forms and has nothing else. -/
def isUnion (n : Node) : Bool := n.kind == .message && n.unionVariants?.isSome

mutual

/-- The number of nodes in the tree of a node, itself included. -/
def count : Node → Nat
  | ⟨_, _, _, nested, _⟩ => countAll nested + 1

def countAll : List (String × Node) → Nat
  | [] => 0
  | (_, n) :: rest => count n + countAll rest

end

/-- The node that a path of keys leads to, from a list of nodes downwards. -/
def find? (nodes : Entries Node) : List String → Option Node
  | [] => none
  | [key] => nodes.get? key
  | key :: path => (nodes.get? key).bind fun n => find? n.nested path

/-- Changes the node that a path of keys leads to. -/
def alter? (nodes : Entries Node) (f : Node → Node) : List String → Option (Entries Node)
  | [] => none
  | [key] => (nodes.get? key).map fun n => nodes.insert key (f n)
  | key :: path =>
    (nodes.get? key).bind fun n =>
      (alter? n.nested f path).map fun nested => nodes.insert key { n with nested := nested }

end Node

namespace Schema

def empty : Schema := ⟨[]⟩

/-- The node declared at the top level under a name. -/
def get? (s : Schema) (name : String) : Option Node := s.nodes.get? name

def isEnum (s : Schema) (name : String) : Bool :=
  match s.get? name with
  | some n => n.kind == .enum
  | none => false

def isUnion (s : Schema) (name : String) : Bool :=
  match s.get? name with
  | some n => n.isUnion
  | none => false

/-- The number of nodes at every depth. -/
def nodeCount (s : Schema) : Nat := Node.countAll s.nodes

def find? (s : Schema) (path : List String) : Option Node := Node.find? s.nodes path

/-- Puts a node under a key at the top level (the empty path) or inside the node that a path leads
to. -/
def insertNode? (s : Schema) (path : List String) (key : String) (node : Node) : Option Schema :=
  match path with
  | [] => some ⟨s.nodes.insert key node⟩
  | _ => (Node.alter? s.nodes (·.insertNode key node) path).map Schema.mk

/-- Puts a declaration into the node that a path leads to. -/
def insertField? (s : Schema) (path : List String) (key : String) (member : Member) :
    Option Schema :=
  (Node.alter? s.nodes (·.insertField key member) path).map Schema.mk

end Schema

end TreeSchema
