import TreeSchema.Line
import TreeSchema.Schema
import TreeSchema.Trace
/-!
# From lines to a schema

The lines are read once. An `Assembly` is the schema as far as it has been read: the nodes that are
finished at the top level, and the blocks that are still open. A block joins the block around it
when it closes.
-/
namespace TreeSchema

/-- A `oneof` that is still open. -/
structure Group where
  name : String
  line : Nat
  variants : List String
deriving DecidableEq, Repr

/-- Where the next line belongs: the top level, a node, or a `oneof` inside a node. The open nodes
around it are listed from the inside out. -/
inductive Focus where
  | top
  | node (current : Node) (outer : List Node)
  | group (group : Group) (current : Node) (outer : List Node)

structure Assembly where
  nodes : Entries Node
  focus : Focus

namespace Assembly

def empty : Assembly := ⟨[], .top⟩

/-- Closes the innermost block. Nothing is open at the top level. -/
def close? (a : Assembly) : Option Assembly :=
  match a.focus with
  | .top => none
  | .node current [] => some ⟨a.nodes.insert current.name current, .top⟩
  | .node current (parent :: outer) =>
    some ⟨a.nodes, .node (parent.insertNode current.name current) outer⟩
  | .group group current outer =>
    some ⟨a.nodes, .node (current.insertField group.name (.oneof group.variants)) outer⟩

/-- Opens a block of the kind that the keyword names. -/
def openBlock (a : Assembly) (keyword name : String) (line : Nat) : Except BlockFault Assembly :=
  match a.focus with
  | .group _ _ _ => .error (.insideOneof name)
  | .node current outer =>
    if current.kind = .enum then .error (.insideEnum name current.name)
    else if keyword = "oneof" then .ok ⟨a.nodes, .group ⟨name, line, []⟩ current outer⟩
    else
      match nodeKind? keyword with
      | some kind => .ok ⟨a.nodes, .node (.empty name kind line) (current :: outer)⟩
      | none => .error (.unknownKeyword keyword)
  | .top =>
    if keyword = "oneof" then .error (.strayOneof name)
    else
      match nodeKind? keyword with
      | some kind => .ok ⟨a.nodes, .node (.empty name kind line) []⟩
      | none => .error (.unknownKeyword keyword)
where
  /-- The kind of node that a keyword opens. -/
  nodeKind? (keyword : String) : Option NodeKind :=
    if keyword = "message" then some .message
    else if keyword = "enum" then some .enum
    else none

/-- Reads one line. -/
def step (a : Assembly) (l : Line) : Traced Assembly :=
  match l.kind with
  | .blank | .comment => pure a
  | .closeBlock =>
    match a.close? with
    | some b => pure b
    | none => .fail (.block .unbalanced l.line l.column)
  | .openBlock keyword name =>
    match a.openBlock keyword name l.line with
    | .ok b => pure b
    | .error fault => .fail (.block fault l.line l.column)
  | .declaration text =>
    match a.focus with
    | .top =>
      if isFileStatement text then do
        Traced.note (.skipped text)
        pure a
      else .fail (.block (.outside text) l.line l.column)
    | .node current outer => pure ⟨a.nodes, .node (current.insertField text .plain) outer⟩
    | .group group current outer =>
      pure ⟨a.nodes, .group { group with variants := group.variants ++ [text] } current outer⟩

/-- Reads lines one after another. -/
def run (a : Assembly) : List Line → Traced Assembly
  | [] => pure a
  | l :: ls => do
    let b ← a.step l
    b.run ls

/-- The schema that has been read, if no block is open. The error names the innermost one. -/
def finish (a : Assembly) : Except Error Schema :=
  match a.focus with
  | .top => .ok ⟨a.nodes⟩
  | .node current _ => .error (.block (.unclosed current.name) current.line 1)
  | .group group _ _ => .error (.block (.unclosed group.name) group.line 1)

end Assembly

namespace Schema

/-- The schema that classified lines declare. -/
def ofLines (lines : List Line) : Traced Schema := do
  let a ← Assembly.empty.run lines
  a.finish

/-- The schema that a text declares. -/
def ofText (text : String) : Traced Schema := do
  let lines ← Line.ofText text
  Traced.note (.classified lines.length)
  ofLines lines

end Schema

end TreeSchema
