import TreeSchema.Proofs.Reading
/-!
# Reading and places

A line has a place, which is its number and a column. Nodes keep the numbers of the lines that open
them, and errors name places. Reading hands places on and never looks at them: if the numbers of
all lines are changed by `f` and the columns by `g`, all that is read changes in the same way.

* `Assembly.step_relocate`, `Assembly.run_relocate`: one line, hence every run.
* `Assembly.finish_relocate`: the schema at the end, or the error that names an open block. Its
  column is always 1, so only the number of its line changes.
-/
namespace TreeSchema

/-! ## Results -/

/-- An error at another place, if it has one. -/
def Error.relocate (f g : Nat → Nat) : Error → Error
  | .block fault line column => .block fault (f line) (g column)
  | e => e

/-- A result at another place: the places in its value are changed by `h`. -/
def relocated {α β : Type} (f g : Nat → Nat) (h : α → β) : Except Error α → Except Error β
  | .ok a => .ok (h a)
  | .error e => .error (e.relocate f g)

/-- Two runs that go along with a change of places step by step do so as a whole. -/
theorem relocated_bind {α β γ δ : Type} {f g : Nat → Nat} {h : α → β} {j : γ → δ}
    {x : Except Error α} {k : α → Except Error γ} {k' : β → Except Error δ}
    (hk : ∀ a, relocated f g j (k a) = k' (h a)) :
    relocated f g j (x >>= k) = relocated f g h x >>= k' := by
  cases x with
  | error e => rfl
  | ok a => exact hk a

/-! ## Nodes -/

namespace Node

mutual

/-- A node with the numbers of the lines that open it and the nodes inside it changed by `f`. -/
def relocate (f : Nat → Nat) : Node → Node
  | ⟨name, line, kind, nested, fields⟩ => ⟨name, f line, kind, relocateAll f nested, fields⟩

def relocateAll (f : Nat → Nat) : List (String × Node) → List (String × Node)
  | [] => []
  | (key, n) :: rest => (key, n.relocate f) :: relocateAll f rest

end

@[simp] theorem relocate_name (f : Nat → Nat) (n : Node) : (n.relocate f).name = n.name := by
  cases n; rfl

@[simp] theorem relocate_kind (f : Nat → Nat) (n : Node) : (n.relocate f).kind = n.kind := by
  cases n; rfl

@[simp] theorem relocate_line (f : Nat → Nat) (n : Node) : (n.relocate f).line = f n.line := by
  cases n; rfl

theorem relocateAll_insert (f : Nat → Nat) (nodes : Entries Node) (key : String) (n : Node) :
    relocateAll f (nodes.insert key n) =
      Entries.insert (relocateAll f nodes) key (n.relocate f) := by
  induction nodes with
  | nil => rfl
  | cons x rest ih =>
    obtain ⟨k, m⟩ := x
    simp only [relocateAll, Entries.insert]
    split
    · rfl
    · simp only [relocateAll, ih]

theorem relocate_insertNode (f : Nat → Nat) (n : Node) (key : String) (child : Node) :
    (n.insertNode key child).relocate f = (n.relocate f).insertNode key (child.relocate f) := by
  cases n
  simp only [insertNode, relocate, relocateAll_insert]

theorem relocate_insertField (f : Nat → Nat) (n : Node) (key : String) (member : Member) :
    (n.insertField key member).relocate f = (n.relocate f).insertField key member := by
  cases n
  rfl

end Node

def Schema.relocate (f : Nat → Nat) (s : Schema) : Schema := ⟨Node.relocateAll f s.nodes⟩

/-! ## Reading -/

def Line.relocate (f g : Nat → Nat) (l : Line) : Line := ⟨l.kind, f l.line, g l.column⟩

def Focus.relocate (f : Nat → Nat) : Focus → Focus
  | .top => .top
  | .node current outer => .node (current.relocate f) (outer.map (Node.relocate f))
  | .group x current outer =>
    .group { x with line := f x.line } (current.relocate f) (outer.map (Node.relocate f))

namespace Assembly

def relocate (f : Nat → Nat) (a : Assembly) : Assembly :=
  ⟨Node.relocateAll f a.nodes, a.focus.relocate f⟩

theorem close?_relocate (f : Nat → Nat) (a : Assembly) :
    (a.relocate f).close? = a.close?.map (relocate f) := by
  obtain ⟨nodes, focus⟩ := a
  cases focus with
  | top => rfl
  | node current outer =>
    cases outer with
    | nil => simp [relocate, Focus.relocate, close?, Node.relocateAll_insert]
    | cons parent outer => simp [relocate, Focus.relocate, close?, Node.relocate_insertNode]
  | group x current outer =>
    simp [relocate, Focus.relocate, close?, Node.relocate_insertField]

theorem openBlock_relocate (f : Nat → Nat) (a : Assembly) (keyword name : String) (line : Nat) :
    (a.relocate f).openBlock keyword name (f line) =
      (a.openBlock keyword name line).map (relocate f) := by
  obtain ⟨nodes, focus⟩ := a
  cases focus with
  | top =>
    simp only [relocate, Focus.relocate, openBlock]
    split
    · rfl
    · split <;> rfl
  | node current outer =>
    simp only [relocate, Focus.relocate, openBlock, Node.relocate_kind, Node.relocate_name]
    split
    · rfl
    · split
      · rfl
      · split <;> rfl
  | group x current outer => rfl

theorem step_relocate (f g : Nat → Nat) (a : Assembly) (l : Line) :
    relocated f g (relocate f) (a.step l).result =
      ((a.relocate f).step (l.relocate f g)).result := by
  obtain ⟨kind, line, column⟩ := l
  cases kind with
  | blank => rfl
  | comment => rfl
  | closeBlock =>
    simp only [step, Line.relocate, close?_relocate]
    cases a.close? with
    | none => rfl
    | some b => rfl
  | openBlock keyword name =>
    simp only [step, Line.relocate, openBlock_relocate]
    cases a.openBlock keyword name line with
    | error fault => rfl
    | ok b => rfl
  | declaration text =>
    obtain ⟨nodes, focus⟩ := a
    cases focus with
    | top =>
      simp only [step, Line.relocate, relocate, Focus.relocate]
      split <;> rfl
    | node current outer =>
      simp [step, Line.relocate, relocate, Focus.relocate, relocated, Node.relocate_insertField]
    | group x current outer => rfl

theorem run_relocate (f g : Nat → Nat) (a : Assembly) (ls : List Line) :
    relocated f g (relocate f) (a.run ls).result =
      ((a.relocate f).run (ls.map (Line.relocate f g))).result := by
  induction ls generalizing a with
  | nil => rfl
  | cons l ls ih =>
    rw [List.map_cons, run_result_cons, run_result_cons, ← step_relocate]
    exact relocated_bind fun b => ih b

theorem finish_relocate (f : Nat → Nat) (a : Assembly) :
    relocated f id (Schema.relocate f) a.finish = (a.relocate f).finish := by
  obtain ⟨nodes, focus⟩ := a
  cases focus with
  | top => rfl
  | node current outer => simp [finish, relocated, relocate, Focus.relocate, Error.relocate]
  | group x current outer => rfl

end Assembly

end TreeSchema
