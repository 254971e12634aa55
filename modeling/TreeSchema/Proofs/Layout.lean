import TreeSchema.Proofs.Locality
import TreeSchema.Proofs.Places
import TreeSchema.Proofs.RoundTrip
/-!
# The layout of a schema text

Blank lines, comment lines, indentation and the ends of lines are layout. A schema text has a
meaning beyond its layout, which is its significant lines: those that are neither empty nor a
comment, trimmed.

* Places are all that layout changes. `unplaced` leaves them out of lines, open blocks, assemblies
  and errors, and `forget` out of results.
* Forgetting places is one of the changes of places that go along with reading
  (`Assembly.run_unplaced`, `Assembly.finish_unplaced`).
* Encoders are built without a look at places (`Scope.encoder_unplaced`).

`generate_layout` puts these together: texts with the same significant lines have the same module,
or fail alike.
-/
namespace TreeSchema

/-! ## Results without places -/

/-- An error without its place in the text, if it has one. -/
def Error.unplaced : Error → Error
  | .block fault _ _ => .block fault 0 0
  | e => e

/-- A result without places: those of the value are forgotten by `f`. -/
def forget {α β : Type} (f : α → β) : Except Error α → Except Error β
  | .ok a => .ok (f a)
  | .error e => .error e.unplaced

theorem forget_eq_relocated {α β : Type} (f : α → β) (x : Except Error α) :
    forget f x = relocated (fun _ => 0) (fun _ => 0) f x := by
  cases x with
  | ok a => rfl
  | error e => cases e <;> rfl

/-- Two runs that forget to the same step by step forget to the same. -/
theorem forget_bind {α β γ δ : Type} {f : α → β} {g : γ → δ} {x : Except Error α}
    {k : α → Except Error γ} {k' : β → Except Error δ} (h : ∀ a, forget g (k a) = k' (f a)) :
    forget g (x >>= k) = forget f x >>= k' := by
  simp only [forget_eq_relocated] at h ⊢
  exact relocated_bind h

/-- The results are the same value, or they are errors that differ in their places alone. -/
def Alike {α : Type} (x y : Except Error α) : Prop :=
  (∃ a, x = .ok a ∧ y = .ok a) ∨ ∃ e e', x = .error e ∧ y = .error e' ∧ e.unplaced = e'.unplaced

theorem alike_of_forget {α : Type} {x y : Except Error α} (h : forget id x = forget id y) :
    Alike x y := by
  cases x with
  | ok a =>
    cases y with
    | ok b =>
      cases h
      exact .inl ⟨a, rfl, rfl⟩
    | error e => cases h
  | error e =>
    cases y with
    | ok b => cases h
    | error e' => exact .inr ⟨e, e', rfl, rfl, Except.error.inj h⟩

/-! ## Nodes -/

namespace Node

@[simp] theorem unplaced_name (n : Node) : n.unplaced.name = n.name := by cases n; rfl

@[simp] theorem unplaced_kind (n : Node) : n.unplaced.kind = n.kind := by cases n; rfl

@[simp] theorem unplaced_unionVariants? (n : Node) :
    n.unplaced.unionVariants? = n.unionVariants? := by cases n; rfl

theorem get?_unplacedAll (nodes : Entries Node) (key : String) :
    Entries.get? (unplacedAll nodes) key = (nodes.get? key).map unplaced := by
  induction nodes with
  | nil => rfl
  | cons x rest ih =>
    obtain ⟨k, n⟩ := x
    simp only [unplacedAll, Entries.get?_cons, ih]
    split <;> rfl

mutual

theorem unplaced_eq_relocate : ∀ n : Node, n.unplaced = n.relocate fun _ => 0
  | ⟨_, _, _, nested, _⟩ => by rw [unplaced, relocate, unplacedAll_eq_relocateAll nested]

theorem unplacedAll_eq_relocateAll : ∀ nodes : List (String × Node),
    unplacedAll nodes = relocateAll (fun _ => 0) nodes
  | [] => rfl
  | (_, n) :: rest => by
    rw [unplacedAll, relocateAll, unplaced_eq_relocate n, unplacedAll_eq_relocateAll rest]

end

end Node

/-! ## Reading -/

def Line.unplaced (l : Line) : Line := ⟨l.kind, 0, 0⟩

def Focus.unplaced : Focus → Focus
  | .top => .top
  | .node current outer => .node current.unplaced (outer.map Node.unplaced)
  | .group g current outer =>
    .group { g with line := 0 } current.unplaced (outer.map Node.unplaced)

namespace Assembly

def unplaced (a : Assembly) : Assembly := ⟨Node.unplacedAll a.nodes, a.focus.unplaced⟩

theorem unplaced_eq_relocate (a : Assembly) : a.unplaced = a.relocate fun _ => 0 := by
  have hn : Node.unplaced = Node.relocate fun _ => 0 := funext Node.unplaced_eq_relocate
  obtain ⟨nodes, focus⟩ := a
  cases focus <;>
    simp only [unplaced, relocate, Focus.unplaced, Focus.relocate, Node.unplacedAll_eq_relocateAll,
      hn]

theorem run_unplaced (a : Assembly) (ls : List Line) :
    forget unplaced (a.run ls).result = (a.unplaced.run (ls.map Line.unplaced)).result := by
  rw [forget_eq_relocated, unplaced_eq_relocate, funext unplaced_eq_relocate]
  exact run_relocate _ _ a ls

theorem finish_unplaced (a : Assembly) :
    forget Schema.unplaced a.finish = forget id a.unplaced.finish := by
  rw [unplaced_eq_relocate, ← finish_relocate]
  -- the error has a column, which is still to be forgotten
  cases a.finish with
  | ok s =>
    simp only [forget, relocated, Schema.unplaced, Schema.relocate,
      Node.unplacedAll_eq_relocateAll, id_eq]
  | error e => cases e <;> rfl

end Assembly

/-! ## Significant lines -/

namespace Text

/-- The trimmed line is neither empty nor a comment. -/
def isSignificant (t : List Char) : Bool := !t.isEmpty && !(['/', '/'].isPrefixOf t)

/-- The trimmed lines of a text, without those that are empty or comments. -/
def significant (text : String) : List (List Char) :=
  ((lines text.toList).map trim).filter isSignificant

end Text

namespace Line

/-- The lines that count, without their places. -/
def essence (ls : List Line) : List Line := (ls.filter counts).map unplaced

theorem essence_append (ls ms : List Line) : essence (ls ++ ms) = essence ls ++ essence ms := by
  simp [essence]

theorem forget_classifyFrom_cons (n : Nat) (t : List Char) (ts : List (List Char)) :
    forget essence (classifyFrom n (t :: ts)) =
      forget (fun l => essence [l]) (classify n t) >>= fun l =>
        forget essence (classifyFrom (n + 1) ts) >>= fun ls => pure (l ++ ls) := by
  refine forget_bind fun l => forget_bind fun ls => ?_
  change Except.ok _ = Except.ok _
  rw [← essence_append, List.singleton_append]

/-- A line is classified by its trimmed text. -/
theorem forget_classify_trim (n m : Nat) (t : List Char) :
    forget (fun l => essence [l]) (classify n t) =
      forget (fun l => essence [l]) (classify m (Text.trim t)) := by
  simp only [classify, Text.trim_trim]
  cases LineKind.ofTrimmed? (Text.trim t) with
  | none => rfl
  | some kind => cases kind <;> rfl

theorem forget_classify_insignificant (n : Nat) {t : List Char}
    (h : Text.isSignificant (Text.trim t) = false) :
    forget (fun l => essence [l]) (classify n t) = .ok [] := by
  unfold Text.isSignificant at h
  by_cases he : (Text.trim t).isEmpty
  · have hk : LineKind.ofTrimmed? (Text.trim t) = some .blank := by
      rw [LineKind.ofTrimmed?, if_pos he]
    simp only [classify, hk]
    rfl
  · have hc : ['/', '/'].isPrefixOf (Text.trim t) := by simpa [he] using h
    have hk : LineKind.ofTrimmed? (Text.trim t) = some .comment := by
      rw [LineKind.ofTrimmed?, if_neg he, if_pos hc]
    simp only [classify, hk]
    rfl

theorem forget_classifyFrom (n m : Nat) (ts : List (List Char)) :
    forget essence (classifyFrom n ts) =
      forget essence (classifyFrom m ((ts.map Text.trim).filter Text.isSignificant)) := by
  induction ts generalizing n m with
  | nil => rfl
  | cons t ts ih =>
    rw [forget_classifyFrom_cons, List.map_cons]
    cases h : Text.isSignificant (Text.trim t) with
    | true =>
      rw [List.filter_cons_of_pos h, forget_classifyFrom_cons, ← forget_classify_trim n m t,
        ih (n + 1) (m + 1)]
    | false =>
      rw [List.filter_cons_of_neg (by simp [h]), forget_classify_insignificant n h, ok_bind,
        ih (n + 1) m]
      cases forget essence (classifyFrom m _) <;> rfl

end Line

namespace Schema

theorem ofLines_unplaced (ls : List Line) :
    forget unplaced (ofLines ls).result = forget id (ofLines (Line.essence ls)).result := by
  have hrun : (Assembly.empty.run (Line.essence ls)).result =
      forget Assembly.unplaced (Assembly.empty.run ls).result := by
    rw [← Assembly.run_filter_counts _ ls]
    exact (Assembly.run_unplaced .empty (ls.filter Line.counts)).symm
  rw [ofLines_result, ofLines_result, hrun]
  cases (Assembly.empty.run ls).result with
  | error e => cases e <;> rfl
  | ok a => exact a.finish_unplaced

/-- The schema of a text, without places, hangs on the significant lines alone. -/
theorem forget_ofText (text : String) :
    forget unplaced (ofText text).result =
      forget Line.essence (Line.classifyFrom 1 (Text.significant text)) >>= fun ls =>
        forget id (ofLines ls).result := by
  rw [ofText_result, Line.ofText, Text.significant, ← Line.forget_classifyFrom 1]
  exact forget_bind fun ls => ofLines_unplaced ls

end Schema

/-! ## Generation -/

namespace Scope

mutual

theorem encoder_unplaced (cx : Scope) (path : List String) (key : String) : ∀ n : Node,
    cx.encoder path key n.unplaced = cx.encoder path key n
  | ⟨name, line, .enum, nested, fields⟩ => rfl
  | ⟨name, line, .message, nested, fields⟩ => by
    have h := encoders_unplaced cx (path ++ [key]) nested
    -- the dispatch asks for the fields only
    have hd : ∀ qualified,
        cx.dispatch qualified ⟨name, 0, .message, Node.unplacedAll nested, fields⟩ =
          cx.dispatch qualified ⟨name, line, .message, nested, fields⟩ := fun _ => rfl
    simp only [Node.unplaced, encoder, h, hd]

theorem encoders_unplaced (cx : Scope) (path : List String) : ∀ nodes : List (String × Node),
    cx.encoders path (Node.unplacedAll nodes) = cx.encoders path nodes
  | [] => rfl
  | (key, n) :: rest => by
    rw [Node.unplacedAll, encoders, encoders, encoder_unplaced cx path key n,
      encoders_unplaced cx path rest]

end

end Scope

namespace Schema

theorem facade?_unplaced (s : Schema) (name : String) :
    s.unplaced.facade? name = s.facade? name := by
  unfold facade? get? unplaced
  rw [Node.get?_unplacedAll, Option.map_map]
  simp [Function.comp_def]

theorem nodeTypes_unplaced (s : Schema) (c : Config) : s.unplaced.nodeTypes c = s.nodeTypes c := by
  obtain ⟨nodes⟩ := s
  unfold nodeTypes unplaced
  induction nodes with
  | nil => rfl
  | cons x rest ih =>
    obtain ⟨key, n⟩ := x
    simp only [Node.unplacedAll, List.filterMap_cons, Node.unplaced_kind, ih]

theorem encoders_unplaced (s : Schema) (c : Config) : s.unplaced.encoders c = s.encoders c := by
  have h := Scope.AgreeOn.of_facade? s.facade?_unplaced c
  unfold encoders
  rw [(h _).encoders]
  exact Scope.encoders_unplaced _ _ _

theorem moduleText_unplaced (s : Schema) (c : Config) :
    (s.unplaced.moduleText c).result = (s.moduleText c).result := by
  rw [moduleText_result, moduleText_result, nodeTypes_unplaced, encoderLines, encoders_unplaced]
  rfl

end Schema

theorem forget_generate (text : String) (c : Config) :
    forget id (generate text c).result =
      forget Schema.unplaced (Schema.ofText text).result >>= fun s =>
        forget id (s.moduleText c).result := by
  rw [generate, Traced.result_bind]
  exact forget_bind fun s => by rw [s.moduleText_unplaced]

/-- Texts that differ in their layout alone have the same module, or they fail with errors that
differ in their places alone. -/
theorem generate_layout (c : Config) {text other : String}
    (h : Text.significant text = Text.significant other) :
    Alike (generate text c).result (generate other c).result := by
  refine alike_of_forget ?_
  rw [forget_generate, forget_generate, Schema.forget_ofText, Schema.forget_ofText, h]

/-- Other ends of lines, blank lines and comments inside blocks, for a text that is accepted and for
one with a block that is not closed: the place of the error is all that changes. -/
theorem generate_layout_spread :
    let c := Config.standard
    let text := "message A \x7b\noneof kind \x7b\nBNode b; // [x]\n\x7d\n\x7d"
    let spread :=
      "// a\r\n\tmessage A \x7b \r\n// b\r\noneof kind \x7b\r\nBNode b; // [x]\n\n\x7d\n  \x7d\n"
    let unclosed := "message A \x7b\nenum E \x7b"
    let spreadUnclosed := "// a\nmessage A \x7b\r\n\r\n  enum E \x7b\n"
    Text.significant text = Text.significant spread ∧
      Alike (generate text c).result (generate spread c).result ∧
      Text.significant unclosed = Text.significant spreadUnclosed ∧
      Alike (generate unclosed c).result (generate spreadUnclosed c).result ∧
      (generate unclosed c).result = .error (.block (.unclosed "E") 2 1) ∧
      (generate spreadUnclosed c).result = .error (.block (.unclosed "E") 4 1) := by
  intro c text spread unclosed spreadUnclosed
  have h : Text.significant text = Text.significant spread := by decide +kernel
  have hu : Text.significant unclosed = Text.significant spreadUnclosed := by decide +kernel
  refine ⟨h, generate_layout c h, hu, generate_layout c hu, ?_, ?_⟩
  · subst c unclosed
    rfl
  · subst c spreadUnclosed
    rfl

end TreeSchema
