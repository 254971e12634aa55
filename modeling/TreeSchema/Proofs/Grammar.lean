import TreeSchema.Assembly
import TreeSchema.Proofs.Entries
/-!
# The grammar of schemas

The lines that count, which are those that are neither blank nor a comment, form a schema by this
grammar:

    File  ::= (Statement | Node)*
    Node  ::= Open("message", n) (Declaration | Node | Oneof)* Close
            | Open("enum", n) Declaration* Close
    Oneof ::= Open("oneof", n) Declaration* Close

where a `Statement` is a declaration that says something about the file as a whole. An `Item` is a
derivation tree, `FileLines` relates lines to the trees that derive them, and `Schema.ofItems` is
the meaning of a tree, by recursion on it: the children of a block are written in source order into
the entries of its node.
-/
namespace TreeSchema

/-- A declaration, or a block with what stands inside it. A node keeps the number of the line that
opens it. -/
inductive Item where
  | declaration (text : String)
  | oneof (name : String) (variants : List String)
  | message (name : String) (line : Nat) (body : List Item)
  | enum (name : String) (line : Nat) (values : List String)

/-- Whether a line takes part in the structure of the text. -/
def Line.counts (l : Line) : Bool :=
  match l.kind with
  | .blank | .comment => false
  | .openBlock _ _ | .closeBlock | .declaration _ => true

/-! ## Derivations -/

/-- `Declaration*` -/
inductive DeclarationLines : List Line → List String → Prop
  | nil : DeclarationLines [] []
  | cons {l : Line} {t : String} {ls : List Line} {ts : List String} :
    l.kind = .declaration t → DeclarationLines ls ts → DeclarationLines (l :: ls) (t :: ts)

/-- `Open("oneof", n) Declaration* Close` -/
inductive OneofLines : List Line → Item → Prop
  | oneof {o c : Line} {n : String} {ls : List Line} {ts : List String} :
    o.kind = .openBlock "oneof" n → DeclarationLines ls ts → c.kind = .closeBlock →
    OneofLines (o :: ls ++ [c]) (.oneof n ts)

mutual

/-- `Open("message", n) Body Close | Open("enum", n) Declaration* Close` -/
inductive NodeLines : List Line → Item → Prop
  | message {o c : Line} {n : String} {ls : List Line} {body : List Item} :
    o.kind = .openBlock "message" n → BodyLines ls body → c.kind = .closeBlock →
    NodeLines (o :: ls ++ [c]) (.message n o.line body)
  | enum {o c : Line} {n : String} {ls : List Line} {ts : List String} :
    o.kind = .openBlock "enum" n → DeclarationLines ls ts → c.kind = .closeBlock →
    NodeLines (o :: ls ++ [c]) (.enum n o.line ts)

/-- `(Declaration | Node | Oneof)*` -/
inductive BodyLines : List Line → List Item → Prop
  | nil : BodyLines [] []
  | declaration {l : Line} {t : String} {ls : List Line} {items : List Item} :
    l.kind = .declaration t → BodyLines ls items → BodyLines (l :: ls) (.declaration t :: items)
  | node {ns ls : List Line} {item : Item} {items : List Item} :
    NodeLines ns item → BodyLines ls items → BodyLines (ns ++ ls) (item :: items)
  | oneof {os ls : List Line} {item : Item} {items : List Item} :
    OneofLines os item → BodyLines ls items → BodyLines (os ++ ls) (item :: items)

end

/-- `(Statement | Node)*` -/
inductive FileLines : List Line → List Item → Prop
  | nil : FileLines [] []
  | statement {l : Line} {t : String} {ls : List Line} {items : List Item} :
    l.kind = .declaration t → isFileStatement t = true → FileLines ls items →
    FileLines (l :: ls) (.declaration t :: items)
  | node {ns ls : List Line} {item : Item} {items : List Item} :
    NodeLines ns item → FileLines ls items → FileLines (ns ++ ls) (item :: items)

theorem DeclarationLines.append {ls ms : List Line} {ts us : List String}
    (h : DeclarationLines ls ts) (h' : DeclarationLines ms us) :
    DeclarationLines (ls ++ ms) (ts ++ us) := by
  induction h with
  | nil => exact h'
  | cons hl _ ih => exact .cons hl ih

theorem BodyLines.append : ∀ {ls ms : List Line} {items more : List Item},
    BodyLines ls items → BodyLines ms more → BodyLines (ls ++ ms) (items ++ more)
  | _, _, _, _, .nil, h' => h'
  | _, _, _, _, .declaration hl h, h' => .declaration hl (h.append h')
  | _, _, _, _, .node hn h, h' => by
    rw [List.append_assoc]
    exact .node hn (h.append h')
  | _, _, _, _, .oneof ho h, h' => by
    rw [List.append_assoc]
    exact .oneof ho (h.append h')

theorem FileLines.append {ls ms : List Line} {items more : List Item}
    (h : FileLines ls items) (h' : FileLines ms more) :
    FileLines (ls ++ ms) (items ++ more) := by
  induction h with
  | nil => exact h'
  | statement hl hs _ ih => exact .statement hl hs ih
  | node hn _ ih =>
    rw [List.append_assoc]
    exact .node hn ih

/-! ## Meaning -/

/-- What an item puts among the declarations of the node around it. -/
def Item.member? : Item → Option (String × Member)
  | .declaration text => some (text, .plain)
  | .oneof name variants => some (name, .oneof variants)
  | .message _ _ _ | .enum _ _ _ => none

mutual

/-- What an item puts among the nodes inside the node around it. -/
def Item.node? : Item → Option (String × Node)
  | .declaration _ | .oneof _ _ => none
  | .message name line body =>
    some (name, ⟨name, line, .message, Entries.ofList (Item.nodes body),
      Entries.ofList (body.filterMap Item.member?)⟩)
  | .enum name line values =>
    some (name, ⟨name, line, .enum, [], Entries.ofList (values.map (·, .plain))⟩)

/-- The nodes that items declare, in source order. -/
def Item.nodes : List Item → List (String × Node)
  | [] => []
  | item :: items => item.node?.toList ++ Item.nodes items

end

theorem Item.nodes_append (items more : List Item) :
    Item.nodes (items ++ more) = Item.nodes items ++ Item.nodes more := by
  induction items with
  | nil => rfl
  | cons item items ih => simp only [List.cons_append, Item.nodes, ih, List.append_assoc]

/-- The schema that the items of a file declare. -/
def Schema.ofItems (items : List Item) : Schema := ⟨Entries.ofList (Item.nodes items)⟩

end TreeSchema
