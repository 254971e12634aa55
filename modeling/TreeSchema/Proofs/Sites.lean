import TreeSchema.Proofs.Locality
import TreeSchema.Proofs.Openings
import TreeSchema.Proofs.Records
import TreeSchema.Proofs.RoundTrip
/-!
# The place of every encoder

Each node of a schema has one encoder, and the encoders of nested nodes stand inside those of the
nodes around them. A `Site` is the place of a node in the tree of the schema, and `Schema.sites`
lists them, a node before the nodes inside it. The first line of an encoder is told by its site:
`Site.header` says how deep it is indented, whether it is exported, and which names it has.

* `headers_encoders`: the lines that begin like an encoder are the headers of the sites, in order.
  The induction goes down the tree, and each step adds two spaces to what is inside.
* `records_encoders`: the same sites are noted in the same order.
* `leafEnums_of_ofLines`: nothing is nested inside an enum that has been read. Generation would pass
  over it.

`encoderLines_sites` is all of this for a schema.
-/
namespace TreeSchema

/-! ## Sites -/

/-- Where a node stands in a schema: the names of the nodes around it, from the outside in, and its
own name. -/
structure Site where
  outer : List String
  key : String
  kind : NodeKind
deriving DecidableEq, Repr

namespace Site

def qualified (c : Config) (x : Site) : String :=
  c.pathSeparator.intercalate (x.outer ++ [x.key])

def parameter (c : Config) (x : Site) : String :=
  match x.kind with
  | .enum => "value: string"
  | .message => Encoder.parameter (c.isNullable (x.qualified c)) ++ ": ASTNode"

/-- The first line of an encoder, apart from its indentation. -/
def opening (c : Config) (x : Site) : String :=
  (if x.outer = [] then "export " else "") ++ "function encode" ++ x.key ++ "(" ++ x.parameter c ++
    "): proto." ++ x.qualified c ++ " \x7b"

/-- The first line of an encoder: two spaces for each node around it, and the word `export` if there
is none. -/
def header (c : Config) (x : Site) : String :=
  String.ofList (List.replicate (2 * x.outer.length) ' ') ++ x.opening c

theorem exportMark_isEmpty (outer : List String) :
    Encoder.exportMark outer.isEmpty = if outer = [] then "export " else "" := by
  cases outer <;> rfl

theorem opening_enum (cx : Scope) (outer : List String) (key : String) :
    Encoder.exportMark outer.isEmpty ++ "function encode" ++ key ++ "(value: string): proto." ++
      cx.qualify (outer ++ [key]) ++ " \x7b" = opening cx.config ⟨outer, key, .enum⟩ := by
  have hl : "(value: string): proto." = "(" ++ ("value: string" ++ "): proto.") := by decide
  rw [exportMark_isEmpty, hl]
  simp only [opening, parameter, qualified, Scope.qualify, String.append_assoc]

theorem opening_message (cx : Scope) (outer : List String) (key : String) :
    Encoder.exportMark outer.isEmpty ++ "function encode" ++ key ++ "(" ++
      Encoder.parameter (cx.config.isNullable (cx.qualify (outer ++ [key]))) ++
      ": ASTNode): proto." ++ cx.qualify (outer ++ [key]) ++ " \x7b" =
      opening cx.config ⟨outer, key, .message⟩ := by
  have hl : ": ASTNode): proto." = ": ASTNode" ++ "): proto." := by decide
  rw [exportMark_isEmpty, hl]
  simp only [opening, parameter, qualified, Scope.qualify, String.append_assoc]

/-- What is noted when the encoder is begun. -/
def record (c : Config) (x : Site) : String :=
  match x.kind with
  | .enum => "generating enum decoder for " ++ x.qualified c
  | .message => "generating message encoder for " ++ x.qualified c

end Site

namespace Node

mutual

/-- The sites of a node and of the nodes inside it, a node before those inside it. -/
def sites (outer : List String) (key : String) : Node → List Site
  | ⟨_, _, kind, nested, _⟩ => ⟨outer, key, kind⟩ :: sitesAll (outer ++ [key]) nested

def sitesAll (outer : List String) : List (String × Node) → List Site
  | [] => []
  | (key, n) :: rest => sites outer key n ++ sitesAll outer rest

end

mutual

theorem length_sites (outer : List String) (key : String) : ∀ n : Node,
    (sites outer key n).length = n.count
  | ⟨_, _, _, nested, _⟩ => by
    rw [sites, count, List.length_cons, length_sitesAll (outer ++ [key]) nested]

theorem length_sitesAll (outer : List String) : ∀ nodes : List (String × Node),
    (sitesAll outer nodes).length = countAll nodes
  | [] => rfl
  | (key, n) :: rest => by
    rw [sitesAll, countAll, List.length_append, length_sites outer key n,
      length_sitesAll outer rest]

end

/-- No enum among the nodes, at any depth, has nodes inside it. -/
def LeafEnums (nodes : List (String × Node)) : Prop :=
  ∀ key n, Under nodes key n → n.kind = .enum → n.nested = []

namespace LeafEnums

variable {a b nodes : List (String × Node)} {key : String} {n : Node}

theorem nil : LeafEnums [] := fun _ _ hn => (not_under_nil hn).elim

theorem mono (h : LeafEnums b) (hab : a ⊆ b) : LeafEnums a := fun k m hm => h k m (hm.mono hab)

theorem append (ha : LeafEnums a) (hb : LeafEnums b) : LeafEnums (a ++ b) := by
  intro k m hm
  rcases under_append hm with hm | hm
  · exact ha k m hm
  · exact hb k m hm

theorem singleton (hn : n.kind = .enum → n.nested = []) (h : LeafEnums n.nested) :
    LeafEnums [(key, n)] := by
  intro k m hm
  rcases under_singleton hm with ⟨-, rfl⟩ | hm
  · exact hn
  · exact h k m hm

theorem inner (h : LeafEnums nodes) (hm : (key, n) ∈ nodes) : LeafEnums n.nested :=
  fun k m hn => h k m (.inside hm hn)

end LeafEnums

end Node

def Schema.sites (s : Schema) : List Site := Node.sitesAll [] s.nodes

/-! ## First lines -/

namespace Encoder

theorem opensFunction_first (exported : Bool) (rest : String) :
    opensFunction (exportMark exported ++ "function encode" ++ rest) = true := by
  cases exported <;> simp [opensFunction, exportMark]

theorem filter_enumLines (exported : Bool) (name qualified : String) (values : List EnumValue) :
    (enumLines exported name qualified values).filter opensFunction =
      [exportMark exported ++ "function encode" ++ name ++ "(value: string): proto." ++ qualified ++
        " \x7b"] := by
  have hvalues : Quiet (indent 2 (values.map fun v => "if (value === " ++ quote v.tag ++
      ") return proto." ++ qualified ++ "." ++ v.symbol ++ ";")) := by
    refine .indent (.map values fun v => ?_) 2
    simp only [String.append_assoc]
    exact startsApart_append (by decide) _
  have htags : Quiet (indent 6 (values.map fun v => quote v.tag ++ ",")) := by
    refine .indent (.map values fun v => startsApart_append ?_ _) 6
    rw [startsApart, quote, String.toList_ofList]
    rfl
  have hthrow : Quiet ["", "  throw \x7b", "    expected: ["] := by decide
  have hend : Quiet ["    ],", "    found: value,", "  \x7d;", "\x7d", ""] := by decide
  unfold enumLines
  simp only [List.filter_append, hvalues.filter_eq_nil, htags.filter_eq_nil, hthrow.filter_eq_nil,
    hend.filter_eq_nil, List.append_nil]
  rw [List.filter_cons_of_pos, List.filter_nil]
  simp only [String.append_assoc]
  rw [← String.append_assoc]
  exact opensFunction_first _ _

theorem filter_message (exported : Bool) (name qualified : String) (nullable : Bool)
    (nested : List Encoder) {dispatch : Dispatch} (h : Quiet dispatch.lines) :
    ((message name qualified nullable nested dispatch).lines exported).filter opensFunction =
      (exportMark exported ++ "function encode" ++ name ++ "(" ++ parameter nullable ++
        ": ASTNode): proto." ++ qualified ++ " \x7b") ::
        indent 2 ((linesAll false nested).filter opensFunction) := by
  have hparts : Quiet (if nullable then ["const " ++ nodePattern ++ " = ast ?? \x7b\x7d"]
      else []) := by
    cases nullable <;> decide
  have hreturn : Quiet
      ["  return matchEncoding<proto." ++ qualified ++ ">(" ++ matcher nullable ++ ")"] := by
    refine .singleton (opensFunction_of_startsApart ?_)
    simp only [String.append_assoc]
    exact startsApart_append (by decide) _
  have hend : Quiet ["    .end()", "\x7d", ""] := by decide
  rw [lines]
  simp only [List.filter_append, filter_indent, hparts.filter_eq_nil, hreturn.filter_eq_nil,
    h.filter_eq_nil, hend.filter_eq_nil, List.append_nil]
  rw [List.filter_cons_of_pos, List.filter_nil]
  · simp [indent]
  · simp only [String.append_assoc]
    rw [← String.append_assoc]
    exact opensFunction_first _ _

end Encoder

namespace Scope

mutual

theorem headers_encoder (cx : Scope) (outer : List String) (key : String) :
    ∀ (n : Node) {e : Encoder}, Node.LeafEnums [(key, n)] →
      (cx.encoder outer key n).result = .ok e →
      indent (2 * outer.length) ((e.lines outer.isEmpty).filter opensFunction) =
        (n.sites outer key).map (Site.header cx.config)
  | ⟨name, line, .enum, nested, fields⟩, e, hleaf, h => by
    obtain rfl : nested = [] := hleaf key _ (.here List.mem_cons_self) rfl
    obtain ⟨values, -, rfl⟩ := encoder_enum_eq_ok.1 h
    rw [Encoder.lines, Encoder.filter_enumLines, Site.opening_enum]
    rfl
  | ⟨name, line, .message, nested, fields⟩, e, hleaf, h => by
    obtain ⟨inner, hinner, d, hd, rfl⟩ := encoder_message_eq_ok.1 h
    have ih := headers_encoders cx (outer ++ [key]) nested (hleaf.inner List.mem_cons_self) hinner
    -- what is inside a node is not exported, and two spaces deeper
    have hempty : (outer ++ [key]).isEmpty = false := by simp
    have hdepth : 2 * (outer ++ [key]).length = 2 * outer.length + 2 := by
      rw [List.length_append, List.length_singleton]
      omega
    rw [hempty, hdepth] at ih
    rw [Encoder.filter_message _ _ _ _ _ (quiet_dispatch hd), indent_cons, indent_indent,
      Site.opening_message, ih]
    rfl

theorem headers_encoders (cx : Scope) (outer : List String) :
    ∀ (nodes : List (String × Node)) {es : List Encoder}, Node.LeafEnums nodes →
      (cx.encoders outer nodes).result = .ok es →
      indent (2 * outer.length) ((Encoder.linesAll outer.isEmpty es).filter opensFunction) =
        (Node.sitesAll outer nodes).map (Site.header cx.config)
  | [], es, _, h => by
    cases h
    rfl
  | (key, n) :: rest, es, hleaf, h => by
    obtain ⟨e, he, es, hes, rfl⟩ := encoders_cons_eq_ok.1 h
    rw [Encoder.linesAll, List.filter_append, indent_append, Node.sitesAll, List.map_append,
      headers_encoder cx outer key n (hleaf.mono (by simp)) he,
      headers_encoders cx outer rest (hleaf.mono (by simp)) hes]

end

end Scope

/-! ## Records -/

open Traced

namespace Scope

mutual

theorem records_encoder (cx : Scope) (outer : List String) (key : String) :
    ∀ (n : Node) {e : Encoder}, Node.LeafEnums [(key, n)] →
      (cx.encoder outer key n).result = .ok e →
      (cx.encoder outer key n).debugRecords = (n.sites outer key).map (Site.record cx.config)
  | ⟨name, line, .enum, nested, fields⟩, e, hleaf, h => by
    obtain rfl : nested = [] := hleaf key _ (.here List.mem_cons_self) rfl
    have hvalues : (liftM (enumValues (Entries.keys fields)) >>= fun values =>
        (pure (.enum key (cx.qualify (outer ++ [key])) values) : Traced Encoder)).Silent :=
      (silent_liftM _).bind fun _ => silent_pure _
    rw [encoder]
    refine (debugRecords_note_bind rfl _).trans ?_
    rw [hvalues.debugRecords]
    rfl
  | ⟨name, line, .message, nested, fields⟩, e, hleaf, h => by
    obtain ⟨inner, hinner, d, hd, rfl⟩ := encoder_message_eq_ok.1 h
    have ih := records_encoders cx (outer ++ [key]) nested (hleaf.inner List.mem_cons_self) hinner
    rw [encoder]
    refine (debugRecords_note_bind rfl _).trans ?_
    rw [debugRecords_bind hinner, debugRecords_bind hd, (silent_dispatch _ _ _).debugRecords,
      (silent_pure _).debugRecords, ih, List.append_nil, List.append_nil]
    rfl

theorem records_encoders (cx : Scope) (outer : List String) :
    ∀ (nodes : List (String × Node)) {es : List Encoder}, Node.LeafEnums nodes →
      (cx.encoders outer nodes).result = .ok es →
      (cx.encoders outer nodes).debugRecords =
        (Node.sitesAll outer nodes).map (Site.record cx.config)
  | [], es, _, h => rfl
  | (key, n) :: rest, es, hleaf, h => by
    obtain ⟨e, he, es, hes, rfl⟩ := encoders_cons_eq_ok.1 h
    rw [encoders, debugRecords_bind he, debugRecords_bind hes, (silent_pure _).debugRecords,
      List.append_nil, Node.sitesAll, List.map_append,
      records_encoder cx outer key n (hleaf.mono (by simp)) he,
      records_encoders cx outer rest (hleaf.mono (by simp)) hes]

end

end Scope

/-! ## Schemas that are read -/

mutual

theorem Item.leafEnums_node? : ∀ item : Item, Node.LeafEnums item.node?.toList
  | .declaration _ => .nil
  | .oneof _ _ => .nil
  | .message _ _ body =>
    .singleton nofun ((Item.leafEnums_nodes body).mono fun _ hx => Entries.mem_of_mem_ofList hx)
  | .enum _ _ _ => .singleton (fun _ => rfl) .nil

theorem Item.leafEnums_nodes : ∀ items : List Item, Node.LeafEnums (Item.nodes items)
  | [] => .nil
  | item :: items => .append (Item.leafEnums_node? item) (Item.leafEnums_nodes items)

end

namespace Schema

theorem leafEnums_of_ofLines {lines : List Line} {s : Schema} (h : (ofLines lines).result = .ok s) :
    Node.LeafEnums s.nodes := by
  obtain ⟨items, hitems⟩ := fileLines_of_ofLines h
  rw [ofLines_of_fileLines hitems] at h
  cases h
  exact (Item.leafEnums_nodes items).mono fun _ hx => Entries.mem_of_mem_ofList hx

end Schema

end TreeSchema
