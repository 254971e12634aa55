import TreeSchema.Config.Reader
import TreeSchema.Proofs.Entries
import TreeSchema.Proofs.JsonGrammar
/-!
# Settings written as an object

Any of the eight settings may be given, in any order, with any blanks between the tokens and with
other entries among them. `ofJson_object` says what the settings are then: what is given is as
given, and all else is as in `Config.standard`.

The settings are taken by key, so that nothing has to be said eight times: `Key.Value` is what may
stand under a key, and `get` and `set` obey the two laws of a field (`get_set_self`,
`get_set_of_ne`). Reading an entry is one `set` (`readValue_append`), or nothing at all
(`IsValue.skip`), and reading the object is one after another (`readMembers_items`).
-/
namespace TreeSchema

/-! ## Settings by key -/

/-- What may be given for a key. -/
def Config.Key.Value : Key → Type
  | .protoImport | .matchImport | .interceptImport | .nodeSuffix | .pathSeparator => String
  | .nullableNodes | .typeofOneofNodes => List String
  | .fixedGuards => Entries String

namespace Config

def get (c : Config) : (key : Key) → key.Value
  | .protoImport => c.protoImport
  | .matchImport => c.matchImport
  | .interceptImport => c.interceptImport
  | .nodeSuffix => c.nodeSuffix
  | .pathSeparator => c.pathSeparator
  | .nullableNodes => c.nullableNodes
  | .fixedGuards => c.fixedGuards
  | .typeofOneofNodes => c.typeofOneofNodes

def set (c : Config) : (key : Key) → key.Value → Config
  | .protoImport, text => { c with protoImport := text }
  | .matchImport, text => { c with matchImport := text }
  | .interceptImport, text => { c with interceptImport := text }
  | .nodeSuffix, text => { c with nodeSuffix := text }
  | .pathSeparator, text => { c with pathSeparator := text }
  | .nullableNodes, names => { c with nullableNodes := names }
  | .fixedGuards, guards => { c with fixedGuards := guards }
  | .typeofOneofNodes, names => { c with typeofOneofNodes := names }

theorem get_set_self (c : Config) (key : Key) (value : key.Value) :
    (c.set key value).get key = value := by
  cases key <;> rfl

theorem get_set_of_ne (c : Config) {key other : Key} (h : other ≠ key) (value : key.Value) :
    (c.set key value).get other = c.get other := by
  cases key <;> cases other <;> trivial

theorem eq_of_get {c d : Config} (h : ∀ key, c.get key = d.get key) : c = d := by
  obtain ⟨_, _, _, _, _, _, _, _⟩ := c
  obtain ⟨_, _, _, _, _, _, _, _⟩ := d
  congr
  · exact h .protoImport
  · exact h .matchImport
  · exact h .interceptImport
  · exact h .nodeSuffix
  · exact h .pathSeparator
  · exact h .nullableNodes
  · exact h .fixedGuards
  · exact h .typeofOneofNodes

/-- Some of the settings, each with its value. -/
def Given : Type := (key : Key) → Option key.Value

/-- The settings with what is given, and with the standard for what is not. -/
def ofGiven (given : Given) : Config where
  protoImport := (given .protoImport).getD standard.protoImport
  matchImport := (given .matchImport).getD standard.matchImport
  interceptImport := (given .interceptImport).getD standard.interceptImport
  nodeSuffix := (given .nodeSuffix).getD standard.nodeSuffix
  pathSeparator := (given .pathSeparator).getD standard.pathSeparator
  nullableNodes := (given .nullableNodes).getD standard.nullableNodes
  fixedGuards := (given .fixedGuards).getD standard.fixedGuards
  typeofOneofNodes := (given .typeofOneofNodes).getD standard.typeofOneofNodes

theorem get_ofGiven (given : Given) (key : Key) :
    (ofGiven given).get key = (given key).getD (standard.get key) := by
  cases key <;> rfl

/-- A key with a value for it. -/
abbrev Setting : Type := (key : Key) × key.Value

/-- What is given, in the order of the keys. -/
def Given.settings (given : Given) : List Setting :=
  Key.all.filterMap fun key => (given key).map (Sigma.mk key)

theorem Given.mem_settings {given : Given} {key : Key} {value : key.Value} :
    ⟨key, value⟩ ∈ given.settings ↔ given key = some value := by
  have hkey : key ∈ Key.all := by cases key <;> decide
  rw [settings, List.mem_filterMap]
  constructor
  · rintro ⟨other, -, h⟩
    obtain ⟨v, hv, he⟩ := Option.map_eq_some_iff.1 h
    cases he
    exact hv
  · intro h
    exact ⟨key, hkey, by rw [h]; rfl⟩

theorem Given.nodup_settings (given : Given) : (given.settings.map Sigma.fst).Nodup := by
  have h (keys : List Key) :
      ((keys.filterMap fun key => (given key).map (Sigma.mk key)).map Sigma.fst).Sublist keys := by
    induction keys with
    | nil => exact .slnil
    | cons key keys ih =>
      cases hg : given key with
      | none =>
        rw [List.filterMap_cons_none (by rw [hg]; rfl)]
        exact ih.cons key
      | some value =>
        rw [List.filterMap_cons_some (by rw [hg]; rfl)]
        exact ih.cons_cons key
  exact List.Pairwise.sublist (h Key.all) (by decide)

/-- Takes settings over one after another. -/
def setAll (c : Config) (settings : List Setting) : Config :=
  settings.foldl (fun c s => c.set s.1 s.2) c

theorem get_setAll_of_not_mem (c : Config) {settings : List Setting} {key : Key}
    (h : key ∉ settings.map Sigma.fst) : (c.setAll settings).get key = c.get key := by
  induction settings generalizing c with
  | nil => rfl
  | cons s settings ih =>
    simp only [List.map_cons, List.mem_cons, not_or] at h
    exact (ih (c.set s.1 s.2) h.2).trans (get_set_of_ne c h.1 s.2)

theorem get_setAll_of_mem (c : Config) {settings : List Setting}
    (hnodup : (settings.map Sigma.fst).Nodup) {key : Key} {value : key.Value}
    (h : ⟨key, value⟩ ∈ settings) : (c.setAll settings).get key = value := by
  induction settings generalizing c with
  | nil => cases h
  | cons s settings ih =>
    rw [List.map_cons, List.nodup_cons] at hnodup
    rcases List.mem_cons.1 h with rfl | h
    · exact (get_setAll_of_not_mem (c.set key value) hnodup.1).trans (get_set_self c key value)
    · exact ih (c.set s.1 s.2) hnodup.2 h

/-- In whatever order what is given is taken over, the settings are the same. -/
theorem setAll_perm {given : Given} {settings : List Setting} (h : settings.Perm given.settings) :
    standard.setAll settings = ofGiven given := by
  have hnodup : (settings.map Sigma.fst).Nodup :=
    (h.map Sigma.fst).nodup_iff.2 given.nodup_settings
  refine eq_of_get fun key => ?_
  rw [get_ofGiven]
  cases hg : given key with
  | some value =>
    exact get_setAll_of_mem standard hnodup (h.mem_iff.2 (Given.mem_settings.2 hg))
  | none =>
    refine get_setAll_of_not_mem standard fun hkey => ?_
    obtain ⟨⟨_, value⟩, hs, rfl⟩ := List.mem_map.1 hkey
    rw [Given.mem_settings.1 (h.mem_iff.1 hs)] at hg
    cases hg

/-! ## How settings are written -/

open JsonText

def StringText (text : String) (s : List Char) : Prop := s = (quote text).toList

/-- A list of texts. -/
def ListText (texts : List String) (s : List Char) : Prop :=
  ∃ t, Items StringText true texts t ∧ s = '[' :: (t ++ [']'])

/-- An object with texts under keys that are distinct. -/
def EntriesText (entries : Entries String) (s : List Char) : Prop :=
  entries.keys.Nodup ∧
    ∃ t, Items (fun e => MemberText (quote e.1).toList (quote e.2).toList) true entries t ∧
      s = '\x7b' :: (t ++ ['\x7d'])

def ValueText : (key : Key) → key.Value → List Char → Prop
  | .protoImport | .matchImport | .interceptImport | .nodeSuffix | .pathSeparator => StringText
  | .nullableNodes | .typeofOneofNodes => ListText
  | .fixedGuards => EntriesText

/-- An entry of the object: a setting, or one under a label that is no key. -/
inductive Entry where
  | setting (s : Setting)
  | foreign (label : String) (unknown : ∀ key : Key, key.label ≠ label)

namespace Entry

def setting? : Entry → Option Setting
  | .setting s => some s
  | .foreign _ _ => none

def label : Entry → String
  | .setting s => s.1.label
  | .foreign label _ => label

/-- The value of an entry. Under a label that is no key it may be any. -/
def HasValue : Entry → List Char → Prop
  | .setting s => ValueText s.1 s.2
  | .foreign _ _ => IsValue

def Written (e : Entry) (s : List Char) : Prop :=
  ∃ value, e.HasValue value ∧ MemberText (quote e.label).toList value s

end Entry

/-- A text that is an object with the given entries, and nothing else. -/
def ObjectText (entries : List Entry) (s : List Char) : Prop :=
  ∃ a b t, Blanks a ∧ Blanks b ∧ Items Entry.Written true entries t ∧
    s = a ++ '\x7b' :: (t ++ '\x7d' :: b)

end Config

/-! ## Texts, lists and objects are read back -/

namespace JsonText

theorem starts_member {key : String} {value s : List Char}
    (h : MemberText (quote key).toList value s) : Starts s := by
  obtain ⟨a, b, -, -, hs⟩ := h
  rw [hs]
  exact starts_quote key _

section
variable {first : Bool} {s rest : List Char}

theorem stringItems_of_stop (h : turn ']' first s = .ok (.stop rest)) :
    stringItems first s = .ok ([], rest) := by
  rw [stringItems]
  grind

theorem stringItems_of_item {item text tail : List Char} (h : turn ']' first s = .ok (.item item))
    (hs : string item = .ok (text, tail)) :
    stringItems first s =
      (stringItems false tail).map fun (texts, rest) => (String.ofList text :: texts, rest) := by
  rw [stringItems]
  grind

theorem stringMembers_of_stop (h : turn '\x7d' first s = .ok (.stop rest)) :
    stringMembers first s = .ok ([], rest) := by
  rw [stringMembers]
  grind

theorem stringMembers_of_item {item name value text tail : List Char}
    (h : turn '\x7d' first s = .ok (.item item)) (hk : key item = .ok (name, rest))
    (hc : colon rest = .ok value) (hs : string value = .ok (text, tail)) :
    stringMembers first s =
      (stringMembers false tail).map fun (members, rest) =>
        ((String.ofList name, String.ofList text) :: members, rest) := by
  rw [stringMembers]
  grind

end

/-- The reader of members gets to the value of one, with its key in hand. -/
theorem member_append {key : String} {value m : List Char}
    (h : MemberText (quote key).toList value m) (s : List Char) :
    ∃ rest b, Blanks b ∧ JsonText.key (m ++ s) = .ok (key.toList, rest) ∧
      colon rest = .ok (b ++ (value ++ s)) := by
  obtain ⟨a, b, ha, hb, hm⟩ := h
  refine ⟨a ++ ':' :: (b ++ (value ++ s)), b, hb, ?_, colon_append ha _⟩
  rw [hm, List.append_assoc, List.append_assoc, List.cons_append, List.append_assoc]
  exact key_quote key _

open Config

theorem stringItems_append {first : Bool} {texts : List String} {t : List Char}
    (h : Items StringText first texts t) (s : List Char) :
    stringItems first (t ++ ']' :: s) = .ok (texts, s) := by
  induction texts generalizing first t with
  | nil => exact stringItems_of_stop (h.turn_nil (by decide) s)
  | cons text texts ih =>
    have hstarts (u : List Char) (hu : StringText text u) : Starts u := by
      have := starts_quote text []
      rwa [List.append_nil, ← hu] at this
    obtain ⟨u, v, hu, hv, hturn⟩ := h.turn_cons ']' (by decide) hstarts (']' :: s)
    have hitem : string (u ++ (v ++ ']' :: s)) = .ok (text.toList, v ++ ']' :: s) := by
      rw [hu]
      exact string_quote text _
    rw [stringItems_of_item hturn hitem, ih hv]
    simp only [Except.map, String.ofList_toList]

theorem stringMembers_append {first : Bool} {entries : List (String × String)} {t : List Char}
    (h : Items (fun e => MemberText (quote e.1).toList (quote e.2).toList) first entries t)
    (s : List Char) : stringMembers first (t ++ '\x7d' :: s) = .ok (entries, s) := by
  induction entries generalizing first t with
  | nil => exact stringMembers_of_stop (h.turn_nil (by decide) s)
  | cons e entries ih =>
    obtain ⟨u, v, hu, hv, hturn⟩ := h.turn_cons '\x7d' (by decide) (fun _ => starts_member) ('\x7d' :: s)
    obtain ⟨rest, b, hb, hkey, hcolon⟩ := member_append hu (v ++ '\x7d' :: s)
    rw [stringMembers_of_item hturn hkey hcolon (string_append hb e.2 _), ih hv]
    simp only [Except.map, String.ofList_toList]

theorem stringList_append {b v : List Char} (hb : Blanks b) {texts : List String}
    (h : ListText texts v) (s : List Char) : stringList (b ++ (v ++ s)) = .ok (texts, s) := by
  obtain ⟨t, ht, rfl⟩ := h
  rw [stringList, skipSpaces_append hb, List.cons_append, skipSpaces_cons (by decide),
    List.append_assoc]
  exact stringItems_append ht s

theorem stringEntries_append {b v : List Char} (hb : Blanks b) {entries : Entries String}
    (h : EntriesText entries v) (s : List Char) :
    stringEntries (b ++ (v ++ s)) = .ok (entries, s) := by
  obtain ⟨hnodup, t, ht, rfl⟩ := h
  have hentries : Entries.insertAll [] entries = entries := by
    rw [Entries.insertAll_nil, Entries.ofList_of_nodup hnodup]
  have hmembers := stringMembers_append ht s
  rw [stringEntries, skipSpaces_append hb, List.cons_append, skipSpaces_cons (by decide),
    List.append_assoc, List.singleton_append]
  simp only [hmembers, Except.map]
  exact congrArg (fun e => Except.ok (e, s)) hentries

end JsonText

/-! ## Settings are read back -/

namespace Config

open JsonText

/-- Reading the value of a key is setting it. -/
theorem readValue_append (c : Config) {key : Key} {value : key.Value} {b v : List Char}
    (hb : Blanks b) (h : ValueText key value v) (s : List Char) :
    readValue c key (b ++ (v ++ s)) = .ok (c.set key value, s) := by
  have hstring {text : String} (f : String → Config) (h : StringText text v) :
      withString (b ++ (v ++ s)) f = .ok (f text, s) := by
    rw [withString, h, string_append hb]
    simp only [Except.map, String.ofList_toList]
  cases key with
  | protoImport => exact hstring (c.set .protoImport) h
  | matchImport => exact hstring (c.set .matchImport) h
  | interceptImport => exact hstring (c.set .interceptImport) h
  | nodeSuffix => exact hstring (c.set .nodeSuffix) h
  | pathSeparator => exact hstring (c.set .pathSeparator) h
  | nullableNodes =>
    exact congrArg (Except.map fun x => (c.set .nullableNodes x.1, x.2)) (stringList_append hb h s)
  | typeofOneofNodes =>
    exact congrArg (Except.map fun x => (c.set .typeofOneofNodes x.1, x.2))
      (stringList_append hb h s)
  | fixedGuards =>
    exact congrArg (Except.map fun x => (c.set .fixedGuards x.1, x.2)) (stringEntries_append hb h s)

theorem ofLabel?_label (key : Key) : Key.ofLabel? key.label = some key := by
  cases key <;> decide

theorem ofLabel?_eq_none {label : String} (h : ∀ key : Key, key.label ≠ label) :
    Key.ofLabel? label = none :=
  List.find?_eq_none.2 fun key _ => by simp [h key]

theorem Entry.ofLabel?_label (e : Entry) :
    Key.ofLabel? e.label = e.setting?.map Sigma.fst := by
  cases e with
  | setting s => exact Config.ofLabel?_label s.1
  | foreign label unknown => exact ofLabel?_eq_none unknown

/-- Reading an entry is setting its key, or nothing if it has none. -/
theorem readMember_append (c : Config) {e : Entry} {b v : List Char} (hb : Blanks b)
    (h : e.HasValue v) {s : List Char} (hs : Ended s) :
    readMember c (e.setting?.map Sigma.fst) (b ++ (v ++ s)) =
      .ok (c.setAll e.setting?.toList, s) := by
  cases e with
  | setting s' => exact readValue_append c hb h s
  | foreign label unknown =>
    have hskip : skip (b ++ (v ++ s)) = .ok s := by
      rw [skip, skipValue_append hb, IsValue.skip h [] hs, skipRest]
    exact congrArg (Except.map fun rest => (c, rest)) hskip

section
variable {c : Config} {seen : List Key} {first : Bool} {s rest : List Char}

theorem readMembers_of_stop (h : turn '\x7d' first s = .ok (.stop rest)) :
    readMembers c seen first s = .ok (c, rest) := by
  rw [readMembers]
  grind

theorem readMembers_of_item {d : Config} {known : Option Key} {item label value tail : List Char}
    (h : turn '\x7d' first s = .ok (.item item)) (hk : key item = .ok (label, rest))
    (hknown : Key.ofLabel? (String.ofList label) = known)
    (hseen : known.any seen.contains = false) (hc : colon rest = .ok value)
    (hv : readMember c known value = .ok (d, tail)) :
    readMembers c seen first s = readMembers d (known.toList ++ seen) false tail := by
  subst hknown
  rw [readMembers]
  grind

end

/-- Reading the entries of an object is setting what they give, one after another. -/
theorem readMembers_items {first : Bool} {entries : List Entry} {t : List Char}
    (h : Items Entry.Written first entries t) (c : Config) {seen : List Key}
    (hnodup : (seen ++ (entries.filterMap Entry.setting?).map Sigma.fst).Nodup) (s : List Char) :
    readMembers c seen first (t ++ '\x7d' :: s) =
      .ok (c.setAll (entries.filterMap Entry.setting?), s) := by
  induction entries generalizing first t c seen with
  | nil => exact readMembers_of_stop (h.turn_nil (by decide) s)
  | cons e entries ih =>
    obtain ⟨u, v, ⟨value, hvalue, hu⟩, hv, hturn⟩ :=
      h.turn_cons '\x7d' (by decide) (fun _ ⟨_, _, hm⟩ => starts_member hm) ('\x7d' :: s)
    obtain ⟨rest, b, hb, hkey, hcolon⟩ := member_append hu (v ++ '\x7d' :: s)
    have hknown : Key.ofLabel? (String.ofList e.label.toList) = e.setting?.map Sigma.fst := by
      rw [String.ofList_toList, e.ofLabel?_label]
    have hread := readMember_append c hb hvalue (hv.ended (ended_close .object s))
    cases e with
    | setting x =>
      -- the key moves from the entries that come to the keys that are seen
      have hmoved : (x.1 :: (seen ++ (entries.filterMap Entry.setting?).map Sigma.fst)).Nodup :=
        List.perm_middle.nodup_iff.1 hnodup
      have hseen : seen.contains x.1 = false := by
        have := (List.nodup_cons.1 hmoved).1
        rw [List.mem_append, not_or] at this
        simpa using this.1
      rw [readMembers_of_item hturn hkey hknown hseen hcolon hread]
      exact ih hv (c.set x.1 x.2) hmoved
    | foreign label unknown =>
      rw [readMembers_of_item hturn hkey hknown rfl hcolon hread]
      exact ih hv c hnodup

theorem read_object {given : Given} {entries : List Entry}
    (horder : (entries.filterMap Entry.setting?).Perm given.settings) {s : List Char}
    (h : ObjectText entries s) : read s = .ok (ofGiven given) := by
  obtain ⟨a, b, t, ha, hb, ht, rfl⟩ := h
  have hnodup : ((entries.filterMap Entry.setting?).map Sigma.fst).Nodup :=
    (horder.map Sigma.fst).nodup_iff.2 given.nodup_settings
  have hfront : readFront (a ++ '\x7b' :: (t ++ '\x7d' :: b)) = .ok (ofGiven given, b) := by
    rw [readFront, skipSpaces_append ha, skipSpaces_cons (by decide), ← setAll_perm horder]
    exact readMembers_items ht standard hnodup b
  have hend : skipSpaces b = [] := by
    have := skipSpaces_append hb []
    rwa [List.append_nil] at this
  simp only [read, hfront, hend, List.isEmpty_nil, if_true]

/-- Whichever settings an object gives, in whatever order, with any blanks and with any other
entries among them, they are as given, and the others are as in `standard`. They are refused only
where the suffix or the separator is empty. -/
theorem ofJson_object (given : Given) {entries : List Entry}
    (horder : (entries.filterMap Entry.setting?).Perm given.settings) {text : String}
    (htext : ObjectText entries text.toList) :
    ofJson text =
      if (ofGiven given).nodeSuffix = "" then .error (.setting .emptySuffix)
      else if (ofGiven given).pathSeparator = "" then .error (.setting .emptySeparator)
      else .ok (ofGiven given) := by
  simp only [ofJson, read_object horder htext, validate, String.isEmpty_iff]

/-- Two settings out of order, with blanks and an entry that is no setting. -/
theorem ofJson_object_mixed :
    let given : Given := fun
      | .nodeSuffix => some "N"
      | .fixedGuards => some [("b", "1"), ("a", "\"")]
      | _ => none
    let entries : List Entry :=
      [.foreign "x" (fun key => by cases key <;> decide),
        .setting ⟨.fixedGuards, [("b", "1"), ("a", "\"")]⟩, .setting ⟨.nodeSuffix, "N"⟩]
    let text := "\n\x7b \"x\" :[-0.5e+3 ,\x7b\"k\":\"\\uD800\"\x7d ],\t\"fixed_guards\":" ++
      "\x7b\"b\":\"1\" ,\"a\" : \"\\\"\"\x7d ,\"node_suffix\":\"N\"\x7d\r"
    (entries.filterMap Entry.setting?).Perm given.settings ∧ ObjectText entries text.toList ∧
      ofJson text = .ok { standard with
        nodeSuffix := "N"
        fixedGuards := [("b", "1"), ("a", "\"")] } := by
  intro given entries text
  have horder : (entries.filterMap Entry.setting?).Perm given.settings := .swap _ _ _
  have none : Blanks [] := by decide
  have space : Blanks [' '] := by decide
  have tab : Blanks ['\t'] := by decide
  have hfive : IsDigits ['5'] := by decide
  have hthree : IsDigits ['3'] := by decide
  have hnumber := IsNumeral.minus .zero (.some hfive)
    (.some (.inl rfl) (.inr (.inl rfl)) hthree)
  have hkey : IsString ['"', 'k', '"'] :=
    ⟨['k'], .plain (by decide) (by decide) (by decide) .nil, rfl⟩
  have hunit : IsString ['"', '\\', 'u', 'D', '8', '0', '0', '"'] :=
    ⟨['\\', 'u', 'D', '8', '0', '0'], .unit rfl rfl rfl rfl .nil, rfl⟩
  have hmembers : Items (fun m => MemberText m.1 m.2) true
      [(['"', 'k', '"'], ['"', '\\', 'u', 'D', '8', '0', '0', '"'])] _ :=
    .first none ⟨[], [], none, none, rfl⟩ (.nil none)
  have hobject := IsValue.object hmembers (List.forall_mem_singleton.2 hkey)
    (List.forall_mem_singleton.2 (.string hunit))
  have hlist := IsValue.list (.first none rfl (.next space none rfl (.nil space)))
    (List.forall_mem_cons.2 ⟨.numeral hnumber, List.forall_mem_singleton.2 hobject⟩)
  have hguards : EntriesText [("b", "1"), ("a", "\"")] _ :=
    ⟨by decide, _, .first none ⟨[], [], none, none, rfl⟩
      (.next space none ⟨[' '], [' '], space, space, rfl⟩ (.nil none)), rfl⟩
  have hentries : Items Entry.Written true entries _ :=
    .first space ⟨_, hlist, [' '], [], space, none, rfl⟩
      (.next none tab ⟨_, hguards, [], [], none, none, rfl⟩
        (.next space none ⟨_, rfl, [], [], none, none, rfl⟩ (.nil none)))
  have htext : ObjectText entries text.toList :=
    ⟨['\n'], ['\r'], _, by decide, by decide, hentries, by decide⟩
  exact ⟨horder, htext, (ofJson_object given horder htext).trans rfl⟩

end Config

end TreeSchema
