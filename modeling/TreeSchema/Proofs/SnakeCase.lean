import Mathlib.Data.List.Nodup
import TreeSchema.Proofs.FieldLines
import TreeSchema.Proofs.FlatShape
/-!
# Output names of snake-case names

A snake-case name has one or more words with underscores between them, and a word is a lower-case
letter followed by lower-case letters and digits. Output names are cut at more places than
underscores, but none of these is in such a name: it has no upper-case letter, and no character that
is neither a letter nor a digit except the underscores (`nameWords_intercalate`). So the capitals of
the output name stand where the underscores were, also where words of one letter bring several of
them together, and `snakeCase` puts the underscores back (`snakeCase_outputName`).

`outputName_faithful` draws the conclusion for generated code: the fields of a message that have
different snake-case names stand under different keys.
-/
namespace TreeSchema

namespace Text

/-! ## Words and underscores -/

/-- A lower-case letter or a digit of ASCII. -/
def isSnakeChar (c : Char) : Bool := c.isLower || c.isDigit

/-- A lower-case letter, then lower-case letters and digits. -/
def isSnakeWord : List Char → Bool
  | [] => false
  | c :: s => c.isLower && s.all isSnakeChar

/-- An underscore before every upper-case letter. -/
def underscored (s : List Char) : List Char :=
  s.flatMap fun c => if isUppercase c then ['_', c] else [c]

/-- An underscore before every upper-case letter, and then all in lower case. -/
def toSnake (s : List Char) : List Char := (underscored s).flatMap lowercase

theorem toSnake_append (s t : List Char) : toSnake (s ++ t) = toSnake s ++ toSnake t := by
  simp [toSnake, underscored]

theorem split_intercalate {p : Char → Bool} {b : Char} (hb : p b = true) {w : List Char}
    {ws : List (List Char)} (h : ∀ v ∈ w :: ws, ∀ c ∈ v, p c = false) :
    split p ([b].intercalate (w :: ws)) = (w, ws) := by
  induction ws generalizing w with
  | nil =>
    rw [List.intercalate_singleton]
    exact split_of_neg (h w List.mem_cons_self)
  | cons v ws ih =>
    rw [List.intercalate_cons_cons, List.append_assoc, List.singleton_append,
      split_append_of_pos hb, split_of_neg (h w List.mem_cons_self),
      ih fun x hx => h x (List.mem_cons_of_mem w hx)]
    rfl

theorem intercalate_split (b : Char) (s : List Char) :
    [b].intercalate ((split (· == b) s).1 :: (split (· == b) s).2) = s := by
  induction s with
  | nil => rfl
  | cons c s ih =>
    rw [split]
    by_cases hc : c = b
    · subst hc
      simp [List.intercalate_cons_cons, ih]
    · cases hothers : (split (· == b) s).2 with
      | nil =>
        rw [hothers] at ih
        simpa [hc, hothers] using ih
      | cons v vs =>
        rw [hothers] at ih
        simpa [hc, hothers, List.intercalate_cons_cons] using ih

theorem intercalate_eq_append_flatMap (b : Char) (w : List Char) (ws : List (List Char)) :
    [b].intercalate (w :: ws) = w ++ ws.flatMap (b :: ·) := by
  induction ws generalizing w with
  | nil => simp
  | cons v ws ih =>
    rw [List.intercalate_cons_cons, ih, List.flatMap_cons]
    simp

/-! ## Characters -/

theorem isNamePart_of_isSnakeChar {c : Char} (h : isSnakeChar c = true) : isNamePart c = true := by
  have hc : isNamePart c = (c.isUpper || c.isLower || c.isDigit || c == '_') := rfl
  simp only [isSnakeChar, Bool.or_eq_true] at h
  rcases h with h | h
  · simp [hc, h]
  · simp [hc, h]

theorem isNameStart_of_isLower {c : Char} (h : c.isLower = true) : isNameStart c = true := by
  have hc : isNameStart c = (c.isUpper || c.isLower || c == '_') := rfl
  simp [hc, h]

theorem isAscii_of_isSnakeChar {c : Char} (h : isSnakeChar c = true) : c.toNat < 0x80 := by
  have := toNat_of_isNamePart (isNamePart_of_isSnakeChar h)
  omega

theorem isSnakeChar_of_isLower {c : Char} (h : c.isLower = true) : isSnakeChar c = true := by
  simp [isSnakeChar, h]

/-- What the tables of letters say of the characters of a word. -/
theorem classes_of_isSnakeChar {c : Char} (h : isSnakeChar c = true) :
    isAlphanumeric c = true ∧ isUppercase c = false ∧ lowercase c = [c] :=
  forall_ascii (p := fun c => isSnakeChar c = true →
    isAlphanumeric c = true ∧ isUppercase c = false ∧ lowercase c = [c]) (by decide)
    (isAscii_of_isSnakeChar h) h

/-- The capital of a lower-case letter is an upper-case letter, and the letter is its lower case. -/
theorem uppercase_of_isLower {c : Char} (h : c.isLower = true) :
    ∃ d, uppercase c = [d] ∧ isUppercase d = true ∧ lowercase d = [c] ∧ isNamePart d = true := by
  have hascii := isAscii_of_isSnakeChar (isSnakeChar_of_isLower h)
  refine ⟨c.toUpper, if_pos hascii, ?_⟩
  exact forall_ascii (p := fun c => c.isLower = true → isUppercase c.toUpper = true ∧
    lowercase c.toUpper = [c] ∧ isNamePart c.toUpper = true) (by decide) hascii h

/-! ## Words of a snake-case name -/

theorem isSnakeChar_of_mem {w : List Char} (h : isSnakeWord w = true) :
    ∀ c ∈ w, isSnakeChar c = true := by
  cases w with
  | nil => simp
  | cons c s =>
    simp only [isSnakeWord, Bool.and_eq_true, List.all_eq_true] at h
    rw [List.forall_mem_cons]
    exact ⟨isSnakeChar_of_isLower h.1, h.2⟩

theorem caseWords_of_not_isUppercase (m : WordCase) {s : List Char}
    (h : ∀ c ∈ s, isUppercase c = false) : caseWords m s = (s, []) := by
  fun_induction caseWords m s with
  | case1 => rfl
  | case2 => rfl
  | case3 m c d s hcut =>
    have hd := h d (by simp)
    simp [hd] at hcut
  | case4 m c d s _ hcut =>
    have hc := h c (by simp)
    simp [hc] at hcut
  | case5 m c d s _ _ word others hw ih =>
    have ih := ih fun x hx => h x (List.mem_cons_of_mem c hx)
    rw [hw] at ih
    cases ih
    rfl

theorem lowerWord_of_isSnakeChar {w : List Char} (h : ∀ c ∈ w, isSnakeChar c = true) :
    lowerWord w = w := by
  fun_induction lowerWord w with
  | case1 => rfl
  | case2 => exact absurd (h 'Σ' List.mem_cons_self) (by decide)
  | case3 c => exact (classes_of_isSnakeChar (h c List.mem_cons_self)).2.2
  | case4 c d s ih =>
    rw [(classes_of_isSnakeChar (h c List.mem_cons_self)).2.2,
      ih fun x hx => h x (List.mem_cons_of_mem c hx)]
    rfl

/-- A snake-case name is cut at its underscores and nowhere else. -/
theorem nameWords_intercalate {w : List Char} {ws : List (List Char)}
    (h : ∀ v ∈ w :: ws, isSnakeWord v = true) :
    nameWords (['_'].intercalate (w :: ws)) = w :: ws := by
  have hsplit : split (!isAlphanumeric ·) (['_'].intercalate (w :: ws)) = (w, ws) := by
    refine split_intercalate (by decide) fun v hv c hc => ?_
    simp [classes_of_isSnakeChar (isSnakeChar_of_mem (h v hv) c hc)]
  have hfilter : (w :: ws).filter (!·.isEmpty) = w :: ws := by
    refine List.filter_eq_self.2 fun v hv => ?_
    cases v with
    | nil => exact absurd (h [] hv) (by decide)
    | cons c v => rfl
  have hwords : ∀ v ∈ w :: ws, (caseWords .none v).1 :: (caseWords .none v).2 = [v] := by
    intro v hv
    rw [caseWords_of_not_isUppercase .none fun c hc =>
      (classes_of_isSnakeChar (isSnakeChar_of_mem (h v hv) c hc)).2.1]
  rw [nameWords, splitNonempty, hsplit]
  simp only [hfilter]
  rw [List.flatMap_congr hwords, List.flatMap_singleton']

theorem lowerCamel_intercalate {w : List Char} {ws : List (List Char)}
    (h : ∀ v ∈ w :: ws, isSnakeWord v = true) :
    lowerCamel (['_'].intercalate (w :: ws)) = w ++ ws.flatMap capitalWord := by
  rw [lowerCamel, nameWords_intercalate h]
  simp only [lowerWord_of_isSnakeChar (isSnakeChar_of_mem (h w List.mem_cons_self))]

theorem toSnake_of_isSnakeChar {s : List Char} (h : ∀ c ∈ s, isSnakeChar c = true) :
    toSnake s = s := by
  induction s with
  | nil => rfl
  | cons c s ih =>
    have hc := classes_of_isSnakeChar (h c List.mem_cons_self)
    have hfirst : toSnake [c] = [c] := by simp [toSnake, underscored, hc]
    rw [← List.singleton_append, toSnake_append, hfirst,
      ih fun d hd => h d (List.mem_cons_of_mem c hd)]

theorem exists_capitalWord {w : List Char} (h : isSnakeWord w = true) :
    ∃ c d s, w = c :: s ∧ capitalWord w = d :: s ∧ isUppercase d = true ∧ lowercase d = [c] ∧
      isNamePart d = true ∧ ∀ x ∈ s, isSnakeChar x = true := by
  cases w with
  | nil => cases h
  | cons c s =>
    simp only [isSnakeWord, Bool.and_eq_true, List.all_eq_true] at h
    obtain ⟨d, hd, hupper, hlower, hpart⟩ := uppercase_of_isLower h.1
    refine ⟨c, d, s, rfl, ?_, hupper, hlower, hpart, h.2⟩
    rw [capitalWord, hd, lowerWord_of_isSnakeChar h.2]
    rfl

/-- The capital of a word becomes an underscore and the word. -/
theorem toSnake_capitalWord {w : List Char} (h : isSnakeWord w = true) :
    toSnake (capitalWord w) = '_' :: w := by
  obtain ⟨c, d, s, rfl, hcapital, hupper, hlower, -, hs⟩ := exists_capitalWord h
  have hunderscore : lowercase '_' = ['_'] := by decide
  have hfirst : toSnake [d] = ['_', c] := by
    simp [toSnake, underscored, hupper, hlower, hunderscore]
  rw [hcapital, ← List.singleton_append, toSnake_append, hfirst, toSnake_of_isSnakeChar hs]
  rfl

/-- Every later word brings its underscore back. -/
theorem toSnake_lowerCamel {w : List Char} {ws : List (List Char)}
    (h : ∀ v ∈ w :: ws, isSnakeWord v = true) :
    toSnake (lowerCamel (['_'].intercalate (w :: ws))) = ['_'].intercalate (w :: ws) := by
  have hrest : ∀ vs : List (List Char), (∀ v ∈ vs, isSnakeWord v = true) →
      toSnake (vs.flatMap capitalWord) = vs.flatMap ('_' :: ·) := by
    intro vs hvs
    induction vs with
    | nil => rfl
    | cons v vs ih =>
      rw [List.flatMap_cons, toSnake_append, toSnake_capitalWord (hvs v List.mem_cons_self),
        ih fun x hx => hvs x (List.mem_cons_of_mem v hx), List.flatMap_cons]
  rw [lowerCamel_intercalate h, toSnake_append,
    toSnake_of_isSnakeChar (isSnakeChar_of_mem (h w List.mem_cons_self)),
    hrest ws fun v hv => h v (List.mem_cons_of_mem w hv), intercalate_eq_append_flatMap]

theorem isName_lowerCamel {w : List Char} {ws : List (List Char)}
    (h : ∀ v ∈ w :: ws, isSnakeWord v = true) :
    isName (lowerCamel (['_'].intercalate (w :: ws))) = true := by
  rw [lowerCamel_intercalate h]
  refine isName_append ?_ fun c hc => ?_
  · have hw := h w List.mem_cons_self
    cases w with
    | nil => cases hw
    | cons c s =>
      simp only [isSnakeWord, Bool.and_eq_true, List.all_eq_true] at hw
      simp only [isName, isNameStart_of_isLower hw.1, Bool.true_and, List.all_eq_true]
      exact fun d hd => isNamePart_of_isSnakeChar (hw.2 d hd)
  · obtain ⟨v, hv, hc⟩ := List.mem_flatMap.1 hc
    obtain ⟨-, d, s, -, hcapital, -, -, hpart, hs⟩ :=
      exists_capitalWord (h v (List.mem_cons_of_mem w hv))
    rw [hcapital] at hc
    rcases List.mem_cons.1 hc with rfl | hc
    · exact hpart
    · exact isNamePart_of_isSnakeChar (hs c hc)

end Text

open Text

/-! ## Names -/

/-- One or more words with underscores between them. -/
def IsSnakeCase (name : String) : Prop :=
  ∃ (w : List Char) (ws : List (List Char)), (∀ v ∈ w :: ws, isSnakeWord v = true) ∧
    name.toList = ['_'].intercalate (w :: ws)

theorem isSnakeCase_iff {name : String} :
    IsSnakeCase name ↔
      ((split (· == '_') name.toList).1 :: (split (· == '_') name.toList).2).all isSnakeWord =
        true := by
  constructor
  · rintro ⟨w, ws, hwords, hname⟩
    have hsplit : split (· == '_') name.toList = (w, ws) := by
      rw [hname]
      refine split_intercalate rfl fun v hv c hc => beq_eq_false_iff_ne.2 ?_
      rintro rfl
      exact absurd (isSnakeChar_of_mem (hwords v hv) '_' hc) (by decide)
    rw [hsplit]
    exact List.all_eq_true.2 hwords
  · intro h
    exact ⟨_, _, List.all_eq_true.1 h, (intercalate_split '_' _).symm⟩

instance (name : String) : Decidable (IsSnakeCase name) := decidable_of_iff _ isSnakeCase_iff.symm

/-- A name with an underscore before every upper-case letter, in lower case. -/
def snakeCase (name : String) : String := String.ofList (toSnake name.toList)

theorem snakeCase_outputName {name : String} (h : IsSnakeCase name) :
    snakeCase (outputName name) = name := by
  obtain ⟨w, ws, hwords, hname⟩ := h
  rw [snakeCase, outputName, String.toList_ofList, hname, toSnake_lowerCamel hwords, ← hname,
    String.ofList_toList]

theorem outputName_inj_of_isSnakeCase {a b : String} (ha : IsSnakeCase a) (hb : IsSnakeCase b)
    (h : outputName a = outputName b) : a = b := by
  rw [← snakeCase_outputName ha, h, snakeCase_outputName hb]

theorem isName_outputName {name : String} (h : IsSnakeCase name) :
    isName (outputName name).toList = true := by
  obtain ⟨w, ws, hwords, hname⟩ := h
  rw [outputName, String.toList_ofList, hname]
  exact isName_lowerCamel hwords

/-! ## Keys -/

/-- The name that a field of a message has: that of its declaration, or its key if it is a
`oneof`. -/
def declaredName? : String × Member → Option String
  | (declaration, .plain) => (Field.ofDeclaration declaration).result.toOption.map Field.name
  | (key, .oneof _) => some key

theorem declaredName?_of_shownAs {x : String × Member} {s : String × List String}
    (h : ShownAs x s) : ∃ name, declaredName? x = some name ∧ lineKey s.1 = outputName name := by
  obtain ⟨text, member⟩ := x
  cases member with
  | plain =>
    obtain ⟨field, hfield, hkey, -⟩ := h
    refine ⟨field.name, ?_, hkey⟩
    rw [declaredName?, hfield]
    rfl
  | oneof variants => exact ⟨text, rfl, h.1⟩

/-- The keys that a message is shown under are the output names of its fields, in order. -/
theorem map_lineKey_of_shownAs {fields : List (String × Member)}
    {shown : List (String × List String)} (h : List.Forall₂ ShownAs fields shown) :
    shown.map (lineKey ·.1) = (fields.filterMap declaredName?).map outputName := by
  induction h with
  | nil => rfl
  | cons hx _ ih =>
    obtain ⟨name, hname, hkey⟩ := declaredName?_of_shownAs hx
    rw [List.map_cons, List.filterMap_cons_some hname, List.map_cons, hkey, ih]

theorem Scope.exists_keys_of_dispatch {cx : Scope} {qualified : String} {n : Node} {d : Dispatch}
    (hn : n.unionVariants? = none) (h : (cx.dispatch qualified n).result = .ok d) :
    ∃ first inner last, d.lines = first :: (inner ++ [last]) ∧
      (sections 2 inner).map (lineKey ·.1) =
        (n.fields.filterMap declaredName?).map outputName := by
  simp only [dispatch, hn, Traced.result_bind] at h
  obtain ⟨ps, hps, h⟩ := bind_eq_ok.1 h
  cases h
  exact ⟨_, indent 2 (ps.flatMap Property.lines), _, rfl,
    map_lineKey_of_shownAs (properties_sections hps).2⟩

theorem nodup_map_outputName_iff {names : List String} (h : ∀ name ∈ names, IsSnakeCase name) :
    (names.map outputName).Nodup ↔ names.Nodup :=
  ⟨List.Nodup.of_map _, List.Nodup.map_on fun a ha b hb =>
    outputName_inj_of_isSnakeCase (h a ha) (h b hb)⟩

/-- **Snake-case names keep apart.** A snake-case name is read back from its output name by an
underscore before every upper-case letter and lower case for all. So different snake-case names have
different output names, and these are identifiers, as a property may have for its key. In the code
for a message whose fields have snake-case names, every field stands under the output name of its own
name, and no two of the keys are the same unless two fields have the same name. -/
theorem outputName_faithful :
    (∀ name, IsSnakeCase name → snakeCase (outputName name) = name) ∧
    (∀ a b, IsSnakeCase a → IsSnakeCase b → outputName a = outputName b → a = b) ∧
    (∀ name, IsSnakeCase name → isName (outputName name).toList = true) ∧
    (∀ (cx : Scope) (qualified : String) (n : Node) (d : Dispatch), n.unionVariants? = none →
      (cx.dispatch qualified n).result = .ok d →
      (∀ name ∈ n.fields.filterMap declaredName?, IsSnakeCase name) →
      ∃ first inner last, d.lines = first :: (inner ++ [last]) ∧
        (sections 2 inner).map (lineKey ·.1) = (n.fields.filterMap declaredName?).map outputName ∧
        (((sections 2 inner).map (lineKey ·.1)).Nodup ↔
          (n.fields.filterMap declaredName?).Nodup)) := by
  refine ⟨fun _ => snakeCase_outputName, fun _ _ => outputName_inj_of_isSnakeCase,
    fun _ => isName_outputName, fun cx qualified n d hn hd hnames => ?_⟩
  obtain ⟨first, inner, last, hlines, hkeys⟩ := Scope.exists_keys_of_dispatch hn hd
  refine ⟨first, inner, last, hlines, hkeys, ?_⟩
  rw [hkeys]
  exact nodup_map_outputName_iff hnames

/-- Names that differ in where their words end only, among them words of one letter, and a position
and a `oneof` beside them. -/
theorem outputName_faithful_adjacent :
    let cx : Scope := ⟨⟨[]⟩, .standard⟩
    let n : Node := ⟨"P", 1, .message, [], [("uint32 start = 1;", .plain),
      ("string a_b_c = 2;", .plain), ("string a_bc;", .plain), ("ab_c2", .oneof ["CNode c;"])]⟩
    IsSnakeCase "a_b_c" ∧ snakeCase (outputName "a_b_c") = "a_b_c" ∧
    isName (outputName "a_b_c").toList = true ∧ IsSnakeCase "a_bc" ∧
    (outputName "a_b_c" = outputName "a_bc" → "a_b_c" = "a_bc") ∧
    n.unionVariants? = none ∧
    ∃ d, (cx.dispatch "P" n).result = .ok d ∧
      ∃ first inner last, d.lines = first :: (inner ++ [last]) ∧
        (sections 2 inner).map (lineKey ·.1) = ["start", "aBC", "aBc", "abC2"] ∧
        ((sections 2 inner).map (lineKey ·.1)).Nodup := by
  intro cx n
  obtain ⟨hback, hinj, hname, hkeys⟩ := outputName_faithful
  have hfirst : IsSnakeCase "a_b_c" := by decide
  have hsecond : IsSnakeCase "a_bc" := by decide
  have hnames : n.fields.filterMap declaredName? = ["start", "a_b_c", "a_bc", "ab_c2"] := by
    decide +kernel
  have hok : (cx.dispatch "P" n).result.toOption.isSome = true := by decide +kernel
  refine ⟨hfirst, hback _ hfirst, hname _ hfirst, hsecond, hinj _ _ hfirst hsecond, rfl, ?_⟩
  cases hd : (cx.dispatch "P" n).result with
  | error e =>
    rw [hd] at hok
    cases hok
  | ok d =>
    obtain ⟨first, inner, last, hlines, hshown, hnodup⟩ := hkeys cx "P" n d rfl hd (by
      rw [hnames]
      decide)
    rw [hnames] at hshown hnodup
    exact ⟨d, rfl, first, inner, last, hlines, hshown, hnodup.2 (by decide)⟩

end TreeSchema
