import TreeSchema.Declaration
import TreeSchema.Proofs.Classification
import TreeSchema.Proofs.Reading
/-!
# Tags written as literals

The tag of an enum value may be written as a literal, as in `S = "s";`. The line is cut at its
comment, searched for braces and cut at `=` without regard to quotes, so a literal is not safe from
what these marks mean elsewhere:

* a `//` in it starts a comment, and what remains of the literal is no tag (`tag_ne_of_comment`);
* a brace in it makes the line a line of another kind (`ofTrimmed?_valueLine`).

`literal_kept_iff` says that nothing else goes wrong: equals signs, semicolons, blanks and single
slashes are taken as they stand.
-/
namespace TreeSchema
open Text

/-! ## The guard of a comment -/

namespace Text

/-- The brackets around a group are not part of it. -/
theorem length_bracketGroup? {s group : List Char} (h : bracketGroup? s = some group) :
    group.length + 2 ≤ s.length := by
  induction s with
  | nil => cases h
  | cons c s ih =>
    rw [bracketGroup?] at h
    split at h
    · rename_i hc
      cases h
      have hlength := congrArg List.length (List.takeWhile_append_dropWhile (p := (· != ')')) (l := s))
      have hrest := List.length_pos_iff.2 hc.2.2
      rw [List.length_append] at hlength
      rw [List.length_cons]
      omega
    · have := ih h
      rw [List.length_cons]
      omega

theorem length_cutColon? {s before after : List Char} (h : cutColon? s = some (before, after)) :
    before.length ≤ s.length ∧ after.length ≤ s.length := by
  induction s generalizing before with
  | nil => cases h
  | cons c s ih =>
    rw [cutColon?] at h
    split at h
    · cases h
      have := (List.dropWhile_suffix isBlank (l := s)).length_le
      exact ⟨Nat.zero_le _, Nat.le_succ_of_le this⟩
    · obtain ⟨⟨b, a⟩, hcut, h⟩ := Option.map_eq_some_iff.1 h
      cases h
      have := ih hcut
      exact ⟨Nat.succ_le_succ this.1, Nat.le_succ_of_le this.2⟩

theorem length_trim_le (s : List Char) : (trim s).length ≤ s.length :=
  Nat.le_trans (dropEndWhile_isPrefix _ _).length_le (List.dropWhile_suffix _).length_le

end Text

namespace Override

theorem length_guard_ofGroup {group : List Char} {guard : String}
    (h : (ofGroup group).guard = some guard) : guard.toList.length ≤ group.length := by
  obtain ⟨text, htext, rfl⟩ := Option.map_eq_some_iff.1 h
  obtain ⟨part, hpart, rfl⟩ := List.mem_map.1 (List.mem_filter.1 (List.mem_of_getElem? htext)).1
  have hle : part.length ≤ group.length := by
    split at hpart
    · rename_i before after hcut
      have := length_cutColon? hcut
      rcases List.mem_cons.1 hpart with rfl | hpart
      · exact this.1
      · rw [List.mem_singleton.1 hpart]
        exact this.2
    · exact Nat.le_of_eq (congrArg List.length (List.mem_singleton.1 hpart))
  rw [String.toList_ofList]
  exact Nat.le_trans (length_trim_le part) hle

theorem length_guard_ofComment {comment : List Char} {guard : String}
    (h : (ofComment comment).guard = some guard) : guard.toList.length + 2 ≤ comment.length := by
  unfold ofComment at h
  split at h
  · rename_i group hgroup
    have := length_guard_ofGroup h
    have := length_bracketGroup? hgroup
    omega
  · cases h

end Override

/-! ## The parts of a value -/

/-- What a value with a literal begins with, and the rest of it. -/
def valueCode (symbol rest : List Char) : List Char := symbol ++ ' ' :: '=' :: ' ' :: '"' :: rest

/-- The line of a value with a literal. -/
def valueLine (symbol literal : List Char) : List Char :=
  valueCode symbol (literal ++ ['"', ';'])

/-- The text of an enum that is called `E` and has one value. -/
def enumText (symbol literal : String) : String :=
  "enum E \x7b\n  " ++ symbol ++ " = \"" ++ literal ++ "\";\n\x7d\n"

theorem getLast?_valueLine (symbol literal : List Char) :
    (valueLine symbol literal).getLast? = some ';' := by
  have hline : valueLine symbol literal = valueCode symbol (literal ++ ['"']) ++ [';'] := by
    simp [valueLine, valueCode]
  rw [hline, List.getLast?_concat]

section
variable {symbol : List Char} (hs : isName symbol = true)
include hs

theorem ne_of_mem_symbol {c d : Char} (hc : c ∈ symbol) (hd : isNamePart d = false) : c ≠ d :=
  fun he => not_mem_of_isName hs hd (he ▸ hc)

theorem bne_equals_of_mem : ∀ c ∈ symbol, (c != '=') = true := fun _ hc =>
  bne_iff_ne.2 (ne_of_mem_symbol hs hc (by decide))

theorem mem_valueLine_iff {c : Char} (hname : isNamePart c = false) (hmark : c ∉ [' ', '=', '"', ';'])
    (literal : List Char) : c ∈ valueLine symbol literal ↔ c ∈ literal := by
  have hsymbol : c ∉ symbol := not_mem_of_isName hs hname
  simp only [List.mem_cons, List.not_mem_nil, or_false, not_or] at hmark
  simp [valueLine, valueCode, hsymbol, hmark]

theorem isBlank_of_head?_append (s : List Char) : ∀ c ∈ (symbol ++ s).head?, isBlank c = false := by
  intro c hc
  cases symbol with
  | nil => cases hs
  | cons d r =>
    cases hc
    exact isBlank_of_isNamePart (isNamePart_of_mem hs List.mem_cons_self)

theorem symbol_valueCode (rest : List Char) :
    dropSemicolons (leftSide (valueCode symbol rest)) = symbol := by
  have hleft : leftSide (valueCode symbol rest) = symbol ++ [' '] := by
    rw [leftSide, valueCode, List.takeWhile_append_of_pos (bne_equals_of_mem hs)]
    rfl
  have hlast : ∀ c ∈ symbol.getLast?, isBlank c = false := fun c hc =>
    isBlank_of_isNamePart (isNamePart_of_mem hs (List.mem_of_getLast? hc))
  have htrim : trim (symbol ++ [' ']) = symbol := by
    unfold trim trimStart trimEnd
    rw [dropWhile_eq_self (isBlank_of_head?_append hs _), dropEndWhile_append hlast]
    exact List.append_nil symbol
  have hsemicolon : ∀ c ∈ symbol.getLast?, (c == ';') = false := fun c hc =>
    beq_eq_false_iff_ne.2 (ne_of_mem_symbol hs (List.mem_of_getLast? hc) (by decide))
  rw [hleft, dropSemicolons, htrim, dropEndWhile_eq_self hsemicolon]
  exact dropEndWhile_eq_self hlast

theorem right_valueCode (rest : List Char) :
    dropSemicolons (rightSide (valueCode symbol rest)) =
      '"' :: trimEnd (dropEndWhile (· == ';') (trimEnd rest)) := by
  have hright : rightSide (valueCode symbol rest) = ' ' :: '"' :: rest := by
    rw [rightSide, valueCode, List.dropWhile_append_of_pos (bne_equals_of_mem hs)]
    rfl
  have hquote : ∀ {p : Char → Bool}, p '"' = false → ∀ s,
      dropEndWhile p ('"' :: s) = '"' :: dropEndWhile p s :=
    fun hp s => dropEndWhile_append (a := ['"']) (by simpa using hp) s
  rw [hright, dropSemicolons]
  change trimEnd (dropEndWhile (· == ';') (dropEndWhile isBlank ('"' :: rest))) = _
  rw [hquote (by decide), hquote (by decide), trimEnd, hquote (by decide)]
  rfl

theorem header?_valueCode (rest : List Char) : header? (valueCode symbol rest) = none := by
  have hname : name? (valueCode symbol rest) = some (symbol, ' ' :: '=' :: ' ' :: '"' :: rest) :=
    name?_eq_some hs (by simp; decide)
  have hnext : name? (trimStart (' ' :: '=' :: ' ' :: '"' :: rest)) = none := rfl
  refine Option.eq_none_iff_forall_ne_some.2 fun x h => ?_
  obtain ⟨parts, hparts, h⟩ := Option.bind_eq_some_iff.1 h
  cases hname.symm.trans hparts
  obtain ⟨-, -, h⟩ := Option.bind_eq_some_iff.1 h
  obtain ⟨parts, hparts, -⟩ := Option.bind_eq_some_iff.1 h
  cases hnext.symm.trans hparts

theorem ofDeclaration_of_code {line rest : List Char} (h : code line = valueCode symbol rest) :
    EnumValue.ofDeclaration (String.ofList line) =
      .ok ⟨String.ofList symbol, (Override.ofLine line).guard.getD (String.ofList
        ((insideQuotes? ('"' :: trimEnd (dropEndWhile (· == ';') (trimEnd rest)))).getD symbol))⟩ := by
  have hempty : symbol.isEmpty = false := by
    cases symbol with
    | nil => cases hs
    | cons c r => rfl
  have hblank : symbol.any isBlank = false := by
    rw [List.any_eq_false]
    intro c hc
    rw [isBlank_of_isNamePart (isNamePart_of_mem hs hc)]
    decide
  simp only [EnumValue.ofDeclaration, String.toList_ofList, h, symbol_valueCode hs,
    right_valueCode hs, hempty, hblank, Bool.or_self, Bool.false_eq_true, if_false]

/-! ## Comments in literals -/

theorem cutComment?_valueLine (literal : List Char) :
    cutComment? (valueLine symbol literal) =
      (cutComment? literal).map fun (code, comment) =>
        (valueCode symbol code, comment ++ ['"', ';']) := by
  have hopening : '/' ∉ symbol ++ [' ', '=', ' ', '"'] := by
    rw [List.mem_append, not_or]
    exact ⟨not_mem_of_isName hs (by decide), by decide⟩
  have hline : valueLine symbol literal =
      (symbol ++ [' ', '=', ' ', '"']) ++ (literal ++ ['"', ';']) := by
    simp [valueLine, valueCode]
  rw [hline, cutComment?_append_left hopening, cutComment?_append_right (by decide),
    Option.map_map]
  congr 1
  funext x
  simp [valueCode]

theorem code_valueLine {literal : List Char} (h : cutComment? literal = none) :
    code (valueLine symbol literal) = valueLine symbol literal ∧
      comment? (valueLine symbol literal) = none := by
  simp [code, comment?, codeAndComment, cutComment?_valueLine hs, h]

theorem code_valueLine_of_comment {literal before after : List Char}
    (h : cutComment? literal = some (before, after)) :
    code (valueLine symbol literal) = valueCode symbol (trimEnd before) ∧
      comment? (valueLine symbol literal) = some (after ++ ['"', ';']) := by
  have hend : trimEnd (valueCode symbol before) = valueCode symbol (trimEnd before) := by
    have := dropEndWhile_append (p := isBlank) (a := symbol ++ [' ', '=', ' ', '"'])
      (by simp; decide) before
    simpa [valueCode, trimEnd] using this
  simp [code, comment?, codeAndComment, cutComment?_valueLine hs, h, hend]

theorem ofDeclaration_valueLine {literal : List Char} (h : cutComment? literal = none) :
    EnumValue.ofDeclaration (String.ofList (valueLine symbol literal)) =
      .ok ⟨String.ofList symbol, String.ofList literal⟩ := by
  have hcode : code (valueLine symbol literal) = valueCode symbol (literal ++ ['"', ';']) :=
    (code_valueLine hs h).1
  have hguard : (Override.ofLine (valueLine symbol literal)).guard = none := by
    simp only [Override.ofLine, (code_valueLine hs h).2, Override.empty]
  have hrest : trimEnd (dropEndWhile (· == ';') (trimEnd (literal ++ ['"', ';']))) =
      literal ++ ['"'] := by
    have hblank : trimEnd (literal ++ ['"', ';']) = (literal ++ ['"']) ++ [';'] := by
      rw [trimEnd, dropEndWhile_eq_self (by simp; decide), List.append_assoc, List.singleton_append]
    have hsemicolon : dropEndWhile (· == ';') ((literal ++ ['"']) ++ [';']) = literal ++ ['"'] := by
      rw [dropEndWhile_append (by simp)]
      exact List.append_nil _
    rw [hblank, hsemicolon]
    exact dropEndWhile_eq_self (by simp; decide)
  have hliteral : insideQuotes? ('"' :: (literal ++ ['"'])) = some literal := by
    simp [insideQuotes?]
  rw [ofDeclaration_of_code hs hcode, hguard, hrest, hliteral]
  rfl

/-- The literal is not closed before the comment, so the tag comes from the comment or is the
symbol. -/
theorem ofDeclaration_valueLine_of_comment {literal before after : List Char}
    (hq : '"' ∉ literal) (h : cutComment? literal = some (before, after)) :
    EnumValue.ofDeclaration (String.ofList (valueLine symbol literal)) =
      .ok ⟨String.ofList symbol,
        (Override.ofComment (after ++ ['"', ';'])).guard.getD (String.ofList symbol)⟩ := by
  obtain ⟨hcode, hcomment⟩ := code_valueLine_of_comment hs h
  have hguard : Override.ofLine (valueLine symbol literal) =
      Override.ofComment (after ++ ['"', ';']) := by
    simp only [Override.ofLine, hcomment]
  have hopen : '"' ∉ trimEnd (dropEndWhile (· == ';') (trimEnd (trimEnd before))) := by
    intro hm
    have hbefore : '"' ∈ before :=
      (dropEndWhile_isPrefix _ _).subset ((dropEndWhile_isPrefix _ _).subset
        ((dropEndWhile_isPrefix _ _).subset ((dropEndWhile_isPrefix _ _).subset hm)))
    exact hq (eq_append_of_cutComment? h ▸ List.mem_append_left _ hbefore)
  have hliteral : insideQuotes?
      ('"' :: trimEnd (dropEndWhile (· == ';') (trimEnd (trimEnd before)))) = none :=
    if_neg fun hl => hopen (List.mem_of_getLast? hl)
  rw [ofDeclaration_of_code hs hcode, hguard, hliteral]
  rfl

/-- With a comment in the literal, the tag is another one. -/
theorem tag_ne_of_comment {literal before after : List Char}
    (h : cutComment? literal = some (before, after)) :
    (Override.ofComment (after ++ ['"', ';'])).guard.getD (String.ofList symbol) ≠
      String.ofList literal := by
  have hliteral := eq_append_of_cutComment? h
  intro htag
  cases hguard : (Override.ofComment (after ++ ['"', ';'])).guard with
  | none =>
    rw [hguard, Option.getD_none, String.ofList_inj] at htag
    have hslash : '/' ∉ symbol := not_mem_of_isName hs (by decide)
    exact hslash (by simp [htag, hliteral])
  | some guard =>
    have hlength := Override.length_guard_ofComment hguard
    rw [hguard, Option.getD_some] at htag
    simp only [htag, hliteral, String.toList_ofList, List.length_append, List.length_cons,
      List.length_nil] at hlength
    omega

/-! ## The schema of one enum -/

theorem trim_valueLine (literal : List Char) :
    trim (' ' :: ' ' :: valueLine symbol literal) = valueLine symbol literal := by
  have hblanks : trim ([' ', ' '] ++ valueLine symbol literal) = trim (valueLine symbol literal) :=
    trim_append_blanks (List.all_eq_true.1 rfl)
  refine hblanks.trans (trim_eq_self (isBlank_of_head?_append hs _) ?_)
  rw [getLast?_valueLine]
  rintro c ⟨⟩
  rfl

theorem exists_code_valueLine (literal : List Char) :
    ∃ rest, code (valueLine symbol literal) = valueCode symbol rest := by
  cases h : cutComment? literal with
  | none => exact ⟨_, (code_valueLine hs h).1⟩
  | some x => exact ⟨_, (code_valueLine_of_comment hs h).1⟩

/-- Only a line whose code has no brace is a declaration. -/
theorem ofTrimmed?_valueLine (literal : List Char) :
    LineKind.ofTrimmed? (valueLine symbol literal) =
      if '\x7d' ∈ code (valueLine symbol literal) then some .closeBlock
      else if '\x7b' ∈ code (valueLine symbol literal) then none
      else some (.declaration (String.ofList (valueLine symbol literal))) := by
  obtain ⟨rest, hcode⟩ := exists_code_valueLine hs literal
  have hne : valueLine symbol literal ≠ [] := by simp [valueLine, valueCode]
  have hcomment : ¬ ['/', '/'] <+: valueLine symbol literal := by
    cases symbol with
    | nil => cases hs
    | cons c r =>
      have hc : '/' ≠ c := (ne_of_mem_symbol hs List.mem_cons_self (by decide)).symm
      simp [valueLine, valueCode, hc]
  rw [LineKind.ofTrimmed?_of_code hne hcomment, hcode, header?_valueCode hs, Option.map_none]

theorem lines_enumText {literal : List Char} (hn : '\n' ∉ literal) :
    lines (enumText (String.ofList symbol) (String.ofList literal)).toList =
      [headerText "enum".toList "E".toList, ' ' :: ' ' :: valueLine symbol literal, ['\x7d']] := by
  have htext : (enumText (String.ofList symbol) (String.ofList literal)).toList =
      headerText "enum".toList "E".toList ++ '\n' :: ((' ' :: ' ' :: valueLine symbol literal) ++
        '\n' :: (['\x7d'] ++ ['\n'])) := by
    simp [enumText, headerText, valueLine, valueCode]
  have hline : '\n' ∉ ' ' :: ' ' :: valueLine symbol literal := by
    have hsymbol : '\n' ∉ symbol := not_mem_of_isName hs (by decide)
    simp [valueLine, valueCode, hsymbol, hn]
  have hlast : (' ' :: ' ' :: valueLine symbol literal).getLast? ≠ some '\r' := by
    rw [List.getLast?_cons, List.getLast?_cons, getLast?_valueLine]
    decide
  rw [htext, lines_append_newline _ (by decide) (by decide), lines_append_newline _ hline hlast]
  rfl

theorem ofText_enumText {literal : List Char} (hn : '\n' ∉ literal) (s : Schema) :
    (Schema.ofText (enumText (String.ofList symbol) (String.ofList literal))).result = .ok s ↔
      '\x7b' ∉ code (valueLine symbol literal) ∧ '\x7d' ∉ code (valueLine symbol literal) ∧
      s = ⟨[("E", ⟨"E", 1, .enum, [], [(String.ofList (valueLine symbol literal), .plain)]⟩)]⟩ := by
  let line := ' ' :: ' ' :: valueLine symbol literal
  let blockLines (l : Line) : List Line := [⟨.openBlock "enum" "E", 1, 1⟩, l, ⟨.closeBlock, 3, 1⟩]
  have hresult : (Schema.ofText (enumText (String.ofList symbol) (String.ofList literal))).result =
      Line.classify 2 line >>= fun l => (Schema.ofLines (blockLines l)).result := by
    rw [Schema.ofText_result, Line.ofText, lines_enumText hs hn]
    simp only [Line.classifyFrom]
    cases Line.classify 2 line with
    | error e => rfl
    | ok l => rfl
  have hclassify : ∀ kind, LineKind.ofTrimmed? (valueLine symbol literal) = some kind →
      Line.classify 2 line = .ok ⟨kind, 2, textColumn line⟩ := by
    intro kind hkind
    simp only [Line.classify, line, trim_valueLine hs, hkind]
  have hkind := ofTrimmed?_valueLine hs literal
  rw [hresult]
  by_cases hend : '\x7d' ∈ code (valueLine symbol literal)
  · -- the block ends at the value, so its own end has nothing to close
    rw [if_pos hend] at hkind
    rw [hclassify _ hkind]
    refine ⟨fun h => ?_, fun h => absurd hend h.2.1⟩
    cases h
  · rw [if_neg hend] at hkind
    by_cases hbegin : '\x7b' ∈ code (valueLine symbol literal)
    · rw [if_pos hbegin] at hkind
      simp only [Line.classify, line, trim_valueLine hs, hkind]
      refine ⟨fun h => ?_, fun h => absurd hbegin h.1⟩
      cases h
    · rw [if_neg hbegin] at hkind
      rw [hclassify _ hkind]
      exact ⟨fun h => ⟨hbegin, hend, (Except.ok.inj h).symm⟩, fun h => congrArg Except.ok h.2.2.symm⟩

end

/-! ## Literals that are kept -/

/-- **A literal is taken as it stands** exactly if it has neither a brace nor two slashes in a
row. -/
theorem literal_kept_iff {symbol literal : String} (hs : isName symbol.toList = true)
    (hn : '\n' ∉ literal.toList) (hq : '"' ∉ literal.toList) :
    (∃ n line, (Schema.ofText (enumText symbol literal)).result = .ok ⟨[("E", n)]⟩ ∧
        n.fields = [(line, .plain)] ∧ EnumValue.ofDeclaration line = .ok ⟨symbol, literal⟩) ↔
      ¬ "//".toList <:+: literal.toList ∧ '\x7b' ∉ literal.toList ∧ '\x7d' ∉ literal.toList := by
  obtain ⟨symbol, rfl⟩ : ∃ s, String.ofList s = symbol := ⟨symbol.toList, String.ofList_toList⟩
  obtain ⟨literal, rfl⟩ : ∃ s, String.ofList s = literal := ⟨literal.toList, String.ofList_toList⟩
  simp only [String.toList_ofList] at hs hn hq ⊢
  constructor
  · rintro ⟨n, line, hschema, hfields, hvalue⟩
    obtain ⟨hbegin, hend, hnode⟩ := (ofText_enumText hs hn _).1 hschema
    cases hnode
    cases hfields
    cases hcut : cutComment? literal with
    | none =>
      rw [(code_valueLine hs hcut).1, mem_valueLine_iff hs (by decide) (by decide)] at hbegin hend
      exact ⟨cutComment?_eq_none_iff.1 hcut, hbegin, hend⟩
    | some x =>
      rw [ofDeclaration_valueLine_of_comment hs hq hcut] at hvalue
      cases (tag_ne_of_comment hs hcut) (EnumValue.mk.inj (Except.ok.inj hvalue)).2
  · rintro ⟨hslashes, hbegin, hend⟩
    have hcut := cutComment?_eq_none_iff.2 hslashes
    refine ⟨_, _, (ofText_enumText hs hn _).2 ⟨?_, ?_, rfl⟩, rfl, ofDeclaration_valueLine hs hcut⟩
    · rwa [(code_valueLine hs hcut).1, mem_valueLine_iff hs (by decide) (by decide)]
    · rwa [(code_valueLine hs hcut).1, mem_valueLine_iff hs (by decide) (by decide)]

/-- A literal with blanks, equals signs, semicolons, a backslash and single slashes. -/
theorem literal_kept_iff_marks :
    isName "S_1".toList = true ∧ ∃ n line,
      (Schema.ofText (enumText "S_1" " == ;/\\ / ")).result = .ok ⟨[("E", n)]⟩ ∧
      n.fields = [(line, .plain)] ∧ EnumValue.ofDeclaration line = .ok ⟨"S_1", " == ;/\\ / "⟩ := by
  have hslashes : ¬ "//".toList <:+: " == ;/\\ / ".toList := cutComment?_eq_none_iff.1 (by decide)
  exact ⟨by decide, (literal_kept_iff (by decide) (by decide) (by decide)).2
    ⟨hslashes, by decide, by decide⟩⟩

/-- A literal with two slashes is read as the symbol, or as what stands in brackets after them. A
brace ends the block too early, or the line is taken for a header. -/
theorem literal_misread :
    let schema (line : String) : Schema := ⟨[("E", ⟨"E", 1, .enum, [], [(line, .plain)]⟩)]⟩
    (Schema.ofText (enumText "S" "//")).result = .ok (schema "S = \"//\";") ∧
    EnumValue.ofDeclaration "S = \"//\";" = .ok ⟨"S", "S"⟩ ∧
    (Schema.ofText (enumText "S" "//(a)")).result = .ok (schema "S = \"//(a)\";") ∧
    EnumValue.ofDeclaration "S = \"//(a)\";" = .ok ⟨"S", "a"⟩ ∧
    (Schema.ofText (enumText "S" "\x7d")).result = .error (.block .unbalanced 3 1) ∧
    (Schema.ofText (enumText "S" "\x7b")).result =
      .error (.block (.header "S = \"\x7b\";") 2 3) := by
  have hcomment : enumText "S" "//" = "enum E \x7b\n  S = \"//\";\n\x7d\n" := by decide +kernel
  have hguard : enumText "S" "//(a)" = "enum E \x7b\n  S = \"//(a)\";\n\x7d\n" := by decide +kernel
  have hend : enumText "S" "\x7d" = "enum E \x7b\n  S = \"\x7d\";\n\x7d\n" := by decide +kernel
  have hbegin : enumText "S" "\x7b" = "enum E \x7b\n  S = \"\x7b\";\n\x7d\n" := by decide +kernel
  rw [hcomment, hguard, hend, hbegin]
  exact ⟨rfl, rfl, rfl, rfl, rfl, rfl⟩

end TreeSchema
