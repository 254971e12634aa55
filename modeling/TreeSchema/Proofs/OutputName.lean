import TreeSchema.Text.CamelCase
/-!
# The characters of output names

Names are cut into words at every character that is neither a letter nor a digit, and then the case
of letters changes. `isWordChar` holds of the characters that this can leave: letters and digits of
ASCII, and whatever is outside ASCII. `isWordChar_of_mem_outputName` says that an output name has no
others, so a name ends where the mark behind it stands, whatever was declared.

The maps of case are tables. What they can make of a character is checked once for each entry
(`Shift.keepsWords`), and not for each character.
-/
namespace TreeSchema

namespace Text

/-- A letter or digit of ASCII, or a character outside ASCII. -/
def isWordChar (c : Char) : Bool := 0x80 ≤ c.toNat || c.isAlphanum

theorem isWordChar_of_le {c : Char} (h : 0x80 ≤ c.toNat) : isWordChar c = true := by
  simp [isWordChar, h]

theorem isWordChar_of_isAlphanumeric {c : Char} (h : isAlphanumeric c = true) :
    isWordChar c = true := by
  unfold isAlphanumeric at h
  by_cases hc : c.toNat < 0x80
  · rw [if_pos hc] at h
    simp [isWordChar, h]
  · exact isWordChar_of_le (Nat.le_of_not_lt hc)

/-! ## Case -/

/-- What is true of the characters of ASCII one by one is true of them all. -/
theorem forall_ascii {p : Char → Prop} (h : ∀ n < 0x80, p (Char.ofNat n)) {c : Char}
    (hc : c.toNat < 0x80) : p c := by
  have := h c.toNat hc
  rwa [Char.ofNat_toNat] at this

theorem isAlphanum_toLower {c : Char} (hc : c.toNat < 0x80) :
    c.isAlphanum = true → c.toLower.isAlphanum = true :=
  forall_ascii (p := fun c => c.isAlphanum = true → c.toLower.isAlphanum = true) (by decide) hc

theorem isAlphanum_toUpper {c : Char} (hc : c.toNat < 0x80) :
    c.isAlphanum = true → c.toUpper.isAlphanum = true :=
  forall_ascii (p := fun c => c.isAlphanum = true → c.toUpper.isAlphanum = true) (by decide) hc

/-- A code point outside ASCII that is a character, or one of a letter or digit. -/
def isWordCode (n : Nat) : Bool :=
  (0x80 ≤ n && n < 0xD800) || (0xDFFF < n && n < 0x110000) ||
    (n < 0x80 && (Char.ofNat n).isAlphanum)

theorem toNat_ofNat {n : Nat} (h : n.isValidChar) : (Char.ofNat n).toNat = n := by
  rw [Char.ofNat, dif_pos h]
  rfl

theorem isWordChar_ofNat {n : Nat} (h : isWordCode n = true) :
    isWordChar (Char.ofNat n) = true := by
  simp only [isWordCode, Bool.or_eq_true, Bool.and_eq_true, decide_eq_true_eq] at h
  rcases h with (h | h) | h
  · refine isWordChar_of_le ?_
    rw [toNat_ofNat (Or.inl h.2)]
    exact h.1
  · refine isWordChar_of_le ?_
    rw [toNat_ofNat (Or.inr h)]
    omega
  · simp [isWordChar, h.2]

/-- The run goes to characters outside ASCII, or it is one character that goes to a letter. -/
def Shift.keepsWords (r : Shift) : Bool :=
  let top := r.target + (r.last - r.first)
  (0x80 ≤ r.target && top < 0xD800) || (0xDFFF < r.target && top < 0x110000) ||
    (r.first == r.last && isWordCode r.target)

theorem Shift.isWordCode_target {r : Shift} (h : r.keepsWords = true) {n : Nat} (hn : r.first ≤ n)
    (hn' : n ≤ r.last) : isWordCode (r.target + (n - r.first)) = true := by
  simp only [keepsWords, Bool.or_eq_true, Bool.and_eq_true, decide_eq_true_eq, beq_iff_eq] at h
  rcases h with (h | h) | ⟨he, h⟩
  · have : 0x80 ≤ r.target + (n - r.first) ∧ r.target + (n - r.first) < 0xD800 := by omega
    simp [isWordCode, this]
  · have : 0xDFFF < r.target + (n - r.first) ∧ r.target + (n - r.first) < 0x110000 := by omega
    simp [isWordCode, this]
  · have : n - r.first = 0 := by omega
    rw [this]
    exact h

theorem isWordChar_shifted {table : List Shift} (ht : ∀ r ∈ table, r.keepsWords = true) {c : Char}
    (hc : isWordChar c = true) : isWordChar (shifted table c) = true := by
  unfold shifted
  split
  · rename_i r hr
    have hm := List.mem_of_find?_eq_some hr
    have hin := List.find?_some hr
    simp only [Span.contains, Bool.and_eq_true, decide_eq_true_eq] at hin
    exact isWordChar_ofNat (Shift.isWordCode_target (ht r hm) hin.1.1 hin.1.2)
  · exact hc

theorem keepsWords_lowercaseShifts : ∀ r ∈ lowercaseShifts, r.keepsWords = true := by decide +kernel

theorem keepsWords_uppercaseShifts : ∀ r ∈ uppercaseShifts, r.keepsWords = true := by decide +kernel

theorem isWordCode_uppercaseSequences :
    ∀ x ∈ uppercaseSequences, ∀ n ∈ x.2, isWordCode n = true := by decide +kernel

theorem isWordChar_lowercase {c d : Char} (hc : isWordChar c = true) (hd : d ∈ lowercase c) :
    isWordChar d = true := by
  unfold lowercase at hd
  split at hd
  · rename_i h
    have hc : c.isAlphanum = true := by simpa [isWordChar, Nat.not_le_of_lt h] using hc
    obtain rfl := List.mem_singleton.1 hd
    simp [isWordChar, isAlphanum_toLower h hc]
  · split at hd
    · simp only [List.mem_cons, List.not_mem_nil, or_false] at hd
      rcases hd with rfl | rfl
      · rfl
      · rfl
    · obtain rfl := List.mem_singleton.1 hd
      exact isWordChar_shifted keepsWords_lowercaseShifts hc

theorem isWordChar_uppercase {c d : Char} (hc : isWordChar c = true) (hd : d ∈ uppercase c) :
    isWordChar d = true := by
  unfold uppercase at hd
  split at hd
  · rename_i h
    have hc : c.isAlphanum = true := by simpa [isWordChar, Nat.not_le_of_lt h] using hc
    obtain rfl := List.mem_singleton.1 hd
    simp [isWordChar, isAlphanum_toUpper h hc]
  · split at hd
    · rename_i codes hcodes
      obtain ⟨n, hn, rfl⟩ := List.mem_map.1 hd
      obtain ⟨l₁, l₂, hl, -⟩ := List.lookup_eq_some_iff.1 hcodes
      have hm : (c.toNat, codes) ∈ uppercaseSequences := by simp [hl]
      exact isWordChar_ofNat (isWordCode_uppercaseSequences _ hm n hn)
    · obtain rfl := List.mem_singleton.1 hd
      exact isWordChar_shifted keepsWords_uppercaseShifts hc

/-! ## Words -/

theorem of_mem_split {p : Char → Bool} (s : List Char) :
    ∀ piece ∈ (split p s).1 :: (split p s).2, ∀ c ∈ piece, p c = false := by
  induction s with
  | nil => simp [split]
  | cons c s ih =>
    simp only [split]
    split
    · intro piece hp
      rcases List.mem_cons.1 hp with rfl | hp
      · simp
      · exact ih piece hp
    · rename_i hc
      intro piece hp d hd
      rcases List.mem_cons.1 hp with rfl | hp
      · rcases List.mem_cons.1 hd with rfl | hd
        · simpa using hc
        · exact ih _ List.mem_cons_self d hd
      · exact ih piece (List.mem_cons_of_mem _ hp) d hd

theorem mem_of_mem_caseWords (m : WordCase) (s : List Char) :
    ∀ word ∈ (caseWords m s).1 :: (caseWords m s).2, ∀ c ∈ word, c ∈ s := by
  fun_induction caseWords m s with
  | case1 => simp
  | case2 m c => simp
  | case3 m c d s h word others hw ih => grind
  | case4 m c d s h h' word others hw ih => grind
  | case5 m c d s h h' word others hw ih => grind

theorem isWordChar_of_mem_nameWords {s word : List Char} (hw : word ∈ nameWords s) {c : Char}
    (hc : c ∈ word) : isWordChar c = true := by
  obtain ⟨piece, hp, hw⟩ := List.mem_flatMap.1 hw
  have hm := mem_of_mem_caseWords .none piece word hw c hc
  have hs := of_mem_split s piece (List.mem_filter.1 hp).1 c hm
  exact isWordChar_of_isAlphanumeric (by simpa using hs)

theorem isWordChar_lowerWord {word : List Char} (h : ∀ c ∈ word, isWordChar c = true) :
    ∀ c ∈ lowerWord word, isWordChar c = true := by
  fun_induction lowerWord word with
  | case1 => simp
  | case2 =>
    intro c hc
    obtain rfl := List.mem_singleton.1 hc
    rfl
  | case3 c hc => exact fun d hd => isWordChar_lowercase (h c List.mem_cons_self) hd
  | case4 c d s ih =>
    intro e he
    rcases List.mem_append.1 he with he | he
    · exact isWordChar_lowercase (h c List.mem_cons_self) he
    · exact ih (fun x hx => h x (List.mem_cons_of_mem _ hx)) e he

theorem isWordChar_capitalWord {word : List Char} (h : ∀ c ∈ word, isWordChar c = true) :
    ∀ c ∈ capitalWord word, isWordChar c = true := by
  cases word with
  | nil => simp [capitalWord]
  | cons c s =>
    intro d hd
    rcases List.mem_append.1 hd with hd | hd
    · exact isWordChar_uppercase (h c List.mem_cons_self) hd
    · exact isWordChar_lowerWord (fun x hx => h x (List.mem_cons_of_mem _ hx)) d hd

theorem isWordChar_of_mem_lowerCamel {s : List Char} {c : Char} (hc : c ∈ lowerCamel s) :
    isWordChar c = true := by
  have hall : ∀ word ∈ nameWords s, ∀ d ∈ word, isWordChar d = true :=
    fun _ hw _ hd => isWordChar_of_mem_nameWords hw hd
  unfold lowerCamel at hc
  split at hc
  · simp at hc
  · rename_i word others hws
    rw [hws] at hall
    rcases List.mem_append.1 hc with hc | hc
    · exact isWordChar_lowerWord (hall word List.mem_cons_self) c hc
    · obtain ⟨other, ho, hc⟩ := List.mem_flatMap.1 hc
      exact isWordChar_capitalWord (hall other (List.mem_cons_of_mem _ ho)) c hc

end Text

/-- An output name is made of letters, digits and characters outside ASCII. -/
theorem isWordChar_of_mem_outputName {name : String} {c : Char}
    (hc : c ∈ (outputName name).toList) : Text.isWordChar c = true := by
  rw [outputName, String.toList_ofList] at hc
  exact Text.isWordChar_of_mem_lowerCamel hc

theorem not_mem_outputName (name : String) {c : Char} (hc : Text.isWordChar c = false) :
    c ∉ (outputName name).toList := by
  intro hm
  simp [isWordChar_of_mem_outputName hm] at hc

end TreeSchema
