import TreeSchema.Entries
/-!
# Entries written one after another

`Entries.ofList` says what is left of a sequence of entries when each is written over the ones
before it: a key stands where it was written first, with the value that was written last. It is
defined from the front of the sequence, so it does not mention `insert`.

* `get?_append_cons`, `get?_perm`: what a further entry and another order do to look-up.
* `ofList_concat`, `insertAll_nil`: one more entry is one `insert`, so `ofList` is what insertion
  in order gives.
* `mem_of_mem_ofList`, `mem_keys_ofList`, `nodup_keys_ofList`: nothing is made up, no key is lost,
  and the keys are distinct.
* `ofList_of_nodup`: entries with distinct keys are left as they are.
* `insertAll_insert`: insertion into entries that are themselves inserted into others.
-/
namespace TreeSchema.Entries

variable {α : Type}

/-! ## Look-up -/

@[simp] theorem get?_nil (j : String) : Entries.get? ([] : Entries α) j = none := rfl

theorem get?_cons (k j : String) (v : α) (rest : Entries α) :
    Entries.get? ((k, v) :: rest) j = if j = k then some v else rest.get? j := by
  simp only [get?, List.lookup_cons]
  by_cases h : j = k
  · simp [h]
  · simp [h, beq_eq_false_iff_ne.2 h]

theorem mem_keys_cons {k j : String} {v : α} {rest : Entries α} :
    j ∈ keys ((k, v) :: rest) ↔ j = k ∨ j ∈ keys rest := List.mem_cons

theorem mem_of_get?_eq_some {e : Entries α} {k : String} {v : α} (h : e.get? k = some v) :
    (k, v) ∈ e := by
  obtain ⟨l₁, l₂, rfl, -⟩ := List.lookup_eq_some_iff.1 h
  simp

theorem get?_eq_none_of_not_mem {e : Entries α} {k : String} (h : k ∉ keys e) :
    e.get? k = none := by
  cases hg : e.get? k with
  | none => rfl
  | some v => exact absurd (List.mem_map.2 ⟨_, mem_of_get?_eq_some hg, rfl⟩) h

/-- Where the keys are distinct, every entry is found. -/
theorem get?_eq_some_of_mem {e : Entries α} (hn : (keys e).Nodup) {k : String} {v : α}
    (h : (k, v) ∈ e) : e.get? k = some v := by
  induction e with
  | nil => cases h
  | cons x rest ih =>
    obtain ⟨i, w⟩ := x
    obtain ⟨hi, hrest⟩ := List.nodup_cons.1 hn
    rw [get?_cons]
    rcases List.mem_cons.1 h with hx | hm
    · cases hx
      exact if_pos rfl
    · have hne : k ≠ i := by
        rintro rfl
        exact hi (List.mem_map.2 ⟨_, hm, rfl⟩)
      rw [if_neg hne, ih hrest hm]

theorem get?_append_cons (before after : Entries α) {k : String} (v : α)
    (hk : k ∉ keys (before ++ after)) (j : String) :
    Entries.get? (before ++ (k, v) :: after) j =
      if j = k then some v else Entries.get? (before ++ after) j := by
  induction before with
  | nil => exact get?_cons k j v after
  | cons x before ih =>
    obtain ⟨i, w⟩ := x
    simp only [List.cons_append, keys, List.map_cons, List.mem_cons, not_or] at hk
    rw [List.cons_append, List.cons_append, get?_cons, get?_cons, ih hk.2]
    by_cases hi : j = i
    · have hj : j ≠ k := fun hj => hk.1 (hj.symm.trans hi)
      rw [if_pos hi, if_pos hi, if_neg hj]
    · rw [if_neg hi, if_neg hi]

/-- Where the keys are distinct, look-up does not ask for the order. -/
theorem get?_perm {e e' : Entries α} (h : e.Perm e') (hn : (keys e).Nodup) (j : String) :
    e'.get? j = e.get? j := by
  induction h with
  | nil => rfl
  | cons x h ih =>
    obtain ⟨k, v⟩ := x
    rw [get?_cons, get?_cons, ih (List.nodup_cons.1 hn).2]
  | swap x y l =>
    obtain ⟨i, v⟩ := x
    obtain ⟨k, w⟩ := y
    have hne : k ≠ i := by
      rintro rfl
      exact (List.nodup_cons.1 hn).1 List.mem_cons_self
    simp only [get?_cons]
    by_cases hi : j = i
    · have hk : j ≠ k := fun hk => hne (hk.symm.trans hi)
      rw [if_pos hi, if_neg hk, if_pos hi]
    · rw [if_neg hi, if_neg hi]
  | trans h₁ _ ih₁ ih₂ => rw [ih₂ ((h₁.map _).nodup hn), ih₁ hn]

/-! ## Insertion -/

theorem get?_insert (e : Entries α) (k j : String) (v : α) :
    (e.insert k v).get? j = if j = k then some v else e.get? j := by
  induction e with
  | nil => simp [insert, get?_cons]
  | cons x rest ih =>
    obtain ⟨i, w⟩ := x
    simp only [insert]
    split
    · rename_i h
      subst h
      simp only [get?_cons]
      split <;> rfl
    · rename_i h
      simp only [get?_cons, ih]
      by_cases hj : j = i
      · subst hj; simp [h]
      · simp [hj]

/-! ## A sequence of entries -/

/-- The keys in the order in which they are first written, each with the value that is written
last. -/
def ofList : List (String × α) → Entries α
  | [] => []
  | (k, v) :: rest => (k, ((ofList rest).get? k).getD v) :: (ofList rest).filter (·.1 ≠ k)

theorem filter_ne_of_not_mem {e : Entries α} {k : String} (h : k ∉ keys e) :
    e.filter (·.1 ≠ k) = e := by
  refine List.filter_eq_self.2 fun x hx => decide_eq_true ?_
  rintro rfl
  exact h (List.mem_map.2 ⟨x, hx, rfl⟩)

theorem filter_insert_self (e : Entries α) (k : String) (v : α) :
    (e.insert k v).filter (·.1 ≠ k) = e.filter (·.1 ≠ k) := by
  induction e with
  | nil => simp [insert]
  | cons x rest ih =>
    obtain ⟨i, w⟩ := x
    simp only [insert]
    split
    · rename_i h; simp [h]
    · simp only [List.filter_cons, ih]

theorem filter_insert_ne (e : Entries α) {k j : String} (h : k ≠ j) (v : α) :
    (e.insert k v).filter (·.1 ≠ j) = Entries.insert (e.filter (·.1 ≠ j)) k v := by
  induction e with
  | nil => simp [insert, h]
  | cons x rest ih =>
    obtain ⟨i, w⟩ := x
    simp only [insert]
    split
    · rename_i hi
      subst hi
      simp [h, insert]
    · rename_i hi
      by_cases hj : i = j
      · subst hj
        simpa using ih
      · simp only [List.filter_cons, ih]
        simp [hj, insert, hi]

/-- One more entry is one insertion. -/
theorem ofList_concat (l : List (String × α)) (k : String) (v : α) :
    ofList (l ++ [(k, v)]) = (ofList l).insert k v := by
  induction l with
  | nil => simp [ofList, insert, get?]
  | cons x rest ih =>
    obtain ⟨i, w⟩ := x
    simp only [List.cons_append, ofList, ih, get?_insert, insert]
    by_cases h : i = k
    · subst h
      simp only [ite_true, Option.getD_some, filter_insert_self]
    · simp only [h, ite_false, filter_insert_ne _ (fun e => h e.symm)]

example : ofList [("a", 1), ("b", 2), ("a", 3)] = [("a", 3), ("b", 2)] := by decide

/-- Inserts entries one after another. -/
def insertAll (e : Entries α) (l : List (String × α)) : Entries α :=
  l.foldl (fun e x => e.insert x.1 x.2) e

theorem insertAll_ofList (l m : List (String × α)) : insertAll (ofList l) m = ofList (l ++ m) := by
  induction m generalizing l with
  | nil => simp [insertAll]
  | cons x rest ih =>
    have h := ih (l ++ [x])
    rw [ofList_concat, List.append_assoc] at h
    exact h

/-- What insertion in order gives. -/
theorem insertAll_nil (l : List (String × α)) : insertAll [] l = ofList l :=
  insertAll_ofList [] l

theorem mem_of_mem_ofList {l : List (String × α)} {x : String × α} (h : x ∈ ofList l) : x ∈ l := by
  induction l with
  | nil => simp [ofList] at h
  | cons y rest ih =>
    obtain ⟨k, v⟩ := y
    simp only [ofList] at h
    rcases List.mem_cons.1 h with h | h
    · cases hg : (ofList rest).get? k with
      | none => simp [h, hg]
      | some w =>
        have hx : x = (k, w) := by simpa [hg] using h
        exact List.mem_cons_of_mem _ (ih (hx ▸ mem_of_get?_eq_some hg))
    · exact List.mem_cons_of_mem _ (ih (List.mem_filter.1 h).1)

theorem mem_keys_ofList {l : List (String × α)} {k : String} :
    k ∈ keys (ofList l) ↔ k ∈ keys l := by
  induction l with
  | nil => rfl
  | cons y rest ih =>
    obtain ⟨i, v⟩ := y
    have hfilter : k ∈ keys ((ofList rest).filter (·.1 ≠ i)) ↔ k ∈ keys rest ∧ k ≠ i := by
      rw [← ih]
      simp only [keys, List.mem_map, List.mem_filter, decide_eq_true_eq]
      constructor
      · rintro ⟨x, ⟨hx, hi⟩, rfl⟩
        exact ⟨⟨x, hx, rfl⟩, hi⟩
      · rintro ⟨⟨x, hx, rfl⟩, hi⟩
        exact ⟨x, ⟨hx, hi⟩, rfl⟩
    rw [ofList, mem_keys_cons, mem_keys_cons, hfilter]
    by_cases hk : k = i
    · simp [hk]
    · simp [hk]

theorem nodup_keys_ofList (l : List (String × α)) : (keys (ofList l)).Nodup := by
  induction l with
  | nil => simp [ofList, keys]
  | cons y rest ih =>
    obtain ⟨k, v⟩ := y
    simp only [ofList, keys, List.map_cons, List.nodup_cons]
    refine ⟨?_, List.Pairwise.sublist ((List.filter_sublist).map _) ih⟩
    intro h
    obtain ⟨x, hx, hk⟩ := List.mem_map.1 h
    simp only [List.mem_filter, decide_eq_true_eq] at hx
    exact hx.2 hk

theorem ofList_of_nodup {l : List (String × α)} (h : (keys l).Nodup) : ofList l = l := by
  induction l with
  | nil => rfl
  | cons y rest ih =>
    obtain ⟨k, v⟩ := y
    simp only [keys, List.map_cons, List.nodup_cons] at h
    have hk : k ∉ keys rest := h.1
    simp only [ofList, ih h.2, get?_eq_none_of_not_mem hk, Option.getD_none,
      filter_ne_of_not_mem hk]

/-! ## Sequences one after another -/

/-- Writing what is left of a sequence is writing the sequence. -/
theorem ofList_append_ofList (l m : List (String × α)) :
    ofList (l ++ ofList m) = ofList (l ++ m) := by
  induction l with
  | nil => exact ofList_of_nodup (nodup_keys_ofList m)
  | cons x rest ih =>
    obtain ⟨k, v⟩ := x
    simp only [List.cons_append, ofList, ih]

theorem insert_eq_ofList {e : Entries α} (he : (keys e).Nodup) (k : String) (v : α) :
    e.insert k v = ofList (e ++ [(k, v)]) := by
  rw [ofList_concat, ofList_of_nodup he]

theorem nodup_keys_insert {e : Entries α} (he : (keys e).Nodup) (k : String) (v : α) :
    (keys (e.insert k v)).Nodup := by
  rw [insert_eq_ofList he]
  exact nodup_keys_ofList _

/-- An entry may be written before or after the entries that it joins are written to others. -/
theorem insertAll_insert {base e : Entries α} (hb : (keys base).Nodup) (he : (keys e).Nodup)
    (k : String) (v : α) : insertAll base (e.insert k v) = (insertAll base e).insert k v := by
  rw [insert_eq_ofList he, ← ofList_of_nodup hb, insertAll_ofList, insertAll_ofList,
    ofList_append_ofList, ← List.append_assoc, ofList_concat]

end TreeSchema.Entries
