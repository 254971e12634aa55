import TreeSchema.Proofs.Places
import TreeSchema.Proofs.Text
/-!
# Texts one after another

A schema may be spread over several texts. If the first one is a schema and ends with a line feed,
reading the second one after it is reading it alone, further down and with nodes at the top level
from the start.

* `Text.lines_append`, `Line.classifyFrom_append`: the lines of the two texts are those of each,
  and `Line.classifyFrom_add`: numbering them from another line moves them.
* `Assembly.run_onto`: the nodes that have been finished before do not change what is read.
  A finished node joins them as it would join the nodes of its own text.
* `Assembly.run_relocate` moves the lines.

`ofText_append` says what the two texts declare together, and where the second one fails.
-/
namespace TreeSchema

/-! ## Lines -/

/-- The number of lines of a text. -/
def Text.lineCount (text : String) : Nat := (Text.lines text.toList).length

namespace Line

theorem classifyFrom_append (n : Nat) (ts us : List (List Char)) :
    classifyFrom n (ts ++ us) =
      classifyFrom n ts >>= fun ls =>
        classifyFrom (n + ts.length) us >>= fun ms => pure (ls ++ ms) := by
  induction ts generalizing n with
  | nil =>
    change _ = classifyFrom n us >>= fun ms => pure ms
    rw [bind_pure]
    rfl
  | cons t ts ih =>
    have hn : n + (t :: ts).length = n + 1 + ts.length := by
      rw [List.length_cons]
      omega
    rw [List.cons_append, classifyFrom, classifyFrom, ih, hn]
    simp only [bind_assoc, pure_bind, List.cons_append]

theorem classify_add (n k : Nat) (t : List Char) :
    classify (n + k) t = relocated (· + k) id (relocate (· + k) id) (classify n t) := by
  simp only [classify]
  cases LineKind.ofTrimmed? (Text.trim t) with
  | none => rfl
  | some kind => rfl

/-- Numbering lines from another number moves them. -/
theorem classifyFrom_add (n k : Nat) (ts : List (List Char)) :
    classifyFrom (n + k) ts =
      relocated (· + k) id (List.map (relocate (· + k) id)) (classifyFrom n ts) := by
  induction ts generalizing n with
  | nil => rfl
  | cons t ts ih =>
    have hn : n + k + 1 = n + 1 + k := by omega
    rw [classifyFrom, classifyFrom, classify_add, hn, ih]
    refine (relocated_bind fun l => ?_).symm
    exact relocated_bind fun ls => rfl

theorem ofText_append_of_eq_ok {a : String} {ls : List Line}
    (ha : ∀ c ∈ a.toList.getLast?, c = '\n') (h : ofText a = .ok ls) (b : String) :
    ofText (a ++ b) =
      relocated (· + Text.lineCount a) id
        (fun ms => ls ++ ms.map (relocate (· + Text.lineCount a) id)) (ofText b) := by
  have h : classifyFrom 1 (Text.lines a.toList) = .ok ls := h
  rw [ofText, String.toList_append, Text.lines_append ha, classifyFrom_append, h, classifyFrom_add]
  cases hb : classifyFrom 1 (Text.lines b.toList) with
  | error e =>
    rw [show ofText b = .error e from hb]
    rfl
  | ok ms =>
    rw [show ofText b = .ok ms from hb]
    rfl

end Line

/-! ## Nodes that are there before -/

/-- The nodes of one schema, then those of another. A name that is there already is replaced in
place. -/
def Schema.followedBy (s t : Schema) : Schema := ⟨s.nodes.insertAll t.nodes⟩

namespace Assembly

/-- The assembly with nodes at the top level that were finished before. -/
def onto (nodes : Entries Node) (a : Assembly) : Assembly := ⟨nodes.insertAll a.nodes, a.focus⟩

theorem nodes_close? {a b : Assembly} (h : a.close? = some b) :
    b.nodes = a.nodes ∨ ∃ n, b.nodes = a.nodes.insert n.name n := by
  obtain ⟨finished, focus⟩ := a
  cases focus with
  | top => cases h
  | node current outer =>
    cases outer with
    | nil =>
      cases h
      exact .inr ⟨current, rfl⟩
    | cons parent outer =>
      cases h
      exact .inl rfl
  | group x current outer =>
    cases h
    exact .inl rfl

/-- What one line does to the nodes that are finished. -/
theorem nodes_step {a b : Assembly} {l : Line} (h : (a.step l).result = .ok b) :
    b.nodes = a.nodes ∨ ∃ n, b.nodes = a.nodes.insert n.name n := by
  cases hk : l.kind with
  | blank | comment =>
    simp only [step, hk] at h
    cases h
    exact .inl rfl
  | closeBlock =>
    simp only [step, hk] at h
    split at h
    · rename_i m hm
      cases h
      exact nodes_close? hm
    · cases h
  | openBlock keyword name =>
    simp only [step, hk] at h
    split at h
    · rename_i m hm
      cases h
      rcases openBlock_cases hm with ⟨_, _, -, -, -, rfl⟩ | ⟨_, _, -, -, -, rfl⟩
      · exact .inl rfl
      · exact .inl rfl
    · cases h
  | declaration t =>
    obtain ⟨finished, focus⟩ := a
    cases focus with
    | top =>
      cases hs : isFileStatement t with
      | false => simp [step, hk, hs] at h
      | true =>
        rw [step_statement hk hs] at h
        cases h
        exact .inl rfl
    | node current outer =>
      rw [step_declaration_node hk] at h
      cases h
      exact .inl rfl
    | group x current outer =>
      rw [step_declaration_oneof hk] at h
      cases h
      exact .inl rfl

variable {nodes : Entries Node} {a : Assembly}

theorem close?_onto (hn : (Entries.keys nodes).Nodup) (ha : (Entries.keys a.nodes).Nodup) :
    (a.onto nodes).close? = a.close?.map (onto nodes) := by
  obtain ⟨finished, focus⟩ := a
  cases focus with
  | top => rfl
  | node current outer =>
    cases outer with
    | nil => simp [onto, close?, Entries.insertAll_insert hn ha]
    | cons parent outer => rfl
  | group x current outer => rfl

theorem openBlock_onto (keyword name : String) (line : Nat) :
    (a.onto nodes).openBlock keyword name line =
      (a.openBlock keyword name line).map (onto nodes) := by
  obtain ⟨finished, focus⟩ := a
  cases focus with
  | top =>
    simp only [onto, openBlock]
    split
    · rfl
    · split <;> rfl
  | node current outer =>
    simp only [onto, openBlock]
    split
    · rfl
    · split
      · rfl
      · split <;> rfl
  | group x current outer => rfl

theorem step_onto (hn : (Entries.keys nodes).Nodup) (ha : (Entries.keys a.nodes).Nodup) (l : Line) :
    ((a.onto nodes).step l).result = (a.step l).result.map (onto nodes) := by
  obtain ⟨kind, line, column⟩ := l
  cases kind with
  | blank => rfl
  | comment => rfl
  | closeBlock =>
    simp only [step, close?_onto hn ha]
    cases a.close? with
    | none => rfl
    | some b => rfl
  | openBlock keyword name =>
    simp only [step, openBlock_onto]
    cases a.openBlock keyword name line with
    | error fault => rfl
    | ok b => rfl
  | declaration text =>
    obtain ⟨finished, focus⟩ := a
    cases focus with
    | top =>
      simp only [step, onto]
      split <;> rfl
    | node current outer => rfl
    | group x current outer => rfl

theorem nodup_keys_step {b : Assembly} {l : Line} (ha : (Entries.keys a.nodes).Nodup)
    (h : (a.step l).result = .ok b) : (Entries.keys b.nodes).Nodup := by
  rcases nodes_step h with hb | ⟨n, hb⟩
  · rwa [hb]
  · rw [hb]
    exact Entries.nodup_keys_insert ha _ _

/-- The nodes that are finished have distinct names. -/
theorem nodup_keys_of_reads {b : Assembly} {ls : List Line} (ha : (Entries.keys a.nodes).Nodup)
    (h : a.Reads ls b) : (Entries.keys b.nodes).Nodup := by
  induction ls generalizing a with
  | nil =>
    cases h
    exact ha
  | cons l ls ih =>
    obtain ⟨m, hm, hr⟩ := reads_cons_iff.1 h
    exact ih (nodup_keys_step ha hm) hr

theorem run_onto (hn : (Entries.keys nodes).Nodup) (ha : (Entries.keys a.nodes).Nodup)
    (ls : List Line) :
    ((a.onto nodes).run ls).result = (a.run ls).result.map (onto nodes) := by
  induction ls generalizing a with
  | nil => rfl
  | cons l ls ih =>
    rw [run_result_cons, run_result_cons, step_onto hn ha]
    cases hs : (a.step l).result with
    | error e => rfl
    | ok b => exact ih (nodup_keys_step ha hs)

theorem finish_onto (nodes : Entries Node) (a : Assembly) :
    (a.onto nodes).finish = a.finish.map fun s => Schema.followedBy ⟨nodes⟩ s := by
  obtain ⟨finished, focus⟩ := a
  cases focus <;> rfl

end Assembly

/-! ## Two texts -/

namespace Schema

open Assembly

/-- Lines after a schema are read as they are alone, with its nodes before those that they
declare. -/
theorem ofLines_append {ls : List Line} {s : Schema} (h : (ofLines ls).result = .ok s)
    (ms : List Line) :
    (ofLines (ls ++ ms)).result = (ofLines ms).result.map s.followedBy := by
  have hr := ofLines_eq_ok.1 h
  have he : (Entries.keys Assembly.empty.nodes).Nodup := List.nodup_nil
  have hn : (Entries.keys s.nodes).Nodup := nodup_keys_of_reads he hr
  -- what has been read is a schema, so nothing is open
  have hstart : (⟨s.nodes, .top⟩ : Assembly) = Assembly.empty.onto s.nodes := rfl
  rw [ofLines_result, ofLines_result, hr.run_append, hstart, run_onto hn he]
  cases (Assembly.empty.run ms).result with
  | error e => rfl
  | ok a => exact finish_onto s.nodes a

theorem ofLines_relocate (f : Nat → Nat) (ls : List Line) :
    (ofLines (ls.map (Line.relocate f id))).result =
      relocated f id (Schema.relocate f) (ofLines ls).result := by
  have hrun : (Assembly.empty.run (ls.map (Line.relocate f id))).result =
      relocated f id (Assembly.relocate f) (Assembly.empty.run ls).result :=
    (run_relocate f id .empty ls).symm
  rw [ofLines_result, ofLines_result, hrun]
  exact (relocated_bind fun a => finish_relocate f a).symm

/-- What a text declares after one that is a schema: its own schema, moved down by the lines of the
first and joined to its nodes, or its own error, moved down. -/
theorem ofText_append_result {a : String} {s : Schema} (ha : ∀ c ∈ a.toList.getLast?, c = '\n')
    (h : (ofText a).result = .ok s) (b : String) :
    (ofText (a ++ b)).result =
      relocated (· + Text.lineCount a) id
        (fun t => s.followedBy (t.relocate (· + Text.lineCount a))) (ofText b).result := by
  obtain ⟨ls, hls, hs⟩ := ofText_eq_ok.1 h
  rw [ofText_result, ofText_result, Line.ofText_append_of_eq_ok ha hls]
  refine (relocated_bind fun ms => ?_).symm
  rw [ofLines_append hs, ofLines_relocate]
  cases (ofLines ms).result with
  | error e => rfl
  | ok t => rfl

/-- **Texts one after another.** After a text that is a schema and ends with a line feed, or is
empty, a second text declares its own nodes, moved down by the lines of the first, and they are
inserted one after another among the nodes of the first. If the second text fails, it fails with
the same error at the same place, moved down. -/
theorem ofText_append {a : String} {s : Schema} (ha : a = "" ∨ a.toList.getLast? = some '\n')
    (h : (ofText a).result = .ok s) (b : String) :
    (∀ t, (ofText b).result = .ok t →
      (ofText (a ++ b)).result = .ok (s.followedBy (t.relocate (· + Text.lineCount a)))) ∧
    ∀ fault line column, (ofText b).result = .error (.block fault line column) →
      (ofText (a ++ b)).result = .error (.block fault (line + Text.lineCount a) column) := by
  have ha : ∀ c ∈ a.toList.getLast?, c = '\n' := by
    rcases ha with rfl | ha
    · simp
    · simp [ha]
  refine ⟨fun t ht => ?_, fun fault line column he => ?_⟩
  · rw [ofText_append_result ha h, ht]
    rfl
  · rw [ofText_append_result ha h, he]
    rfl

/-- A second text that replaces one node, which has another inside it, and adds one; and a second
text with a header that is none. -/
theorem ofText_append_replaced :
    let a := "// a\r\nmessage A \x7b\n\x7d\nenum B \x7b\n\x7d\n"
    let b := "message A \x7b\nmessage C \x7b\n\x7d\n\x7d\nenum D \x7b\n\x7d"
    let s : Schema := ⟨[("A", ⟨"A", 2, .message, [], []⟩), ("B", ⟨"B", 4, .enum, [], []⟩)]⟩
    let t : Schema := ⟨[("A", ⟨"A", 1, .message, [("C", ⟨"C", 2, .message, [], []⟩)], []⟩),
      ("D", ⟨"D", 5, .enum, [], []⟩)]⟩
    let both : Schema := ⟨[("A", ⟨"A", 6, .message, [("C", ⟨"C", 7, .message, [], []⟩)], []⟩),
      ("B", ⟨"B", 4, .enum, [], []⟩), ("D", ⟨"D", 10, .enum, [], []⟩)]⟩
    (ofText a).result = .ok s ∧ (ofText b).result = .ok t ∧ (ofText (a ++ b)).result = .ok both ∧
      (ofText "\n \x7b").result = .error (.block (.header "\x7b") 2 2) ∧
      (ofText (a ++ "\n \x7b")).result = .error (.block (.header "\x7b") 7 2) := by
  intro a b s t both
  have hlast : a = "" ∨ a.toList.getLast? = some '\n' := .inr (by decide +kernel)
  have ha : (ofText a).result = .ok s := by subst a s; rfl
  have hb : (ofText b).result = .ok t := by subst b t; rfl
  have he : (ofText "\n \x7b").result = .error (.block (.header "\x7b") 2 2) := rfl
  have hcount : Text.lineCount a = 5 := by decide +kernel
  have hboth := (ofText_append hlast ha b).1 t hb
  have hfail := (ofText_append hlast ha _).2 _ _ _ he
  rw [hcount] at hboth hfail
  exact ⟨ha, hb, hboth, he, hfail⟩

end Schema

end TreeSchema
