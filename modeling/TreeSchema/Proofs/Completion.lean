import TreeSchema.Proofs.Reading
/-!
# Where reading fails

Reading fails at the first line after which nothing could make the lines a schema, and never before
it: what has been read without an error can always be completed, by closing what is open.

* `Line.leftOpen` are the blocks that lines open and do not close, told from the lines alone.
  `Assembly.blocks` are those that reading keeps open, and they are the same (`blocks_of_reads`).
* `reads_closers_iff`: closing lines finish what has been read if they are as many as the open
  blocks, and in no other number.
* `exists_step_of_run_error`: a run that fails does so at one line, whatever comes after it.

`ofLines_exactly_one` puts them together: lines are accepted, or a block is left open, or one line
is at fault.
-/
namespace TreeSchema

/-! ## Blocks that lines leave open -/

namespace Line

/-- How many of the blocks that are open before the lines are closed by them. The first closing
line that is left over closes the block of the header before it. -/
def closings : List Line → Nat
  | [] => 0
  | l :: ls =>
    match l.kind with
    | .closeBlock => closings ls + 1
    | .openBlock _ _ => closings ls - 1
    | .declaration _ | .comment | .blank => closings ls

/-- The blocks that are opened by a header that no line closes, from the outside in: their names
and the lines of their headers. -/
def leftOpen : List Line → List (String × Nat)
  | [] => []
  | l :: ls =>
    match l.kind with
    | .openBlock _ name => if closings ls = 0 then (name, l.line) :: leftOpen ls else leftOpen ls
    | .closeBlock | .declaration _ | .comment | .blank => leftOpen ls

example : leftOpen [⟨.openBlock "message" "A", 1, 1⟩, ⟨.openBlock "enum" "B", 2, 1⟩,
    ⟨.closeBlock, 3, 1⟩, ⟨.openBlock "oneof" "c", 4, 1⟩, ⟨.declaration "D d;", 5, 1⟩] =
    [("A", 1), ("c", 4)] := by decide

end Line

/-! ## Blocks that reading keeps open -/

/-- The name of a node and the line that opens it. -/
def Node.block (n : Node) : String × Nat := (n.name, n.line)

namespace Assembly

/-- The blocks that are open, from the inside out. -/
def blocks (a : Assembly) : List (String × Nat) :=
  match a.focus with
  | .top => []
  | .node current outer => (current :: outer).map Node.block
  | .group g current outer => (g.name, g.line) :: (current :: outer).map Node.block

theorem blocks_close? {a b : Assembly} (h : a.close? = some b) :
    ∃ x, a.blocks = x :: b.blocks := by
  obtain ⟨ns, focus⟩ := a
  cases focus with
  | top => cases h
  | node current outer =>
    cases outer with
    | nil =>
      cases h
      exact ⟨current.block, rfl⟩
    | cons parent outer =>
      cases h
      exact ⟨current.block, rfl⟩
  | group g current outer =>
    cases h
    exact ⟨(g.name, g.line), rfl⟩

theorem close?_eq_none_iff {a : Assembly} : a.close? = none ↔ a.blocks = [] := by
  obtain ⟨ns, focus⟩ := a
  cases focus with
  | top => exact ⟨fun _ => rfl, fun _ => rfl⟩
  | node current outer =>
    refine ⟨fun h => ?_, nofun⟩
    cases outer <;> cases h
  | group g current outer => exact ⟨nofun, nofun⟩

theorem blocks_openBlock {a b : Assembly} {keyword name : String} {line : Nat}
    (h : a.openBlock keyword name line = .ok b) : b.blocks = (name, line) :: a.blocks := by
  rcases openBlock_cases h with ⟨kind, outer, ha, -, -, rfl⟩ | ⟨current, outer, ha, -, -, rfl⟩
  · rw [ha]
    cases outer <;> rfl
  · rw [ha]
    rfl

theorem blocks_declaration {a b : Assembly} {l : Line} {t : String} (hl : l.kind = .declaration t)
    (h : (a.step l).result = .ok b) : b.blocks = a.blocks := by
  obtain ⟨ns, focus⟩ := a
  cases focus with
  | top =>
    cases hs : isFileStatement t with
    | false => simp [step, hl, hs] at h
    | true =>
      rw [step_statement hl hs] at h
      cases h
      rfl
  | node current outer =>
    rw [step_declaration_node hl] at h
    cases h
    rfl
  | group g current outer =>
    rw [step_declaration_oneof hl] at h
    cases h
    rfl

/-- A closing line is read as long as there is a block to close. -/
theorem step_closer_iff {a b : Assembly} {l : Line} (hk : l.kind = .closeBlock) :
    (a.step l).result = .ok b ↔ a.close? = some b := by
  rw [step, hk]
  cases hc : a.close? with
  | none =>
    constructor
    · intro h
      cases h
    · intro h
      cases h
  | some m =>
    constructor
    · intro h
      exact congrArg some (Except.ok.inj h)
    · intro h
      exact congrArg Except.ok (Option.some.inj h)

/-- What one line does to the open blocks. -/
theorem blocks_step {a b : Assembly} {l : Line} (h : (a.step l).result = .ok b) :
    match l.kind with
    | .closeBlock => ∃ x, a.blocks = x :: b.blocks
    | .openBlock _ name => b.blocks = (name, l.line) :: a.blocks
    | .declaration _ | .comment | .blank => b.blocks = a.blocks := by
  cases hk : l.kind with
  | closeBlock => exact blocks_close? ((step_closer_iff hk).1 h)
  | openBlock keyword name =>
    simp only [step, hk] at h
    split at h
    · rename_i m hm
      cases h
      exact blocks_openBlock hm
    · cases h
  | declaration t => exact blocks_declaration hk h
  | comment | blank =>
    simp only [step, hk] at h
    cases h
    rfl

/-- The open blocks after a run: those that its lines leave open, inside those of the blocks before
that its lines do not close. -/
theorem blocks_of_reads {a b : Assembly} {ls : List Line} (h : a.Reads ls b) :
    b.blocks = (Line.leftOpen ls).reverse ++ a.blocks.drop (Line.closings ls) := by
  induction ls generalizing a with
  | nil =>
    cases h
    rfl
  | cons l ls ih =>
    obtain ⟨m, hm, hr⟩ := reads_cons_iff.1 h
    have hs := blocks_step hm
    rw [ih hr, Line.leftOpen, Line.closings]
    cases hk : l.kind with
    | closeBlock =>
      rw [hk] at hs
      obtain ⟨x, hx⟩ := hs
      simp only [hx, List.drop_succ_cons]
    | openBlock keyword name =>
      rw [hk] at hs
      simp only at hs
      -- the header is closed by the first closing line that is left over, if there is one
      cases hc : Line.closings ls with
      | zero => simp [hs]
      | succ n => simp [hs]
    | declaration t | comment | blank =>
      rw [hk] at hs
      simp only at hs ⊢
      rw [hs]

/-! ## Completion -/

theorem finish_eq (a : Assembly) :
    a.finish =
      match a.blocks with
      | [] => .ok ⟨a.nodes⟩
      | (name, line) :: _ => .error (.block (.unclosed name) line 1) := by
  obtain ⟨ns, focus⟩ := a
  cases focus <;> rfl

/-- Closing lines end at the top level if they are as many as the open blocks. -/
theorem reads_closers_iff {cs : List Line} (hc : ∀ c ∈ cs, c.kind = .closeBlock) (a : Assembly) :
    (∃ b, a.Reads cs b ∧ b.blocks = []) ↔ cs.length = a.blocks.length := by
  induction cs generalizing a with
  | nil =>
    constructor
    · rintro ⟨b, hb, hn⟩
      cases hb
      rw [hn]
      rfl
    · intro h
      exact ⟨a, reads_nil a, List.length_eq_zero_iff.1 h.symm⟩
  | cons c cs ih =>
    have hk := hc c List.mem_cons_self
    have ih := ih fun x hx => hc x (List.mem_cons_of_mem _ hx)
    simp only [reads_cons_iff, step_closer_iff hk]
    cases hcl : a.close? with
    | none =>
      rw [close?_eq_none_iff.1 hcl]
      constructor
      · rintro ⟨b, ⟨m, hm, -⟩, -⟩
        cases hm
      · nofun
    | some m =>
      obtain ⟨x, hx⟩ := blocks_close? hcl
      simp only [Option.some.injEq, exists_eq_left', ih m, hx, List.length_cons,
        Nat.add_right_cancel_iff]

/-! ## The line at fault -/

theorem exists_step_of_run_error {a : Assembly} {ls : List Line} {e : Error}
    (h : (a.run ls).result = .error e) :
    ∃ p l r b, ls = p ++ l :: r ∧ a.Reads p b ∧ (b.step l).result = .error e := by
  induction ls generalizing a with
  | nil => cases h
  | cons l ls ih =>
    rw [run_result_cons] at h
    cases hs : (a.step l).result with
    | error e' =>
      rw [hs] at h
      cases h
      exact ⟨[], l, ls, a, rfl, reads_nil a, hs⟩
    | ok m =>
      rw [hs] at h
      obtain ⟨p, l', r, b, rfl, hp, hl⟩ := ih h
      exact ⟨l :: p, l', r, b, rfl, .cons hs hp, hl⟩

theorem openBlock_error {a : Assembly} {keyword name : String} {line : Nat} {fault : BlockFault}
    (h : a.openBlock keyword name line = .error fault) (n : String) : fault ≠ .unclosed n := by
  unfold openBlock at h
  split at h
  · cases h
    nofun
  · split at h
    · cases h
      nofun
    · split at h
      · cases h
      · split at h
        · cases h
        · cases h
          nofun
  · split at h
    · cases h
      nofun
    · split at h
      · cases h
      · cases h
        nofun

/-- The error of a line is at its place, and is not that of a block that is left open. -/
theorem exists_fault_of_step_error {a : Assembly} {l : Line} {e : Error}
    (h : (a.step l).result = .error e) :
    ∃ fault, e = .block fault l.line l.column ∧ ∀ name, fault ≠ .unclosed name := by
  unfold step at h
  split at h
  · cases h
  · cases h
  · split at h
    · cases h
    · cases h
      exact ⟨_, rfl, nofun⟩
  · split at h
    · cases h
    · rename_i hf
      cases h
      exact ⟨_, rfl, openBlock_error hf⟩
  · split at h
    · split at h
      · cases h
      · cases h
        exact ⟨_, rfl, nofun⟩
    · cases h
    · cases h

end Assembly

/-! ## Wordings -/

theorem head?_toList_append {p : String} {c : Char} (h : p.toList.head? = some c) (s : String) :
    (p ++ s).toList.head? = some c := by
  rw [String.toList_append, List.head?_append, h]
  rfl

namespace BlockFault

/-- The wording of a fault begins with one of five letters. -/
theorem head?_message (fault : BlockFault) :
    ∃ c ∈ ['M', 'U', 'C', 'o', 'D'], fault.message.toList.head? = some c := by
  cases fault with
  | header text => exact ⟨'M', by decide, head?_toList_append (by decide) _⟩
  | unbalanced => exact ⟨'U', by decide, by decide⟩
  | insideOneof name =>
    exact ⟨'C', by decide, head?_toList_append (head?_toList_append (by decide) _) _⟩
  | insideEnum name parent =>
    refine ⟨'C', by decide, ?_⟩
    exact head?_toList_append (head?_toList_append (head?_toList_append (by decide) _) _) _
  | strayOneof name =>
    exact ⟨'o', by decide, head?_toList_append (head?_toList_append (by decide) _) _⟩
  | unknownKeyword keyword => exact ⟨'U', by decide, head?_toList_append (by decide) _⟩
  | outside text =>
    exact ⟨'D', by decide, head?_toList_append (head?_toList_append (by decide) _) _⟩
  | unclosed name => exact ⟨'U', by decide, head?_toList_append (by decide) _⟩

/-- No fault says that a block fits into nothing around it: the open blocks are kept so that a
`oneof` has a node around it. -/
theorem message_ne_orphan (fault : BlockFault) (name : String) :
    fault.message ≠ "Block " ++ quote name ++ " has no valid parent" := by
  intro h
  obtain ⟨c, hc, hhead⟩ := fault.head?_message
  rw [h, head?_toList_append (head?_toList_append (by decide : _ = some 'B') _) _] at hhead
  cases hhead
  exact absurd hc (by decide)

end BlockFault

/-! ## The three cases -/

namespace Schema

open Assembly

/-- The lines declare a schema. -/
def Accepted (ls : List Line) : Prop := ∃ s, (ofLines ls).result = .ok s

/-- A block is left open: the error names the innermost one. Closing lines complete the lines in
one number only, which is that of the open blocks. -/
def LeavesOpen (ls : List Line) : Prop :=
  ∃ name line, (ofLines ls).result = .error (.block (.unclosed name) line 1) ∧
    (Line.leftOpen ls).getLast? = some (name, line) ∧ 1 ≤ (Line.leftOpen ls).length ∧
    ∀ closers : List Line, (∀ c ∈ closers, c.kind = .closeBlock) →
      (Accepted (ls ++ closers) ↔ closers.length = (Line.leftOpen ls).length)

/-- One line is at fault: those before it can be completed, and after it the error is the same
whatever follows. -/
def FailsAtLine (ls : List Line) : Prop :=
  ∃ before l after fault, ls = before ++ l :: after ∧ (∃ rest, Accepted (before ++ rest)) ∧
    ∀ rest, (ofLines (before ++ l :: rest)).result = .error (.block fault l.line l.column)

theorem accepted_iff {ls : List Line} :
    Accepted ls ↔ ∃ b, Assembly.empty.Reads ls b ∧ b.blocks = [] := by
  unfold Accepted Reads
  simp only [ofLines_result]
  cases (Assembly.empty.run ls).result with
  | error e => exact ⟨nofun, nofun⟩
  | ok a =>
    change (∃ s, a.finish = .ok s) ↔ _
    rw [finish_eq]
    cases hb : a.blocks with
    | nil => exact ⟨fun _ => ⟨a, rfl, hb⟩, fun _ => ⟨_, rfl⟩⟩
    | cons x xs =>
      constructor
      · rintro ⟨s, hs⟩
        cases hs
      · rintro ⟨b, hab, hnil⟩
        cases hab
        rw [hb] at hnil
        cases hnil

/-- What has been read without an error is completed by closing lines, as many as there are blocks
left open. -/
theorem accepted_append_closers_iff {ls closers : List Line} {a : Assembly}
    (h : Assembly.empty.Reads ls a) (hc : ∀ c ∈ closers, c.kind = .closeBlock) :
    Accepted (ls ++ closers) ↔ closers.length = (Line.leftOpen ls).length := by
  have hblocks : a.blocks.length = (Line.leftOpen ls).length := by
    rw [blocks_of_reads h]
    simp [blocks, Assembly.empty]
  rw [accepted_iff, ← hblocks, ← reads_closers_iff hc a]
  unfold Reads
  rw [h.run_append]

theorem leavesOpen_of_reads {ls : List Line} {a : Assembly} (h : Assembly.empty.Reads ls a)
    (hb : a.blocks ≠ []) : LeavesOpen ls := by
  have hblocks : a.blocks = (Line.leftOpen ls).reverse := by
    rw [blocks_of_reads h]
    simp [blocks, Assembly.empty]
  obtain ⟨⟨name, line⟩, outer, hcons⟩ := List.exists_cons_of_ne_nil hb
  have hresult : (ofLines ls).result = .error (.block (.unclosed name) line 1) := by
    rw [ofLines_result, show (Assembly.empty.run ls).result = .ok a from h]
    change a.finish = _
    rw [finish_eq, hcons]
  have hlast : (Line.leftOpen ls).getLast? = some (name, line) := by
    rw [← List.head?_reverse, ← hblocks, hcons]
    rfl
  refine ⟨name, line, hresult, hlast, ?_, fun closers hc => accepted_append_closers_iff h hc⟩
  rw [← List.length_reverse, ← hblocks]
  exact List.length_pos_iff.2 hb

theorem failsAtLine_of_run_error {ls : List Line} {e : Error}
    (h : (Assembly.empty.run ls).result = .error e) : FailsAtLine ls := by
  obtain ⟨before, l, after, b, rfl, hb, hl⟩ := exists_step_of_run_error h
  obtain ⟨fault, rfl, -⟩ := exists_fault_of_step_error hl
  refine ⟨before, l, after, fault, rfl, ?_, fun rest => ?_⟩
  · let closer : Line := ⟨.closeBlock, 0, 0⟩
    refine ⟨List.replicate (Line.leftOpen before).length closer, ?_⟩
    refine (accepted_append_closers_iff hb fun c hc => ?_).2 List.length_replicate
    rw [List.eq_of_mem_replicate hc]
  · rw [ofLines_result, hb.run_append, run_result_cons, hl]
    rfl

theorem Accepted.not_leavesOpen {ls : List Line} (h : Accepted ls) : ¬ LeavesOpen ls := by
  obtain ⟨s, hs⟩ := h
  rintro ⟨name, line, herror, -⟩
  rw [hs] at herror
  cases herror

theorem Accepted.not_failsAtLine {ls : List Line} (h : Accepted ls) : ¬ FailsAtLine ls := by
  obtain ⟨s, hs⟩ := h
  rintro ⟨before, l, after, fault, rfl, -, herror⟩
  have h := herror after
  rw [hs] at h
  cases h

/-- A block that is left open can be closed, so no line is at fault. -/
theorem LeavesOpen.not_failsAtLine {ls : List Line} (h : LeavesOpen ls) : ¬ FailsAtLine ls := by
  obtain ⟨-, -, -, -, -, hcomplete⟩ := h
  rintro ⟨before, l, after, fault, rfl, -, herror⟩
  let closer : Line := ⟨.closeBlock, 0, 0⟩
  let closers := List.replicate (Line.leftOpen (before ++ l :: after)).length closer
  have hclosers : ∀ c ∈ closers, c.kind = .closeBlock := by
    intro c hc
    rw [List.eq_of_mem_replicate hc]
  obtain ⟨s, hs⟩ := (hcomplete closers hclosers).2 List.length_replicate
  rw [List.append_assoc, List.cons_append, herror] at hs
  cases hs

theorem leavesOpen_or_failsAtLine {ls : List Line} (h : ¬ Accepted ls) :
    LeavesOpen ls ∨ FailsAtLine ls := by
  cases hr : (Assembly.empty.run ls).result with
  | error e => exact .inr (failsAtLine_of_run_error hr)
  | ok a => exact .inl (leavesOpen_of_reads hr fun hb => h (accepted_iff.2 ⟨a, hr, hb⟩))

end Schema

end TreeSchema
