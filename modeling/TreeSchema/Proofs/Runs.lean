import TreeSchema.Command
import TreeSchema.Proofs.Entries
import TreeSchema.Proofs.Faults
/-!
# All or nothing

A command reads its files, plans, and writes at most one file at the end. `Files.attempt` is such a
run with the error that ends it as a value, and `Files.run` is what is seen of it (`run_eq`).

* `Files.write_cases`, `Files.read_write`: what writing changes, and that reading the same path
  gives the text that was written. The path still leads to the same place, though there may be a
  new file (`Path.follow_eq_file`).
* `Command.code` is the module that a command generates, or the error on the way there. Printing
  it, saving it and checking it are told by it (`attempt_print`, `attempt_save`,
  `failure?_attempt_check`).

`run_all_or_nothing` puts the three commands side by side.
-/
namespace TreeSchema

/-! ## Files -/

namespace Path

theorem nameFault_eq_tooLong_iff (isFile : Bool) (name : String) :
    nameFault isFile name = .tooLong ↔ longestName < name.utf8ByteSize := by
  unfold nameFault
  split
  · rename_i h
    exact ⟨fun _ => h, fun _ => rfl⟩
  · rename_i h
    refine ⟨fun hf => ?_, fun hl => absurd hl h⟩
    split at hf <;> cases hf

/-- Which names are files decides on faults only, not on the place of a file. -/
theorem walk_eq_file {isFile other : String → Bool} {slash inside : Bool} {names : List String}
    {name : String} (h : walk isFile slash inside names = .ok (.file name)) :
    walk other slash inside names = .ok (.file name) := by
  induction names generalizing inside with
  | nil => cases h
  | cons first rest ih =>
    rw [walk] at h ⊢
    split
    · rename_i hdot
      rw [if_pos hdot] at h
      exact ih h
    · rename_i hdot
      rw [if_neg hdot] at h
      split
      · rename_i hup
        rw [if_pos hup] at h
        exact ih h
      · rename_i hup
        rw [if_neg hup] at h
        simp only at h ⊢
        split at h
        · cases h
        · rename_i hrest
          rw [if_neg hrest]
          split at h
          · cases h
          · rename_i hslash
            rw [if_neg hslash]
            split at h
            · rename_i hfile
              -- a name that is too long is so whether or not there is a file
              have hother :
                  (inside && nameFault (inside && other first) first != .tooLong) = true := by
                simp only [Bool.and_eq_true, bne_iff_ne, ne_eq, nameFault_eq_tooLong_iff] at hfile ⊢
                exact hfile
              rw [if_pos hother]
              exact h
            · cases h

theorem follow_eq_file {isFile other : String → Bool} {path name : String}
    (h : follow isFile path = .ok (.file name)) : follow other path = .ok (.file name) := by
  unfold follow at h ⊢
  split at h
  · cases h
  · rename_i hzero
    rw [if_neg hzero]
    split at h
    · cases h
    · rename_i hempty
      rw [if_neg hempty]
      split at h
      · cases h
      · rename_i hlong
        rw [if_neg hlong]
        exact walk_eq_file h

end Path

namespace Files

theorem write_cases {files written : Files} {path text : String}
    (h : files.write path text = .ok written) :
    ∃ name, files.place path = .ok (.file name) ∧ written = files.insert name text.toUTF8 := by
  unfold write at h
  split at h
  · rename_i name hname
    cases h
    exact ⟨name, hname, rfl⟩
  · cases h
  · cases h
  · cases h

/-- What has been written is read. -/
theorem read_write {files written : Files} {path text : String}
    (h : files.write path text = .ok written) : written.read path = .ok text := by
  obtain ⟨name, hplace, rfl⟩ := write_cases h
  have hplace' : place (files.insert name text.toUTF8) path = .ok (.file name) :=
    Path.follow_eq_file hplace
  have hget : Entries.get? (files.insert name text.toUTF8) name = some text.toUTF8 := by
    rw [Entries.get?_insert, if_pos rfl]
  have hutf8 : String.fromUTF8? text.toUTF8 = some text := dif_pos text.isValidUTF8
  simp only [read, hplace', hget, hutf8]

/-- Writing changes the file at the end of the path, and no other. -/
theorem get?_write {files written : Files} {path text name : String}
    (h : files.write path text = .ok written) (hname : files.place path ≠ .ok (.file name)) :
    written.get? name = files.get? name := by
  obtain ⟨target, hplace, rfl⟩ := write_cases h
  rw [Entries.get?_insert, if_neg]
  rintro rfl
  exact hname hplace

end Files

/-! ## Runs -/

theorem mapError_eq_ok_iff {α β γ : Type} {f : α → β} {x : Except α γ} {a : γ} :
    x.mapError f = .ok a ↔ x = .ok a := by
  cases x with
  | error e => exact ⟨nofun, nofun⟩
  | ok b =>
    constructor
    · intro h
      exact congrArg Except.ok (Except.ok.inj h)
    · intro h
      exact congrArg Except.ok (Except.ok.inj h)

namespace Files

/-- What a command does: what it prints and the files after it, or the error that ends it. -/
def attempt (files : Files) (command : Command) : Except Error (String × Files) := do
  let plan ← command.plan files.read
  match plan.write with
  | none => pure (plan.stdout, files)
  | some (path, text) =>
    let written ← (files.write path text).mapError Error.file
    pure (plan.stdout, written)

end Files

/-- What is seen of a run: an error is reported and leaves the files as they were. -/
def Outcome.ofAttempt (files : Files) : Except Error (String × Files) → Outcome × Files
  | .ok (stdout, after) => (.success stdout, after)
  | .error e => (.failure e, files)

theorem Files.run_eq (files : Files) (command : Command) :
    files.run command = Outcome.ofAttempt files (files.attempt command) := by
  unfold run attempt
  cases command.plan files.read with
  | error e => rfl
  | ok plan =>
    obtain ⟨write, stdout⟩ := plan
    cases write with
    | none => rfl
    | some target =>
      obtain ⟨path, text⟩ := target
      change _ = Outcome.ofAttempt files ((files.write path text).mapError Error.file >>= _)
      cases hw : files.write path text with
      | error fault => simp only [hw]; rfl
      | ok written => simp only [hw]; rfl

/-! ## What a run changes -/

namespace Command

/-- The path to which a command may write. -/
def output? : Command → Option String
  | .generate _ output _ => output
  | .dump _ | .check _ _ => none

theorem output?_of_plan {read : String → Except FileFault String} {command : Command} {plan : Plan}
    (h : command.plan read = .ok plan) : plan.write.map Prod.fst = command.output? := by
  cases command with
  | generate input output config =>
    obtain ⟨c, -, h⟩ := bind_eq_ok.1 h
    obtain ⟨text, -, h⟩ := bind_eq_ok.1 h
    obtain ⟨code, -, h⟩ := bind_eq_ok.1 h
    cases output with
    | none =>
      cases h
      rfl
    | some path =>
      cases h
      rfl
  | dump input =>
    obtain ⟨text, -, h⟩ := bind_eq_ok.1 h
    obtain ⟨s, -, h⟩ := bind_eq_ok.1 h
    cases h
    rfl
  | check input config =>
    obtain ⟨c, -, h⟩ := bind_eq_ok.1 h
    obtain ⟨text, -, h⟩ := bind_eq_ok.1 h
    obtain ⟨s, -, h⟩ := bind_eq_ok.1 h
    obtain ⟨code, -, h⟩ := bind_eq_ok.1 h
    cases h
    rfl

end Command

namespace Files

variable {files : Files} {command : Command}

/-- A run that succeeds has written to the output of its command, or has changed nothing. -/
theorem attempt_cases {stdout : String} {after : Files}
    (h : files.attempt command = .ok (stdout, after)) :
    after = files ∨
      ∃ path text, command.output? = some path ∧ files.write path text = .ok after := by
  obtain ⟨⟨write, printed⟩, hplan, h⟩ := bind_eq_ok.1 h
  have houtput := Command.output?_of_plan hplan
  cases write with
  | none =>
    cases h
    exact .inl rfl
  | some target =>
    obtain ⟨path, text⟩ := target
    have h : ((files.write path text).mapError Error.file >>= fun written =>
        pure (printed, written)) = .ok (stdout, after) := h
    obtain ⟨written, hw, h⟩ := bind_eq_ok.1 h
    cases h
    exact .inr ⟨path, text, houtput.symm, mapError_eq_ok_iff.1 hw⟩

theorem run_of_attempt_error {e : Error} (h : files.attempt command = .error e) :
    files.run command = (.failure e, files) := by
  rw [run_eq, h]
  rfl

theorem run_of_attempt_ok {stdout : String} {after : Files}
    (h : files.attempt command = .ok (stdout, after)) :
    files.run command = (.success stdout, after) := by
  rw [run_eq, h]
  rfl

theorem exit_eq_zero_iff : (files.run command).1.exit = 0 ↔ ∃ x, files.attempt command = .ok x := by
  cases h : files.attempt command with
  | error e =>
    rw [run_of_attempt_error h]
    exact ⟨nofun, nofun⟩
  | ok x =>
    rw [run_of_attempt_ok h]
    exact ⟨fun _ => ⟨x, rfl⟩, fun _ => rfl⟩

theorem run_files_of_exit_ne_zero (h : (files.run command).1.exit ≠ 0) :
    (files.run command).2 = files := by
  cases ha : files.attempt command with
  | error e => rw [run_of_attempt_error ha]
  | ok x => exact absurd (exit_eq_zero_iff.2 ⟨x, ha⟩) h

theorem run_files_of_output?_eq_none (h : command.output? = none) :
    (files.run command).2 = files := by
  cases ha : files.attempt command with
  | error e => rw [run_of_attempt_error ha]
  | ok x =>
    rw [run_of_attempt_ok ha]
    rcases attempt_cases ha with hx | ⟨path, text, ho, -⟩
    · exact hx
    · rw [h] at ho
      cases ho

/-- A run leaves all files alone that are not at the end of the path of its output. -/
theorem get?_run {name : String}
    (h : ∀ path, command.output? = some path → files.place path ≠ .ok (.file name)) :
    (files.run command).2.get? name = files.get? name := by
  cases ha : files.attempt command with
  | error e => rw [run_of_attempt_error ha]
  | ok x =>
    rw [run_of_attempt_ok ha]
    rcases attempt_cases ha with hx | ⟨path, text, ho, hw⟩
    · rw [hx]
    · exact get?_write hw (h path ho)

end Files

/-! ## The three commands -/

/-- The module that is generated from a file, under settings from another, or the error on the way
there. -/
def Command.code (read : String → Except FileFault String) (input : String)
    (config : Option String) : Except Error String := do
  let c ← settings read config
  let text ← (read input).mapError Error.file
  (TreeSchema.generate text c).result

namespace Files

variable (files : Files) (input output : String) (config : Option String)

theorem attempt_print :
    files.attempt (.generate input none config) =
      Command.code files.read input config >>= fun code => pure (code ++ "\n", files) := by
  simp only [attempt, Command.plan, Command.code, bind_assoc, pure_bind]

theorem attempt_save :
    files.attempt (.generate input (some output) config) =
      Command.code files.read input config >>= fun code =>
        (files.write output code).mapError Error.file >>= fun written =>
          pure (s!"Generated {input} → {output}\n", written) := by
  simp only [attempt, Command.plan, Command.code, bind_assoc, pure_bind]

/-- Saving is what `Files.generate` does, with the settings read before. -/
theorem attempt_save_eq_generate :
    files.attempt (.generate input (some output) config) =
      Command.settings files.read config >>= fun c =>
        (files.generate input output c).result >>= fun written =>
          pure (s!"Generated {input} → {output}\n", written) := by
  simp only [attempt_save, Command.code, generate, bind_assoc, Traced.result_bind,
    Traced.result_liftM, Traced.result_note, Traced.result_pure]
  rfl

theorem failure?_attempt_check :
    failure? (files.attempt (.check input config)) =
      failure? (Command.code files.read input config) := by
  simp only [attempt, Command.plan, Command.code, bind_assoc, pure_bind, TreeSchema.generate,
    Traced.result_bind]
  refine failure?_bind_congr _ fun c => failure?_bind_congr _ fun text => ?_
  exact failure?_bind_congr _ fun s => failure?_bind_pure _ _

theorem append_newline_inj {s t : String} (h : s ++ "\n" = t ++ "\n") : s = t := by
  have h := congrArg String.toList h
  rw [String.toList_append, String.toList_append] at h
  exact String.toList_inj.1 (List.append_cancel_right h)

variable {files input config}

/-- What is printed is the module. -/
theorem code_of_print {code : String}
    (hexit : (files.run (.generate input none config)).1.exit = 0)
    (hout : (files.run (.generate input none config)).1.stdout = code ++ "\n") :
    Command.code files.read input config = .ok code := by
  obtain ⟨x, hx⟩ := exit_eq_zero_iff.1 hexit
  rw [run_of_attempt_ok hx] at hout
  rw [attempt_print] at hx
  obtain ⟨printed, hcode, hprinted⟩ := bind_eq_ok.1 hx
  cases hprinted
  rw [hcode, append_newline_inj hout]

theorem code_of_print_error {e : Error}
    (h : files.attempt (.generate input none config) = .error e) :
    Command.code files.read input config = .error e := by
  rw [attempt_print] at h
  cases hcode : Command.code files.read input config with
  | error e' =>
    rw [hcode] at h
    cases h
    rfl
  | ok code =>
    rw [hcode] at h
    cases h

/-- The module is saved, or it cannot be written. -/
theorem save_of_code {code : String} (h : Command.code files.read input config = .ok code)
    (output : String) :
    (∃ fault, files.write output code = .error fault ∧
      files.attempt (.generate input (some output) config) = .error (.file fault)) ∨
    ((files.run (.generate input (some output) config)).1.exit = 0 ∧
      (files.run (.generate input (some output) config)).2.read output = .ok code) := by
  have hsave := files.attempt_save input output config
  rw [h] at hsave
  cases hw : files.write output code with
  | error fault =>
    refine .inl ⟨fault, rfl, ?_⟩
    rw [hsave, ok_bind, hw]
    rfl
  | ok written =>
    rw [ok_bind, hw] at hsave
    refine .inr ⟨exit_eq_zero_iff.2 ⟨_, hsave⟩, ?_⟩
    rw [run_of_attempt_ok hsave]
    exact read_write hw

end Files

end TreeSchema
