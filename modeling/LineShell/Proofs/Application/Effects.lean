import LineShell.Proofs.Application.Reading
import LineShell.Proofs.Files.Frame

/-!
# What applications change

Whatever an application does, and whether or not it fails, it leaves only this behind: texts at the
end of its output, a rest of its input, and, if it is `cd` and succeeds, another working directory
(`Registry.standard_confined`). An output that is a file is the one way to the files.

That texts are written, and not bytes, is the point of `World.Wrote`: an application that copied
bytes, or wrote a part of a character before it failed, would have no list of texts to show for it.
-/

namespace LineShell

/-- From one world to a later one the texts were written to the output, one behind the other. If the
output is a file, that file is all that was changed of the files; otherwise nothing was. -/
inductive World.Wrote (texts : List Text) (w w' : World) : Prop where
  | sink {s s' : Sink} (before : w.output = .sink s) (after : w'.output = .sink s')
      (bytes : s'.bytes = s.bytes ++ Text.encode texts.flatten) (files : w'.files = w.files)
  | file {loc : Location} (before : w.output = .file loc) (after : w'.output = .file loc)
      (files : w'.files = w.files.appendAll loc texts)

namespace World.Wrote

variable {texts more : List Text} {w w' w'' : World}

/-- Nothing was written. -/
theorem of_eq (hfiles : w'.files = w.files) (hout : w'.output = w.output) : w.Wrote [] w' := by
  cases h : w.output with
  | sink s => exact .sink h (hout.trans h) (by simp [Text.encode]) hfiles
  | file loc => exact .file h (hout.trans h) hfiles

protected theorem refl (w : World) : w.Wrote [] w := .of_eq rfl rfl

protected theorem trans (h : w.Wrote texts w') (h' : w'.Wrote more w'') :
    w.Wrote (texts ++ more) w'' := by
  cases h with
  | sink before after bytes files =>
    cases h' with
    | sink before' after' bytes' files' =>
      obtain rfl := Output.sink.inj (after.symm.trans before')
      refine .sink before after' ?_ (files'.trans files)
      rw [bytes', bytes, List.append_assoc, List.flatten_append, Text.encode_append]
    | file before' _ _ => cases after.symm.trans before'
  | file before after files =>
    cases h' with
    | sink before' _ _ _ => cases after.symm.trans before'
    | file before' after' files' =>
      obtain rfl := Output.file.inj (after.symm.trans before')
      exact .file before after' (by rw [files', files, Files.appendAll_append])

/-- Without a file for an output the files are as they were. -/
theorem files_eq (h : w.Wrote texts w') {s : Sink} (hout : w.output = .sink s) :
    w'.files = w.files := by
  cases h with
  | sink _ _ _ files => exact files
  | file before _ _ => cases hout.symm.trans before

/-- With a file for an output the texts are at its end. -/
theorem files_eq_appendAll (h : w.Wrote texts w') {loc : Location} (hout : w.output = .file loc) :
    w'.files = w.files.appendAll loc texts := by
  cases h with
  | sink before _ _ _ => cases hout.symm.trans before
  | file before _ files => exact Output.file.inj (hout.symm.trans before) ▸ files

end World.Wrote

namespace Act

variable {α : Type}

/-! ### Writing -/

/-- An action that changes the files and the output only by writing texts to the output. -/
def Writes (act : Act α) : Prop := ∀ w : World, ∃ texts, w.Wrote texts (act.run.run w).2

theorem scheme_writes (app : Text) : Scheme app Writes :=
  Stepwise.scheme (R := fun w w' ↦ ∃ texts, w.Wrote texts w')
    { refl := fun w ↦ ⟨[], .refl w⟩
      trans := by
        rintro w w' w'' ⟨texts, h⟩ ⟨more, h'⟩
        exact ⟨texts ++ more, h.trans h'⟩
      sink := by
        intro w s s' t hs hbytes _
        rw [← List.flatten_singleton (l := t)] at hbytes
        exact ⟨[t], .sink hs rfl hbytes rfl⟩
      file := fun w loc t hloc ↦ ⟨[t], .file hloc hloc rfl⟩
      read := fun _ _ _ _ _ ↦ ⟨[], .of_eq rfl rfl⟩
      moved := fun _ _ _ ↦ ⟨[], .of_eq rfl rfl⟩ }

/-! ### The environment -/

theorem env_write (app t : Text) (w : World) : ((write app t).run.run w).2.env = w.env := by
  rw [run_write]
  split
  · split <;> rfl
  · rfl

/-- An application other than `cd` has no way to the environment. -/
theorem scheme_keepsEnvironment (app : Text) :
    Scheme app (Along fun w w' ↦ app ≠ Application.cdName → w'.env = w.env) :=
  Stepwise.scheme
    { refl := fun _ _ ↦ rfl
      trans := fun h h' hcd ↦ (h' hcd).trans (h hcd)
      sink := fun _ _ _ _ _ _ _ _ ↦ rfl
      file := fun _ _ _ _ _ ↦ rfl
      read := fun _ _ _ _ _ _ ↦ rfl
      moved := fun hname _ _ hcd ↦ absurd hname hcd }

end Act

/-! ### The applications of the shell -/

/-- The working directory of the environment is changed to the canonical path of a directory. -/
def Environment.MovedIn (files : Files) (env env' : Environment) : Prop :=
  ∃ path dir, files.isDirectory path = true ∧ files.canonical path = .ok dir ∧
    env' = { env with workingDir := dir }

namespace Application

/-- **`cd` changes the working directory when it succeeds, and nothing when it fails.** -/
theorem cd_moves (arguments : List Text) (w : World) :
    let ran := (cd.run arguments).run.run w
    ran.2.env = w.env ∨ ran.1 = .ok () ∧ w.env.MovedIn w.files ran.2.env := by
  have hchange : ∀ shown path, let ran := (changeTo shown path).run.run w
      ran.2.env = w.env ∨ ran.1 = .ok () ∧ w.env.MovedIn w.files ran.2.env := by
    intro shown path
    rw [Act.run_changeTo]
    split
    · next dir hdir hcanonical => exact Or.inr ⟨rfl, path, dir, hdir, hcanonical, rfl⟩
    · exact Or.inl rfl
    · exact Or.inl rfl
  rw [cd, ofUsage]
  dsimp only
  split
  · exact Or.inl (Act.env_write cdName _ w)
  · next given _ =>
    rw [Act.run_get_bind]
    split
    · exact hchange _ _
    · exact hchange _ _
    · exact Or.inl rfl
  · exact Or.inl rfl

end Application

namespace Registry

variable {app : Application}

open Application in
/-- Only `cd` has its name. -/
theorem eq_cd_of_name (h : app ∈ standard.applications) (hname : app.name = cdName) : app = cd := by
  have hmem := mem_of_mem_ofList h
  simp only [List.mem_cons, List.not_mem_nil, or_false] at hmem
  rcases hmem with rfl | rfl | rfl | rfl | rfl | rfl | rfl | rfl | rfl | rfl | rfl | rfl
  case inr.inl => rfl
  all_goals exact absurd hname (by decide)

/-- The applications are confined to what an application may change: they write texts to their
output and change no other file, what feeds them stays a text if it is one, and only `cd` changes
the environment, when it succeeds. -/
structure Confined (registry : Registry) : Prop where
  writes : ∀ app ∈ registry.applications, ∀ arguments, (app.run arguments).Writes
  leavesText : ∀ app ∈ registry.applications, ∀ arguments, (app.run arguments).LeavesText
  moves : ∀ app ∈ registry.applications, ∀ arguments w,
    let ran := (app.run arguments).run.run w
    ran.2.env = w.env ∨
      app = Application.cd ∧ ran.1 = .ok () ∧ w.env.MovedIn w.files ran.2.env

/-- **The applications of the shell are confined.** -/
theorem standard_confined : standard.Confined where
  writes app h arguments := standard_scheme Act.scheme_writes app h arguments
  leavesText := standard_leavesText
  moves app h arguments w := by
    by_cases hname : app.name = Application.cdName
    · obtain rfl := eq_cd_of_name h hname
      exact (Application.cd_moves arguments w).imp_right fun hmoved ↦ ⟨rfl, hmoved⟩
    · exact Or.inl (standard_scheme Act.scheme_keepsEnvironment app h arguments w hname)

end Registry

end LineShell
