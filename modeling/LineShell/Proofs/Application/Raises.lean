import LineShell.Proofs.Application.Scheme

/-!
# The errors of the applications

An application fails in its own name: whatever its arguments, its input and the files, the error
carries the name that the application is registered under (`Registry.standard_raises`). In
particular it never fails with an error of the shell itself.

`Act.Raises E` says that an action fails only with errors of `E`. That a property of actions goes
over to the applications is `Registry.standard_scheme`; this module shows that what they are made of
raises errors in the name of the application.
-/

namespace LineShell

namespace Act

variable {α β : Type} {E : ShellError → Prop} {app : Text}

/-- An action that fails only with errors of `E`. -/
def Raises (E : ShellError → Prop) (act : Act α) : Prop :=
  ∀ w e, (act.run.run w).1 = .error e → E e

namespace Raises

protected theorem pure (a : α) : Raises E (pure a : Act α) := fun _ _ h ↦ nomatch h

protected theorem throw {e : ShellError} (he : E e) : Raises E (throw e : Act α) :=
  fun _ _ h ↦ Except.error.inj h ▸ he

protected theorem get : Raises E (get : Act World) := fun _ _ h ↦ nomatch h

protected theorem set (w : World) : Raises E (set w : Act Unit) := fun _ _ h ↦ nomatch h

protected theorem bind {act : Act α} {next : α → Act β} (hact : Raises E act)
    (hnext : ∀ a, Raises E (next a)) : Raises E (act >>= next) := by
  intro w e h
  simp only [ExceptT.run_bind, StateT.run_bind] at h
  rcases hrun : act.run.run w with ⟨e' | a, w'⟩ <;> rw [hrun] at h
  · exact hact w e ((congrArg Prod.fst hrun).trans (congrArg Except.error (Except.error.inj h)))
  · exact hnext a w' e h

/-! ### Reading, writing and changing the directory -/

section Streams

variable (hstream : ∀ f, E (.stream app f))

include hstream

protected theorem write (t : Text) : Raises E (write app t) := by
  refine .bind .get fun w ↦ ?_
  split
  · split
    · exact .set _
    · exact .throw (hstream _)
  · exact .set _

protected theorem ofReading (result : Except StreamFault α) : Raises E (ofReading app result) := by
  cases result with
  | ok a => exact .pure a
  | error f => exact .throw (hstream f)

protected theorem readInput (hmissing : E (.argument app .missingInput))
    (reading : Source → Except StreamFault α × Source) : Raises E (readInput app reading) := by
  refine .bind .get fun w ↦ ?_
  dsimp only
  split
  · exact .throw hmissing
  · exact .bind (.set _) fun _ ↦ .ofReading hstream _

end Streams

protected theorem openFile {path : Text} (hdir : E (.path app (.isDirectory path)))
    (hos : ∀ e, E (.path app (.os path e))) : Raises E (openFile app path) := by
  refine .bind .get fun w ↦ ?_
  split
  · exact .pure _
  · exact .throw hdir
  · exact .throw (hos _)

protected theorem changeTo (shown : Text) (path : Path) :
    Raises (ShellError.Names Application.cdName) (Application.changeTo shown path) := by
  refine .bind .get fun w ↦ ?_
  dsimp only
  split
  · exact fun _ _ h ↦ Except.error.inj h ▸ rfl
  · split
    · exact .set _
    · exact .throw rfl

end Raises

/-- **What an application is made of fails in its name.** -/
theorem scheme_raises (app : Text) : Scheme app (Raises (ShellError.Names app)) where
  pure := .pure
  throw := .throw
  bind := .bind
  get _ hnext := .bind .get hnext
  write := .write fun _ ↦ rfl
  readLines := Raises.readInput (E := ShellError.Names app) (fun _ ↦ rfl) rfl _
  readText := Raises.readInput (E := ShellError.Names app) (fun _ ↦ rfl) rfl _
  changeTo := by
    rintro rfl
    exact .changeTo

end Act

open Act

/-- The application fails only in its own name. -/
def Application.FailsInItsName (app : Application) : Prop :=
  ∀ arguments, (app.run arguments).Raises (ShellError.Names app.name)

/-- **The applications of the shell fail in their own names.** -/
theorem Registry.standard_raises (app : Application) (h : app ∈ standard.applications) :
    app.FailsInItsName :=
  standard_scheme scheme_raises app h

end LineShell
