import LineShell.Proofs.Application.Raises

/-!
# Applications that are fed a text

A pipe feeds an application the bytes of a text. Read as lines or as one text, such an input never
fails, and nothing is left of it (`Source.readLines_text`, `Source.readText_text`); so what feeds an
application stays a text (`Registry.standard_leavesText`).

An application can fail for the encoding of a file all the same. That its input has no part in this
is said of the whole application: either what feeds it makes no difference to it, or it reads no
file (`Registry.standard_takesText`). Which of the two holds is known from the arguments. This is no
compositional property, an action that reads the input and then a file has it not, so it is shown
application by application.
-/

namespace LineShell

/-! ### Inputs that are texts -/

/-- What feeds a call, if anything does, is the bytes of a text. -/
def Source.IsText (input : Option Source) : Prop :=
  ∀ s, input = some s → ∃ t : Text, s = .bytes t.encode

namespace Source

variable {input : Option Source}

theorem isText_none : IsText none := fun _ h ↦ nomatch h

theorem isText_encode (t : Text) : IsText (some (.bytes t.encode)) :=
  fun _ h ↦ ⟨t, (Option.some.inj h).symm⟩

/-- An input that was read to its end is the empty text. -/
theorem isText_nil : IsText (some (.bytes [])) := isText_encode []

/-- The lines of a text are read, and nothing is left. -/
theorem readLines_text (t : Text) : readLines (.bytes t.encode) = (.ok t.lines, .bytes []) := by
  rw [readLines, Utf8.decode?_encode]

/-- A text is read, and nothing is left. -/
theorem readText_text (t : Text) : readText (.bytes t.encode) = (.ok t, .bytes []) := by
  rw [readText, Utf8.decode?_encode]

end Source

/-- An error because bytes are no text. -/
def ShellError.IsEncoding (e : ShellError) : Prop := ∃ app, e = .stream app .notUtf8

namespace Act

variable {α β : Type} {app : Text}

/-! ### Actions that leave a text -/

/-- An action that leaves a text for an input if it finds one. -/
def LeavesText (act : Act α) : Prop :=
  ∀ w : World, Source.IsText w.input → Source.IsText (act.run.run w).2.input

theorem scheme_leavesText (app : Text) : Scheme app LeavesText :=
  Stepwise.scheme (R := fun w w' ↦ Source.IsText w.input → Source.IsText w'.input)
    { refl := fun _ ↦ id
      trans := fun h h' ↦ h' ∘ h
      sink := fun _ _ _ _ _ _ _ ↦ id
      file := fun _ _ _ _ ↦ id
      read := by
        intro w s s' hs hread hw
        obtain ⟨t, rfl⟩ := hw s hs
        have hnil : s' = .bytes [] := by
          rcases hread with rfl | rfl
          · rw [Source.readLines_text]
          · rw [Source.readText_text]
        rw [hnil]
        exact Source.isText_nil
      moved := fun _ _ _ ↦ id }

/-! ### Actions that ignore their input -/

/-- An action that does the same whatever feeds it, and leaves that as it is. -/
def IgnoresInput (act : Act α) : Prop :=
  ∀ (w : World) (input : Option Source), act.run.run { w with input } =
    ((act.run.run w).1, { (act.run.run w).2 with input })

namespace IgnoresInput

protected theorem pure (a : α) : IgnoresInput (pure a : Act α) := fun _ _ ↦ rfl

protected theorem throw (e : ShellError) : IgnoresInput (throw e : Act α) := fun _ _ ↦ rfl

protected theorem bind {act : Act α} {next : α → Act β} (hact : IgnoresInput act)
    (hnext : ∀ a, IgnoresInput (next a)) : IgnoresInput (act >>= next) := by
  intro w input
  simp only [ExceptT.run_bind, StateT.run_bind]
  rw [hact w input]
  rcases act.run.run w with ⟨e | a, w'⟩
  · rfl
  · exact hnext a w' input

/-- What is looked at must not be the input. -/
protected theorem get_bind {next : World → Act α}
    (hsame : ∀ (w : World) input, next { w with input } = next w)
    (hnext : ∀ w, IgnoresInput (next w)) : IgnoresInput (get >>= next) := by
  intro w input
  rw [run_get_bind, run_get_bind, hsame]
  exact hnext w w input

protected theorem write (app t : Text) : IgnoresInput (write app t) := by
  intro w input
  rw [run_write, run_write]
  dsimp only
  split
  · split <;> rfl
  · rfl

protected theorem changeTo (shown : Text) (path : Path) :
    IgnoresInput (Application.changeTo shown path) := by
  intro w input
  rw [run_changeTo, run_changeTo]
  dsimp only
  split <;> rfl

end IgnoresInput

/-- Without reading its input, an application ignores it. -/
theorem basis_ignoresInput (app : Text) : Basis app IgnoresInput where
  pure := .pure
  throw _ := .throw _
  bind := .bind
  get := .get_bind
  write := .write app
  changeTo _ := .changeTo

/-! ### Actions that fail for no encoding -/

/-- An action that, fed a text, does not fail because bytes are no text. -/
def AcceptsText (act : Act α) : Prop :=
  ∀ (w : World) (t : Text), w.input = some (.bytes t.encode) →
    ∀ e, (act.run.run w).1 = .error e → ¬ e.IsEncoding

/-- What writing fails with is no encoding. -/
theorem raises_write (app t : Text) : (write app t).Raises fun e ↦ ¬ e.IsEncoding := by
  rintro w e h ⟨name, rfl⟩
  rw [run_write] at h
  split at h
  · next s _ =>
    split at h
    · cases h
    · next f hwrite =>
      obtain rfl : f = .notUtf8 := (ShellError.stream.inj (Except.error.inj h)).2
      rw [Sink.write] at hwrite
      split at hwrite <;> cases hwrite
  · cases h

/-- A text that is read first is read without a failure. -/
theorem acceptsText_bind {reading : Source → Except StreamFault α × Source} {next : α → Act β}
    (hreading : ∀ t : Text, ∃ a, reading (.bytes t.encode) = (.ok a, .bytes []))
    (hnext : ∀ a, (next a).Raises fun e ↦ ¬ e.IsEncoding) :
    AcceptsText (readInput app reading >>= next) := by
  intro w t hw e h
  obtain ⟨a, ha⟩ := hreading t
  simp only [ExceptT.run_bind, StateT.run_bind] at h
  rw [run_readInput, hw] at h
  dsimp only at h
  rw [ha] at h
  exact hnext a _ e h

theorem acceptsText_lines (next : List Text → Text) :
    AcceptsText (readInput app Source.readLines >>= fun lines ↦ write app (next lines)) :=
  acceptsText_bind (fun t ↦ ⟨_, Source.readLines_text t⟩) fun _ ↦ raises_write app _

/-- What feeds the action, if it is a text, has no part in a failure for an encoding: the action
ignores it, or does not fail so. -/
def TakesText (act : Act α) : Prop := act.IgnoresInput ∨ act.AcceptsText

/-- **A failure for an encoding has nothing to do with a text that feeds the action**: without it
the action fails alike. -/
theorem TakesText.error_without {act : Act α} (h : act.TakesText) {w : World} {e : ShellError}
    (hw : Source.IsText w.input) (hfail : (act.run.run w).1 = .error e) (he : e.IsEncoding) :
    (act.run.run { w with input := none }).1 = .error e := by
  rcases h with hignores | haccepts
  · rw [hignores w none]
    exact hfail
  · cases hin : w.input with
    | none =>
      rw [← hin]
      exact hfail
    | some s =>
      obtain ⟨t, rfl⟩ := hw s hin
      exact absurd he (haccepts w t hin e hfail)

theorem takesText_linesOf (path : Option Text) (next : List Text → Text) :
    TakesText (linesOf app path >>= fun lines ↦ write app (next lines)) := by
  cases path with
  | none => exact Or.inr (acceptsText_lines next)
  | some path =>
    have hC := basis_ignoresInput app
    exact Or.inl (hC.bind (hC.fileLines path) fun _ ↦ hC.write _)

end Act

open Act

/-! ### Applications -/

namespace Application

/-- Whatever its arguments are, a text that feeds the application has no part in a failure for an
encoding. -/
def TakesText (app : Application) : Prop := ∀ arguments, (app.run arguments).TakesText

/-- An application whose actions ignore their input. -/
theorem takesText_of_ignores {app : Application} (h : app.Has fun _ {_} ↦ IgnoresInput) :
    app.TakesText := fun arguments ↦ Or.inl (h arguments)

theorem takesText_ofUsage {name : Text} {usage : Usage} {index : List Text → Option Nat}
    {body : Given → Act Unit} (hbody : ∀ given, (body given).TakesText) :
    (ofUsage name usage index body).TakesText := by
  intro arguments
  dsimp only [ofUsage]
  split
  · exact Or.inl (.write _ _)
  · exact hbody _
  · exact Or.inl (.throw _)

theorem takesText_cat : cat.TakesText := by
  refine takesText_ofUsage fun given ↦ ?_
  split
  · exact Or.inr (acceptsText_lines Text.unlines)
  · exact Or.inl (basis_showFiles (C := fun _ {_} ↦ IgnoresInput) (basis_ignoresInput catName) _)

theorem takesText_portion (name : Text) (usage : Usage) (pick : Nat → List Text → List Text) :
    (portion name usage pick).TakesText := by
  refine takesText_ofUsage fun given ↦ ?_
  dsimp only
  split
  · exact Or.inl ((basis_ignoresInput name).failArgument_bind _ _)
  · exact takesText_linesOf _ fun lines ↦ Text.unlines (pick _ lines)

theorem takesText_grep : grep.TakesText := by
  refine takesText_ofUsage fun given ↦ ?_
  dsimp only
  split
  · exact Or.inl (.throw _)
  · split
    · exact Or.inr (acceptsText_lines fun lines ↦ Text.unlines (matchingLines _ _ _ lines))
    · exact Or.inl (basis_searchFiles (C := fun _ {_} ↦ IgnoresInput) (basis_ignoresInput grepName)
        _ _ _ _)

theorem takesText_sed : sed.TakesText := by
  refine takesText_ofUsage fun given ↦ ?_
  split
  · exact Or.inl (.throw _)
  · split
    · exact Or.inl (.throw _)
    · exact takesText_linesOf _ fun lines ↦ Text.unlines (lines.map _)

theorem takesText_wc : wc.TakesText := by
  intro arguments
  have hC := basis_ignoresInput wcName
  simp only [wc]
  split
  · rw [bind_map_left]
    exact Or.inr (acceptsText_bind (fun t ↦ ⟨t, Source.readText_text t⟩) fun _ ↦ raises_write _ _)
  · exact Or.inl (hC.bind (basis_countFiles (C := fun _ {_} ↦ IgnoresInput) hC _) fun _ ↦
      hC.writeLine _)

end Application

namespace Registry

open Application

/-- **What feeds an application of the shell stays a text.** -/
theorem standard_leavesText (app : Application) (h : app ∈ standard.applications) :
    ∀ arguments, (app.run arguments).LeavesText :=
  standard_scheme scheme_leavesText app h

/-- **A text that feeds an application of the shell has no part in a failure for an encoding.** -/
theorem standard_takesText (app : Application) (h : app ∈ standard.applications) :
    app.TakesText := by
  have hignores := basis_ignoresInput
  have hmem := mem_of_mem_ofList h
  simp only [List.mem_cons, List.not_mem_nil, or_false] at hmem
  rcases hmem with rfl | rfl | rfl | rfl | rfl | rfl | rfl | rfl | rfl | rfl | rfl | rfl
  · exact takesText_of_ignores (has_pwd (hignores _))
  · exact takesText_of_ignores (has_cd (hignores _))
  · exact takesText_of_ignores (has_ls (hignores _))
  · exact takesText_cat
  · exact takesText_of_ignores (has_echo (hignores _))
  · exact takesText_portion _ _ _
  · exact takesText_portion _ _ _
  · exact takesText_grep
  · exact takesText_sed
  · exact takesText_of_ignores (has_find (hignores _))
  · exact takesText_of_ignores (has_history (hignores _))
  · exact takesText_wc

end Registry

end LineShell
