import LineShell.Proofs.Application.Reading

/-!
# Applications that read lines

All applications but `wc` take their input line by line, or not at all (`Act.LineWise`). So two
inputs with the same lines are the same to such an application: it gives the same result and does
the same to the world, what is left of the input apart (`Act.LineWise.run_eq`). It cannot tell a
last line that is ended from one that is not, nor a line feed from a carriage return and a line
feed.

That is said of an action as it is written, and shown application by application, like
`Application.TakesText`; the conditions that `Act.Scheme` lists do not tell how an input is read.
-/

namespace LineShell

namespace Act

variable {α β : Type} {app : Text} {act : Act α}

/-- An action that ignores its input, or reads its lines first and ignores it then. -/
def LineWise (act : Act α) : Prop :=
  act.IgnoresInput ∨ ∃ (app : Text) (next : List Text → Act α),
    act = readInput app Source.readLines >>= next ∧ ∀ lines, (next lines).IgnoresInput

/-- What an action makes of a world, but for what is left of the input. -/
def ranApart (act : Act α) (w : World) : Except ShellError α × World :=
  ((act.run.run w).1, { (act.run.run w).2 with input := none })

theorem IgnoresInput.ranApart_eq (h : act.IgnoresInput) (w : World) (input : Option Source) :
    act.ranApart { w with input } = act.ranApart w := by
  rw [ranApart, h w input]
  rfl

/-- **Inputs with the same lines are the same to an action that reads lines.** -/
theorem LineWise.run_eq (h : act.LineWise) (w : World) {s s' : Source}
    (hlines : s.readLines.1 = s'.readLines.1) :
    act.ranApart { w with input := some s } = act.ranApart { w with input := some s' } := by
  rcases h with hignores | ⟨app, next, rfl, hnext⟩
  · exact (hignores.ranApart_eq w _).trans (hignores.ranApart_eq w _).symm
  · have hran : ∀ s : Source,
        (readInput app Source.readLines >>= next).ranApart { w with input := some s } =
          match s.readLines.1 with
          | .ok lines => (next lines).ranApart w
          | .error f => (.error (.stream app f), { w with input := none }) := by
      intro s
      rw [ranApart]
      simp only [ExceptT.run_bind, StateT.run_bind]
      rw [run_readInput]
      dsimp only
      cases s.readLines.1 with
      | error f => rfl
      | ok lines => exact (hnext lines).ranApart_eq w (some s.readLines.2)
    rw [hran, hran, hlines]

theorem lineWise_lines (app : Text) (next : List Text → Text) :
    LineWise (readInput app Source.readLines >>= fun lines ↦ write app (next lines)) :=
  .inr ⟨app, _, rfl, fun _ ↦ .write app _⟩

theorem lineWise_linesOf (path : Option Text) (next : List Text → Text) :
    LineWise (linesOf app path >>= fun lines ↦ write app (next lines)) := by
  cases path with
  | none => exact lineWise_lines app next
  | some path =>
    have hC := basis_ignoresInput app
    exact .inl (hC.bind (hC.fileLines path) fun _ ↦ hC.write _)

end Act

open Act

/-! ### Applications -/

namespace Application

/-- Whatever its arguments are, the application reads lines, or nothing. -/
def LineWise (app : Application) : Prop := ∀ arguments, (app.run arguments).LineWise

theorem lineWise_of_ignores {app : Application} (h : app.Has fun _ {_} ↦ IgnoresInput) :
    app.LineWise := fun arguments ↦ .inl (h arguments)

theorem lineWise_ofUsage {name : Text} {usage : Usage} {index : List Text → Option Nat}
    {body : Given → Act Unit} (hbody : ∀ given, (body given).LineWise) :
    (ofUsage name usage index body).LineWise := by
  intro arguments
  dsimp only [ofUsage]
  split
  · exact .inl (.write _ _)
  · exact hbody _
  · exact .inl (.throw _)

theorem lineWise_cat : cat.LineWise := by
  refine lineWise_ofUsage fun given ↦ ?_
  split
  · exact lineWise_lines catName Text.unlines
  · exact .inl (basis_showFiles (C := fun _ {_} ↦ IgnoresInput) (basis_ignoresInput catName) _)

theorem lineWise_portion (name : Text) (usage : Usage) (pick : Nat → List Text → List Text) :
    (portion name usage pick).LineWise := by
  refine lineWise_ofUsage fun given ↦ ?_
  dsimp only
  split
  · exact .inl ((basis_ignoresInput name).failArgument_bind _ _)
  · exact lineWise_linesOf _ fun lines ↦ Text.unlines (pick _ lines)

theorem lineWise_grep : grep.LineWise := by
  refine lineWise_ofUsage fun given ↦ ?_
  dsimp only
  split
  · exact .inl (.throw _)
  · split
    · exact lineWise_lines grepName fun lines ↦ Text.unlines (matchingLines _ _ _ lines)
    · exact .inl (basis_searchFiles (C := fun _ {_} ↦ IgnoresInput) (basis_ignoresInput grepName)
        _ _ _ _)

theorem lineWise_sed : sed.LineWise := by
  refine lineWise_ofUsage fun given ↦ ?_
  split
  · exact .inl (.throw _)
  · split
    · exact .inl (.throw _)
    · exact lineWise_linesOf _ fun lines ↦ Text.unlines (lines.map _)

end Application

namespace Registry

open Application

/-- **Every application of the shell but `wc` takes its input line by line.** -/
theorem standard_lineWise (app : Application) (h : app ∈ standard.applications)
    (hwc : app.name ≠ wcName) : app.LineWise := by
  have hignores := basis_ignoresInput
  have hmem := mem_of_mem_ofList h
  simp only [List.mem_cons, List.not_mem_nil, or_false] at hmem
  rcases hmem with rfl | rfl | rfl | rfl | rfl | rfl | rfl | rfl | rfl | rfl | rfl | rfl
  · exact lineWise_of_ignores (has_pwd (hignores _))
  · exact lineWise_of_ignores (has_cd (hignores _))
  · exact lineWise_of_ignores (has_ls (hignores _))
  · exact lineWise_cat
  · exact lineWise_of_ignores (has_echo (hignores _))
  · exact lineWise_portion _ _ _
  · exact lineWise_portion _ _ _
  · exact lineWise_grep
  · exact lineWise_sed
  · exact lineWise_of_ignores (has_find (hignores _))
  · exact lineWise_of_ignores (has_history (hignores _))
  · exact absurd rfl hwc

end Registry

end LineShell
