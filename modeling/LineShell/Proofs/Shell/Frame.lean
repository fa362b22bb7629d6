import LineShell.Proofs.Application.Effects
import LineShell.Proofs.Application.Streams
import LineShell.Proofs.Shell.Scheme

/-!
# What a line gives back

Two things of a machine are changed while a line is evaluated and are as before when it ends, by a
failure too: the depth (`Eval.depth_line`) and the streams that the line was lent. A pipe or a
redirection puts other streams in their place and puts them back; an application could replace them
for good, but none may (`Eval.compositional_keepsStreams`). The log only grows
(`Eval.compositional_grows`). What is written is a text (`Eval.compositional_flows`).

All these compare the machine before a step with the one behind it. Such a relation holds along a
whole run if it is passed on by what the evaluator does to machines; `Eval.Stepwise` lists that.
-/

namespace LineShell

variable {registry : Registry} {limit : Nat}

namespace Eval

/-! ### Relations along a run -/

/-- A relation between the machine before a step and the one behind it that sequencing passes on,
and that holds whatever part of the evaluator the step is. -/
structure Stepwise (registry : Registry) (R : Machine → Machine → Prop) : Prop where
  refl : ∀ m, R m m
  trans : ∀ {m m' m''}, R m m' → R m' m'' → R m m''
  note : ∀ m e, R m (m.noted e)
  /-- A report writes to the error channel. -/
  errors : ∀ (m : Machine) errors, R m { m with errors }
  applied : ∀ app ∈ registry.applications, ∀ arguments (m : Machine),
    R m (m.withWorld ((app.run arguments).run.run m.world).2)
  /-- The file of `>` is made. -/
  made : ∀ (m : Machine) files, R m (m.withWorld { m.world with files })
  fedBy : ∀ {m m' : Machine} source, R (m.withInput source) m' → R m (m'.withInput m.world.input)
  writingTo : ∀ {m m' : Machine} output, R (m.withOutput output) m' →
    R m (m'.withOutput m.world.output)
  nested : ∀ {m m' : Machine} {c}, R (m.entered c) m' → R m m'.left

/-- The relation holds between any machine and the one that the step leaves. -/
def Along {α : Type} (R : Machine → Machine → Prop) (x : Eval α) : Prop := ∀ m, R m (runOn x m).2

namespace Stepwise

variable {R : Machine → Machine → Prop} (hR : Stepwise registry R)

include hR

theorem bind {α β : Type} {x : Eval α} {f : α → Eval β} (hx : Along R x)
    (hf : ∀ a, Along R (f a)) : Along R (x >>= f) := by
  intro m
  have hm := hx m
  rcases hrun : runOn x m with ⟨e | a, m'⟩ <;> rw [hrun] at hm
  · rw [runOn_bind_of_error hrun]
    exact hm
  · rw [runOn_bind_of_ok hrun]
    exact hR.trans hm (hf a m')

theorem report (app : Text) (e : ShellError) : Along R (report app e) := by
  intro m
  rw [runOn_report]
  split
  · exact hR.trans (hR.note m _) (hR.errors _ _)
  · exact hR.note m _

theorem openOutput (target : Text) : Along R (openOutput target) := by
  intro m
  rw [runOn_openOutput]
  split
  · exact hR.made m _
  · exact hR.refl m

theorem along_nested {line : Text → Eval Unit} {c : Text} (h : Along R (line c)) :
    Along R (Eval.nested limit line c) := by
  intro m
  rw [runOn_nested]
  split
  · exact hR.refl m
  · exact hR.nested (h (m.entered c))

/-- **What the parts of the evaluator pass on holds along every run.** -/
theorem compositional (limit : Nat) : Compositional registry limit (Along R) :=
  Elementary.compositional
    { pure := fun _ ↦ hR.refl
      throw := fun _ ↦ hR.refl
      bind := hR.bind
      get := fun _ hf m ↦ hf m m
      note := fun e m ↦ hR.note m e
      report := hR.report
      applied := fun app happ arguments ↦ hR.applied app happ arguments
      openOutput := hR.openOutput
      fedBy := fun source hx m ↦ hR.fedBy source (hx (m.withInput source))
      writingTo := fun output hx m ↦ hR.writingTo output (hx (m.withOutput output))
      nested := hR.along_nested }

end Stepwise

/-! ### The depth -/

/-- A step that ends at the depth where it began. -/
def KeepsDepth {α : Type} (x : Eval α) : Prop := ∀ m, (runOn x m).2.depth = m.depth

/-- A command goes one level deeper and comes back. -/
theorem stepwise_depth (registry : Registry) : Stepwise registry fun m m' ↦ m'.depth = m.depth where
  refl _ := rfl
  trans h h' := h'.trans h
  note _ _ := rfl
  errors _ _ := rfl
  applied _ _ _ _ := rfl
  made _ _ := rfl
  fedBy _ h := h
  writingTo _ h := h
  nested h := congrArg (· - 1) h

theorem compositional_keepsDepth (registry : Registry) (limit : Nat) :
    Compositional registry limit KeepsDepth :=
  (stepwise_depth registry).compositional limit

/-- **A line ends at the depth where it began.** -/
theorem depth_line (levels : Nat) (text : Text) (m : Machine) :
    (runOn (line registry limit levels text) m).2.depth = m.depth :=
  (compositional_keepsDepth registry limit).line levels text m

/-! ### The log -/

/-- A step that keeps what was noted. -/
def Grows {α : Type} (x : Eval α) : Prop := ∀ m, m.log <:+ (runOn x m).2.log

theorem stepwise_log (registry : Registry) : Stepwise registry fun m m' ↦ m.log <:+ m'.log where
  refl m := List.suffix_refl m.log
  trans h h' := h.trans h'
  note _ _ := List.suffix_cons _ _
  errors m _ := List.suffix_refl m.log
  applied _ _ _ m := List.suffix_refl m.log
  made m _ := List.suffix_refl m.log
  fedBy _ h := h
  writingTo _ h := h
  nested h := (List.suffix_cons _ _).trans h

theorem compositional_grows (registry : Registry) (limit : Nat) :
    Compositional registry limit Grows :=
  (stepwise_log registry).compositional limit

/-! ### The streams -/

/-- A step that keeps the streams of every machine. -/
def KeepsStreams {α : Type} (x : Eval α) : Prop :=
  ∀ m : Machine, m.world.StreamsKept (runOn x m).2.world

/-- The stream that was put in the place of another is taken back. -/
theorem stepwise_streams (happs : ∀ app ∈ registry.applications, app.KeepsStreams) :
    Stepwise registry fun m m' ↦ m.world.StreamsKept m'.world where
  refl m := .refl m.world
  trans h h' := h.trans h'
  note m _ := .refl m.world
  errors m _ := .refl m.world
  applied app happ arguments m := happs app happ arguments m.world
  made _ _ := .of_eq rfl rfl
  fedBy _ h := ⟨id, h.output⟩
  writingTo _ h := ⟨h.input, fun s hs ↦ ⟨s, hs⟩⟩
  nested h := h

/-- **If the applications keep their streams, every line does.** -/
theorem compositional_keepsStreams (limit : Nat)
    (happs : ∀ app ∈ registry.applications, app.KeepsStreams) :
    Compositional registry limit KeepsStreams :=
  (stepwise_streams happs).compositional limit

/-! ### The history -/

end Eval

/-! ### Texts -/

/-- From one world to a later one only texts flow: what a sink took is the bytes of a text, and an
input that was a text still is one. -/
structure World.Flows (w w' : World) : Prop where
  output : ∀ s, w.output = .sink s →
    ∃ s' t, w'.output = .sink s' ∧ s'.bytes = s.bytes ++ Text.encode t
  input : Source.IsText w.input → Source.IsText w'.input

namespace World.Flows

variable {w w' w'' : World}

/-- The input and the output are the same. -/
theorem of_eq (hin : w'.input = w.input) (hout : w'.output = w.output) : w.Flows w' where
  output s hs := ⟨s, [], hout.trans hs, (List.append_nil _).symm⟩
  input h := hin ▸ h

protected theorem refl (w : World) : w.Flows w := .of_eq rfl rfl

protected theorem trans (h : w.Flows w') (h' : w'.Flows w'') : w.Flows w'' where
  output s hs := by
    obtain ⟨s', t, hs', hbytes⟩ := h.output s hs
    obtain ⟨s'', t', hs'', hbytes'⟩ := h'.output s' hs'
    refine ⟨s'', t ++ t', hs'', ?_⟩
    rw [hbytes', hbytes, List.append_assoc, Text.encode_append]
  input := h'.input ∘ h.input

/-- What an application writes is texts. -/
theorem of_wrote {texts : List Text} (h : w.Wrote texts w')
    (hinput : Source.IsText w.input → Source.IsText w'.input) : w.Flows w' where
  output s hs := by
    cases h with
    | sink before after bytes _ =>
      obtain rfl := Output.sink.inj (before.symm.trans hs)
      exact ⟨_, texts.flatten, after, bytes⟩
    | file before _ _ => exact nomatch before.symm.trans hs
  input := hinput

end World.Flows

namespace Eval

/-- A step in which only texts flow. -/
def FlowsText {α : Type} (x : Eval α) : Prop := ∀ m : Machine, m.world.Flows (runOn x m).2.world

theorem stepwise_flows (happs : registry.Confined) :
    Stepwise registry fun m m' ↦ m.world.Flows m'.world where
  refl m := .refl m.world
  trans h h' := h.trans h'
  note m _ := .refl m.world
  errors m _ := .refl m.world
  applied app happ arguments m := by
    obtain ⟨texts, hwrote⟩ := happs.writes app happ arguments m.world
    exact .of_wrote hwrote (happs.leavesText app happ arguments m.world)
  made _ _ := .of_eq rfl rfl
  fedBy _ h := ⟨h.output, id⟩
  writingTo _ h := ⟨fun s hs ↦ ⟨s, [], hs, (List.append_nil _).symm⟩, h.input⟩
  nested h := h

/-- **Only texts flow in a line**, if its applications are confined. -/
theorem compositional_flows (limit : Nat) (happs : registry.Confined) :
    Compositional registry limit FlowsText :=
  (stepwise_flows happs).compositional limit

end Eval

end LineShell
