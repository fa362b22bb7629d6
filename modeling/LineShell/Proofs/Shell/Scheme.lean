import LineShell.Proofs.Shell.Flat

/-!
# Compositional properties of steps

A property of steps that every construction of the evaluator passes on holds of every line. This is
the induction over the levels of substitution, the tree of a line, the tokens of a call and the
parts of a word, made once for all properties: `Compositional` lists the constructions, and
`Compositional.line` draws the conclusion. A property that has more to say about a whole call than
about its parts is listed in `CallWise`, where the call is one construction.

The property is of the step as a whole, so it may compare two runs of it, from two machines. That is
what it has over `Keeps`, which looks at one machine at a time but can also restrict the errors.
Opening the files of a call and dispatching its words is one construction here: which file was
opened decides what the application sees, and a property may depend on it.

Many properties hold of every single part already: of a note, of a report, of an application that is
run. `Elementary` lists the parts, and a property that they have is compositional
(`Elementary.compositional`).
-/

namespace LineShell.Eval

/-! ### Properties of calls -/

/-- The call stands in the line, or in a command in back-quotes of the line. -/
inductive CallOf (text : Text) : Text → Prop where
  | here {line : Text} {t : Tree} (ht : Tree.parse line = .ok t) (htext : text ∈ t.calls) :
      CallOf text line
  | inside {line c : Text} (hc : CommandOf c line) (htext : CallOf text c) : CallOf text line

/-- The calls of a line are made of its characters. -/
theorem CallOf.mem_of_mem {text line : Text} (h : CallOf text line) {ch : Char} (hch : ch ∈ text) :
    ch ∈ line := by
  induction h with
  | here ht htext =>
    rw [← (Tree.parse_eq_ok_iff_render.1 ht).2]
    exact Tree.mem_render_of_mem_calls htext hch
  | inside hc _ ih => exact hc.mem_of_mem ih

/-- A property of steps that every construction around the calls passes on; of the calls it holds
where `S` does, if it holds of their commands. -/
structure CallWise (registry : Registry) (limit : Nat) (S : (Text → Eval Text) → Text → Prop)
    (C : ∀ {α : Type}, Eval α → Prop) : Prop where
  throw : ∀ {α : Type} (e : ShellError), C (throw e : Eval α)
  bind : ∀ {α β : Type} {x : Eval α} {f : α → Eval β}, C x → (∀ a, C (f a)) → C (x >>= f)
  /-- A line is put into the log. -/
  note_line : ∀ t, C (note (.line t))
  call : ∀ {sub : Text → Eval Text} {text : Text}, S sub text →
    (∀ c, CommandIn c text → C (sub c)) → C (call registry sub text)
  /-- What the left side of a pipe writes feeds the right side. -/
  pipe : ∀ {left right : Eval Unit}, C left → C right →
    C (do
      let bytes ← intoBuffer left
      fedBy (some (.bytes bytes)) right)
  substitute : ∀ {line : Text → Eval Unit} {c : Text}, C (line c) → C (substitute limit line c)

namespace CallWise

variable {registry : Registry} {limit : Nat} {S : (Text → Eval Text) → Text → Prop}
variable {C : ∀ {α : Type}, Eval α → Prop} (hC : CallWise registry limit S C)
variable {sub : Text → Eval Text}

include hC

theorem tree {t : Tree} (hS : ∀ text ∈ t.calls, S sub text)
    (hsub : ∀ text ∈ t.calls, ∀ c, CommandIn c text → C (sub c)) : C (tree registry sub t) := by
  induction t with
  | call text =>
    have htext : text ∈ (Tree.call text).calls := List.mem_singleton.2 rfl
    exact hC.call (hS text htext) (hsub text htext)
  | seq left right ihl ihr =>
    have hleft := ihl (fun text h ↦ hS text (List.mem_append_left _ h))
      fun text h ↦ hsub text (List.mem_append_left _ h)
    have hright := ihr (fun text h ↦ hS text (List.mem_append_right _ h))
      fun text h ↦ hsub text (List.mem_append_right _ h)
    exact hC.bind hleft fun _ ↦ hright
  | pipe left right ihl ihr =>
    have hleft := ihl (fun text h ↦ hS text (List.mem_append_left _ h))
      fun text h ↦ hsub text (List.mem_append_left _ h)
    have hright := ihr (fun text h ↦ hS text (List.mem_append_right _ h))
      fun text h ↦ hsub text (List.mem_append_right _ h)
    exact hC.pipe hleft hright

theorem lineWith {text : Text}
    (hS : ∀ t, Tree.parse text = .ok t → ∀ call ∈ t.calls, S sub call)
    (hsub : ∀ c, CommandOf c text → C (sub c)) : C (lineWith registry sub text) := by
  rw [Eval.lineWith]
  cases ht : Tree.parse text with
  | error d => exact hC.throw _
  | ok t =>
    refine hC.bind (hC.note_line t) fun _ ↦ hC.tree (hS t ht) fun call hcall c hc ↦ ?_
    exact hsub c ⟨t, ht, call, hcall, hc⟩

theorem substitution (levels : Nat) (c : Text)
    (hS : ∀ levels text, CallOf text c → S (substitution registry limit levels) text) :
    C (substitution registry limit levels c) := by
  induction levels generalizing c with
  | zero => exact hC.substitute (hC.throw _)
  | succ levels ih =>
    refine hC.substitute ?_
    rw [line_eq]
    refine hC.lineWith (fun t ht text htext ↦ hS levels text (.here ht htext)) fun c' hc' ↦ ?_
    exact ih c' fun levels text htext ↦ hS levels text (.inside hc' htext)

/-- **Every line has a property that its calls have.** -/
theorem line (levels : Nat) (text : Text)
    (hS : ∀ levels call, CallOf call text → S (Eval.substitution registry limit levels) call) :
    C (line registry limit levels text) := by
  rw [line_eq]
  refine hC.lineWith (fun t ht call hcall ↦ hS levels call (.here ht hcall)) fun c hc ↦ ?_
  exact hC.substitution levels c fun levels call hcall ↦ hS levels call (.inside hc hcall)

end CallWise

/-! ### Properties of all constructions -/

/-- A property of steps that every construction of the evaluator passes on. -/
structure Compositional (registry : Registry) (limit : Nat) (C : ∀ {α : Type}, Eval α → Prop) :
    Prop where
  pure : ∀ {α : Type} (a : α), C (pure a)
  throw : ∀ {α : Type} (e : ShellError), C (throw e : Eval α)
  bind : ∀ {α β : Type} {x : Eval α} {f : α → Eval β}, C x → (∀ a, C (f a)) → C (x >>= f)
  /-- A line or a call is put into the log. -/
  note_line : ∀ t, C (note (.line t))
  note_call : ∀ text ts, C (note (.call text ts))
  dispatched : ∀ ws : Words, C (redirected ws (dispatch registry ws.arguments))
  /-- What the left side of a pipe writes feeds the right side. -/
  pipe : ∀ {left right : Eval Unit}, C left → C right →
    C (do
      let bytes ← intoBuffer left
      fedBy (some (.bytes bytes)) right)
  substitute : ∀ {line : Text → Eval Unit} {c : Text}, C (line c) → C (substitute limit line c)

namespace Compositional

variable {registry : Registry} {limit : Nat} {C : ∀ {α : Type}, Eval α → Prop}
variable (hC : Compositional registry limit C) {sub : Text → Eval Text}

include hC

theorem ofResult {α : Type} (result : Except ShellError α) : C (ofResult result) := by
  cases result with
  | ok a => exact hC.pure a
  | error e => exact hC.throw e

/-- A word has the property if its commands have. -/
theorem wordOf (hsub : ∀ c, C (sub c)) (parts : List Part) : C (wordOf sub parts) := by
  induction parts with
  | nil => exact hC.pure []
  | cons part rest ih =>
    cases part with
    | literal t => exact hC.bind ih fun _ ↦ hC.pure _
    | command c => exact hC.bind (hsub c) fun _ ↦ hC.bind ih fun _ ↦ hC.pure _

theorem wordsOf (hsub : ∀ c, C (sub c)) (slots : List Slot) : C (wordsOf sub slots) := by
  induction slots with
  | nil => exact hC.pure _
  | cons slot rest ih =>
    exact hC.bind (hC.wordOf hsub slot.parts) fun _ ↦ hC.bind ih fun _ ↦ hC.pure _

theorem call (hsub : ∀ c, C (sub c)) (text : Text) : C (call registry sub text) := by
  rw [Eval.call]
  cases Token.read text with
  | error d => exact hC.throw _
  | ok ts =>
    refine hC.bind (hC.note_call text ts) fun _ ↦ hC.bind (hC.ofResult _) fun _ ↦ ?_
    exact hC.bind (hC.wordsOf hsub _) hC.dispatched

/-- No more is asked of a call than of other steps. -/
theorem callWise : CallWise registry limit (fun sub _ ↦ ∀ c, C (sub c)) C where
  throw := hC.throw
  bind := hC.bind
  note_line := hC.note_line
  call hsub _ := hC.call hsub _
  pipe := hC.pipe
  substitute := hC.substitute

theorem tree (hsub : ∀ c, C (sub c)) (t : Tree) : C (tree registry sub t) :=
  hC.callWise.tree (fun _ _ ↦ hsub) fun _ _ c _ ↦ hsub c

theorem substitution (levels : Nat) (c : Text) : C (substitution registry limit levels c) := by
  induction levels generalizing c with
  | zero => exact hC.substitute (hC.throw _)
  | succ levels ih =>
    refine hC.substitute ?_
    rw [line_eq]
    exact hC.callWise.lineWith (fun _ _ _ _ ↦ ih) fun c _ ↦ ih c

/-- **Every line has a compositional property.** -/
theorem line (levels : Nat) (text : Text) : C (line registry limit levels text) :=
  hC.callWise.line levels text fun levels _ _ ↦ hC.substitution levels

end Compositional

/-! ### Properties of single parts -/

/-- A property of steps that each single part of the evaluator has or passes on. Of a compositional
property less is asked: it may hold of a captured command, which passes a failure over, without
holding of what is inside. -/
structure Elementary (registry : Registry) (limit : Nat) (C : ∀ {α : Type}, Eval α → Prop) :
    Prop where
  pure : ∀ {α : Type} (a : α), C (pure a)
  throw : ∀ {α : Type} (e : ShellError), C (throw e : Eval α)
  bind : ∀ {α β : Type} {x : Eval α} {f : α → Eval β}, C x → (∀ a, C (f a)) → C (x >>= f)
  /-- Of the machine only the world is looked at. -/
  get : ∀ {α : Type} {f : Machine → Eval α}, (∀ m m', m.world = m'.world → f m = f m') →
    (∀ m, C (f m)) → C (get >>= f)
  note : ∀ e, C (note e)
  report : ∀ app e, C (report app e)
  applied : ∀ app ∈ registry.applications, ∀ arguments, C (attempt (ofAct (app.run arguments)))
  openOutput : ∀ target, C (openOutput target)
  fedBy : ∀ {x : Eval Unit} (source : Option Source), C x → C (fedBy source x)
  writingTo : ∀ {x : Eval Unit} (output : Output), C x → C (writingTo output x)
  nested : ∀ {line : Text → Eval Unit} {c : Text}, C (line c) → C (nested limit line c)

namespace Elementary

variable {registry : Registry} {limit : Nat} {C : ∀ {α : Type}, Eval α → Prop}
variable (hC : Elementary registry limit C)

include hC

theorem ofResult {α : Type} (result : Except ShellError α) : C (ofResult result) := by
  cases result with
  | ok a => exact hC.pure a
  | error e => exact hC.throw e

theorem dispatch (words : List Text) : C (dispatch registry words) := by
  cases words with
  | nil => exact hC.pure ()
  | cons command arguments =>
    rw [Eval.dispatch]
    cases hres : registry.resolve command with
    | error e =>
      rw [ofResult_error_bind]
      exact hC.throw e
    | ok found =>
      obtain ⟨app, policy⟩ := found
      have happ := Registry.mem_of_resolve_eq_ok hres
      rw [ofResult_ok_bind]
      refine hC.get (fun m m' hworld ↦ by rw [hworld]) fun m ↦ hC.bind (hC.note _) fun _ ↦
        hC.bind (hC.applied app happ _) fun result ↦ ?_
      cases result with
      | ok _ => exact hC.pure ()
      | error e =>
        cases policy with
        | endLine => exact hC.throw e
        | report => exact hC.report _ e

theorem openInput (target : Text) : C (openInput target) := by
  refine hC.get (fun m m' hworld ↦ by rw [hworld]) fun m ↦ ?_
  dsimp only
  split
  · exact hC.pure _
  · exact hC.throw _

theorem mapM {f : Text → Eval Location} (hf : ∀ t, C (f t)) (target? : Option Text) :
    C (target?.mapM f) := by
  cases target? with
  | none => exact hC.pure _
  | some target => exact hC.bind (hf target) fun _ ↦ hC.pure _

theorem redirected {call : Eval Unit} (ws : Words) (hcall : C call) : C (redirected ws call) := by
  refine hC.bind (hC.mapM hC.openInput _) fun input ↦ hC.bind (hC.mapM hC.openOutput _) fun output ↦
    hC.get (fun m m' hworld ↦ by rw [hworld]) fun m ↦ ?_
  cases output with
  | none =>
    cases input with
    | none => exact hcall
    | some loc => exact hC.fedBy _ hcall
  | some loc =>
    refine hC.bind (hC.writingTo _ ?_) fun _ ↦ hC.ofResult _
    cases input with
    | none => exact hcall
    | some loc' => exact hC.fedBy _ hcall

theorem captured {x : Eval Unit} (hx : C x) : C (captured x) := by
  refine hC.bind (hC.writingTo _ (hC.fedBy none hx)) fun ended ↦ ?_
  obtain ⟨result, output⟩ := ended
  cases result with
  | ok _ => exact hC.pure _
  | error e => exact hC.bind (hC.report _ e) fun _ ↦ hC.pure _

/-- **What the single parts pass on, every construction passes on.** -/
theorem compositional : Compositional registry limit C where
  pure := hC.pure
  throw := hC.throw
  bind := hC.bind
  note_line _ := hC.note _
  note_call _ _ := hC.note _
  dispatched ws := hC.redirected ws (hC.dispatch ws.arguments)
  pipe hl hr :=
    hC.bind (hC.bind (hC.writingTo _ hl) fun _ ↦ hC.bind (hC.ofResult _) fun _ ↦ hC.pure _)
      fun _ ↦ hC.fedBy _ hr
  substitute h := hC.captured (hC.nested h)

end Elementary

end LineShell.Eval
