import LineShell.Proofs.Shell.Policy

/-!
# What redirections and dispatching do

A call whose words are put together opens the files of its redirections, looks its application up
and runs it. Each of the three can fail, and what it leaves then is part of the answer: files that
cannot be opened leave everything as it was, an unknown name leaves the file of `>` made or emptied,
and an application leaves what it did before it failed.

`Eval.openedBy` is the world in which the application is looked up and run, and
`Eval.runOn_redirected` says that the call runs there, between lending its streams and taking them
back. `Eval.world_dispatch` says that the application alone changes that world, and
`Eval.invocations_dispatch` which one the log shows.
-/

namespace LineShell

/-! ### Applications in the log -/

/-- An application as it is run: its name, its arguments, and what becomes of its failure. -/
structure Invocation where
  name : Text
  arguments : List Text
  policy : FailurePolicy
  deriving DecidableEq, Repr

/-- The invocation that an event is. -/
def Event.invocation? : Event → Option Invocation
  | .application name arguments policy => some ⟨name, arguments, policy⟩
  | _ => none

/-- The applications that were run, in the order of the log. -/
def invocationsIn (log : List Note) : List Invocation := log.filterMap fun n ↦ n.event.invocation?

theorem invocationsIn_reverse (log : List Note) :
    invocationsIn log.reverse = (invocationsIn log).reverse := List.filterMap_reverse

namespace Eval

/-! ### Opening the files of a call -/

/-- The location that the target of `<` leads to, if there is a target. -/
def inputOf (ws : Words) (w : World) : Except ShellError (Option Location) :=
  match ws.inputs.head? with
  | none => .ok none
  | some t =>
    match w.files.find (w.env.resolve t) with
    | .ok loc => .ok (some loc)
    | .error e => .error (.path redirectionName (.os t e))

/-- The files in which the target of `>` is made or emptied, and its location, if there is a
target. -/
def outputOf (ws : Words) (w : World) : Except ShellError (Option (Files × Location)) :=
  match ws.outputs.head? with
  | none => .ok none
  | some t =>
    match w.files.create (w.env.resolve t) with
    | .ok created => .ok (some created)
    | .error e => .error (.path redirectionName (.os t e))

/-- The world with the file of `>` made or emptied, and in the place of the output. -/
def writingInto : Option (Files × Location) → World → World
  | none, w => w
  | some (files, loc), w => { w with files, output := .file loc }

/-- The world with the file of `<` in the place of the input. -/
def readingFrom : Option Location → World → World
  | none, w => w
  | some loc, w => { w with input := some (sourceAt w.files loc) }

/-- The world that a call is dispatched in, behind its redirections; the one to read is opened
first. -/
def openedBy (ws : Words) (w : World) : Except ShellError World :=
  match inputOf ws w, outputOf ws w with
  | .ok input, .ok output => .ok (readingFrom input (writingInto output w))
  | .ok _, .error e => .error e
  | .error e, _ => .error e

/-- The machine behind a redirected call: what was lent instead of its streams is taken back. -/
def putBack (ws : Words) (w : World) (m : Machine) : Machine :=
  m.withWorld { m.world with
    input := if ws.inputs.head?.isSome then w.input else m.world.input
    output := if ws.outputs.head?.isSome then w.output else m.world.output }

theorem runOn_inputs (ws : Words) (m : Machine) :
    runOn (ws.inputs.head?.mapM openInput) m = (inputOf ws m.world, m) := by
  rw [inputOf]
  cases ws.inputs.head? with
  | none => rfl
  | some t =>
    have hopen := runOn_openInput t m
    show runOn (openInput t >>= fun loc ↦ pure (some loc)) m = _
    dsimp only
    cases hfind : m.world.files.find (m.world.env.resolve t) <;> rw [hfind] at hopen
    · exact runOn_bind_of_error hopen
    · exact runOn_bind_of_ok hopen

theorem runOn_outputs (ws : Words) (m : Machine) :
    runOn (ws.outputs.head?.mapM openOutput) m =
      ((outputOf ws m.world).map (·.map Prod.snd),
        match outputOf ws m.world with
        | .ok (some (files, _)) => m.withWorld { m.world with files }
        | _ => m) := by
  rw [outputOf]
  cases ws.outputs.head? with
  | none => rfl
  | some t =>
    have hopen := runOn_openOutput t m
    show runOn (openOutput t >>= fun loc ↦ pure (some loc)) m = _
    dsimp only
    cases hcreate : m.world.files.create (m.world.env.resolve t) <;> rw [hcreate] at hopen
    · exact runOn_bind_of_error hopen
    · exact runOn_bind_of_ok hopen

variable {ws : Words} {w w' : World}

theorem isSome_of_inputOf {input : Option Location} (h : inputOf ws w = .ok input) :
    ws.inputs.head?.isSome = input.isSome := by
  rw [inputOf] at h
  split at h
  · next hnone =>
    obtain rfl := Except.ok.inj h
    rw [hnone]
    rfl
  · next t hsome =>
    split at h
    · obtain rfl := Except.ok.inj h
      rw [hsome]
      rfl
    · cases h

/-- What is opened for writing is made for the target of `>`. -/
theorem create_of_outputOf {output : Option (Files × Location)} (h : outputOf ws w = .ok output) :
    match output with
    | none => ws.outputs.head? = none
    | some created => ∃ t, ws.outputs.head? = some t ∧
        w.files.create (w.env.resolve t) = .ok created := by
  rw [outputOf] at h
  split at h
  · next hnone =>
    obtain rfl := Except.ok.inj h
    exact hnone
  · next t hsome =>
    split at h
    · next hcreate =>
      obtain rfl := Except.ok.inj h
      exact ⟨t, hsome, hcreate⟩
    · cases h

theorem exists_of_inputOf_eq_error {e : ShellError} (h : inputOf ws w = .error e) :
    ∃ t f, ws.inputs.head? = some t ∧ e = .path redirectionName (.os t f) := by
  rw [inputOf] at h
  split at h
  · cases h
  next t ht =>
  split at h
  · cases h
  · exact ⟨t, _, ht, (Except.error.inj h).symm⟩

theorem exists_of_outputOf_eq_error {e : ShellError} (h : outputOf ws w = .error e) :
    ∃ t f, ws.outputs.head? = some t ∧ e = .path redirectionName (.os t f) := by
  rw [outputOf] at h
  split at h
  · cases h
  next t ht =>
  split at h
  · cases h
  · exact ⟨t, _, ht, (Except.error.inj h).symm⟩

/-- A file that cannot be opened is that of a target. -/
theorem exists_of_openedBy_eq_error {e : ShellError} (h : openedBy ws w = .error e) :
    ∃ t f, (ws.inputs.head? = some t ∨ ws.outputs.head? = some t) ∧
      e = .path redirectionName (.os t f) := by
  rw [openedBy] at h
  split at h
  · cases h
  · next houtput =>
    obtain ⟨t, f, ht, he⟩ := exists_of_outputOf_eq_error houtput
    exact ⟨t, f, Or.inr ht, (Except.error.inj h).symm.trans he⟩
  · next hinput =>
    obtain ⟨t, f, ht, he⟩ := exists_of_inputOf_eq_error hinput
    exact ⟨t, f, Or.inl ht, (Except.error.inj h).symm.trans he⟩

/-- **What redirections do.** When a file cannot be opened, the call is not dispatched and nothing
is changed. Otherwise it is dispatched in a world of its own. -/
theorem runOn_redirected (ws : Words) (call : Eval Unit) (m : Machine) :
    runOn (redirected ws call) m =
      match openedBy ws m.world with
      | .error e => (.error e, m)
      | .ok w =>
        ((runOn call (m.withWorld w)).1, putBack ws m.world (runOn call (m.withWorld w)).2) := by
  rw [redirected, openedBy]
  have hin := runOn_inputs ws m
  have hout := runOn_outputs ws m
  cases hi : inputOf ws m.world with
  | error e =>
    rw [hi] at hin
    rw [runOn_bind_of_error hin]
  | ok input =>
    rw [hi] at hin
    rw [runOn_bind_of_ok hin]
    cases ho : outputOf ws m.world with
    | error e =>
      rw [ho] at hout
      rw [runOn_bind_of_error hout]
    | ok output =>
      rw [ho] at hout
      have hcreated := create_of_outputOf ho
      rw [runOn_bind_of_ok hout]
      dsimp only
      rw [putBack, isSome_of_inputOf hi]
      cases output with
      | none =>
        rw [show ws.outputs.head? = none from hcreated]
        cases input <;> rfl
      | some created =>
        obtain ⟨t, htarget, -⟩ := hcreated
        rw [htarget]
        cases input <;> rfl

/-- The world behind the redirections has the environment as it was, and unless there is a target
of `>`, the files and the output too. -/
theorem openedBy_eq_ok (h : openedBy ws w = .ok w') :
    w'.env = w.env ∧
      match outputOf ws w with
      | .ok (some (files, loc)) => w'.files = files ∧ w'.output = .file loc
      | _ => w'.files = w.files ∧ w'.output = w.output := by
  rw [openedBy] at h
  split at h
  · next input output _ ho =>
    obtain rfl := Except.ok.inj h
    rw [ho]
    cases output with
    | none => cases input <;> exact ⟨rfl, rfl, rfl⟩
    | some created => cases input <;> exact ⟨rfl, rfl, rfl⟩
  · cases h
  · cases h

/-- Dispatching changes the world only by running an application. -/
theorem world_dispatch (registry : Registry) (words : List Text) (m : Machine) :
    (runOn (dispatch registry words) m).2.world = m.world ∨
      ∃ command arguments app policy, words = command :: arguments ∧
        registry.resolve command = .ok (app, policy) ∧
        (runOn (dispatch registry words) m).2.world = (appliedOn m app arguments).2 := by
  cases words with
  | nil => exact Or.inl rfl
  | cons command arguments =>
    cases hres : registry.resolve command with
    | error e =>
      refine Or.inl ?_
      rw [dispatch, hres, ofResult_error_bind]
      rfl
    | ok found =>
      obtain ⟨app, policy⟩ := found
      refine Or.inr ⟨command, arguments, app, policy, rfl, hres, ?_⟩
      rw [runOn_dispatch_of_resolve hres, world_settled]
      rfl

/-- The application that words are dispatched to in a world, if there is one. -/
def invoked (registry : Registry) (w : World) : List Text → Option Invocation
  | [] => none
  | command :: arguments =>
    match registry.resolve command with
    | .ok (app, policy) => some ⟨app.name,
        Glob.expandArguments w.files w.env.workingDir (app.patternIndex arguments) arguments, policy⟩
    | .error _ => none

/-- What becomes of a failure leaves no trace of an application. -/
theorem invocations_settled (policy : FailurePolicy) (result : Except ShellError Unit)
    (m : Machine) : invocationsIn (runOn (settled policy result) m).2.log = invocationsIn m.log := by
  cases result with
  | ok _ => cases policy <;> rfl
  | error e =>
    cases policy with
    | endLine => rfl
    | report =>
      rw [settled, runOn_report]
      split <;> rfl

/-- Dispatching leaves a trace of the application that it runs. -/
theorem invocations_dispatch (registry : Registry) (words : List Text) (m : Machine) :
    invocationsIn (runOn (dispatch registry words) m).2.log =
      (invoked registry m.world words).toList ++ invocationsIn m.log := by
  cases words with
  | nil => rfl
  | cons command arguments =>
    rw [invoked]
    cases hres : registry.resolve command with
    | error e =>
      rw [dispatch, hres, ofResult_error_bind]
      rfl
    | ok found =>
      obtain ⟨app, policy⟩ := found
      rw [runOn_dispatch_of_resolve hres, invocations_settled]
      rfl

end Eval

end LineShell
