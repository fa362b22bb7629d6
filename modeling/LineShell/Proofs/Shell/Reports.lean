import LineShell.Proofs.Shell.Scheme
import LineShell.Proofs.Stream.Sink

/-!
# Reports

Two constructions of the evaluator pass an error over: a call that reports its errors, and a command
in back-quotes. Both write the error to the error channel, and fail themselves when the channel
refuses it. So a report shows: on a channel that accepts it as a line of its own, on a channel that
refuses it as the failure of the line (`Shell.run_tells`).

The statement compares a run on an accepting channel with a run on a refusing one. They go together
until the first report; from there on the refusing one has failed, and what fails in it fails all
the way out, since every construction that stops a failure reports it, and is refused again.
`Tells` says this of one step, `Audible` of a step wherever it starts, and `Audible` is
compositional.
-/

namespace LineShell

/-! ### What is shown -/

/-- What the error channel shows of an error. -/
def ShellError.shown (e : ShellError) : Bytes := Text.encode (e.message ++ [Text.newline])

theorem ShellError.shown_ne_nil (e : ShellError) : e.shown ≠ [] := by
  rw [shown, Text.encode, List.flatMap_append]
  exact List.append_ne_nil_of_right_ne_nil _ (by decide)

/-- What the error channel shows of errors, one behind the other. -/
def shownAll (es : List ShellError) : Bytes := es.flatMap ShellError.shown

theorem shownAll_eq_nil_iff {es : List ShellError} : shownAll es = [] ↔ es = [] := by
  cases es with
  | nil => exact iff_of_true rfl rfl
  | cons e es => simp [shownAll, e.shown_ne_nil]

@[simp]
theorem shownAll_singleton (e : ShellError) : shownAll [e] = e.shown := List.append_nil _

theorem shownAll_append (es es' : List ShellError) :
    shownAll (es ++ es') = shownAll es ++ shownAll es' := List.flatMap_append

/-- The error that a result is, if it is one. -/
def errorIn {α : Type} : Except ShellError α → List ShellError
  | .ok _ => []
  | .error e => [e]

@[simp]
theorem errorIn_map {α β : Type} (f : α → β) (result : Except ShellError α) :
    errorIn (result.map f) = errorIn result := by
  cases result <;> rfl

theorem reverse_errorIn {α : Type} (result : Except ShellError α) :
    (errorIn result).reverse = errorIn result := by
  cases result <;> rfl

theorem errorIn_eq_nil_iff {result : Except ShellError Unit} :
    errorIn result = [] ↔ result = .ok () := by
  cases result with
  | ok _ => exact iff_of_true rfl rfl
  | error e => exact iff_of_false (List.cons_ne_nil e []) nofun

/-- The error that an event passes over. -/
def Event.failure? : Event → Option ShellError
  | .failure e => some e
  | _ => none

/-- The errors that were passed over, in the order of the log. -/
def passedOver (log : List Note) : List ShellError := log.filterMap fun n ↦ n.event.failure?

theorem passedOver_reverse (log : List Note) :
    passedOver log.reverse = (passedOver log).reverse := List.filterMap_reverse

/-- The machine with another error channel. -/
def Machine.withErrors (m : Machine) (errors : Sink) : Machine := { m with errors }

namespace Eval

variable {α β : Type} {x : Eval α} {m : Machine} {s : Sink} {es : List ShellError}

theorem runOn_report_of_accepts (app : Text) (e : ShellError) (h : m.errors.refuses = false) :
    runOn (report app e) m =
      (.ok (), (m.noted (.failure e)).withErrors (m.errors.append e.shown)) := by
  rw [runOn_report, ← ShellError.shown, Sink.write_of_accepts h]
  rfl

theorem runOn_report_of_refuses (app : Text) (e : ShellError) (h : m.errors.refuses = true) :
    runOn (report app e) m = (.error (.stream app .writeRefused), m.noted (.failure e)) := by
  rw [runOn_report, ← ShellError.shown, Sink.write_of_refuses h e.shown_ne_nil]

/-- On an accepting channel the error of a captured command is shown, and the command gives what it
wrote. -/
theorem runOn_captured_of_accepts {x : Eval Unit} {m' : Machine} {e : ShellError}
    (h : runOn (fedBy none x) (m.withOutput (.sink .fresh)) = (.error e, m'))
    (haccepts : m'.errors.refuses = false) :
    runOn (captured x) m = (.ok (capturedText m'.world.output),
      ((m'.withOutput m.world.output).noted (.failure e)).withErrors
        (m'.errors.append e.shown)) := by
  have hreport := runOn_report_of_accepts "substitution".toList e
    (m := m'.withOutput m.world.output) haccepts
  rw [runOn_captured_of_error h, runOn_bind_of_ok hreport]
  rfl

/-- On a refusing channel a captured command that fails makes the step fail. -/
theorem runOn_captured_of_refuses {x : Eval Unit} {m' : Machine} {e : ShellError}
    (h : runOn (fedBy none x) (m.withOutput (.sink .fresh)) = (.error e, m'))
    (hrefuses : m'.errors.refuses = true) :
    runOn (captured x) m = (.error (.stream "substitution".toList .writeRefused),
      (m'.withOutput m.world.output).noted (.failure e)) := by
  have hreport := runOn_report_of_refuses "substitution".toList e
    (m := m'.withOutput m.world.output) hrefuses
  rw [runOn_captured_of_error h, runOn_bind_of_error hreport]

/-! ### One step -/

/-- From a machine whose error channel accepts everything, the step passes these errors over. -/
structure Tells (x : Eval α) (m : Machine) (es : List ShellError) : Prop where
  /-- The channel shows them, and nothing else. -/
  errors_eq : (runOn x m).2.errors = m.errors.append (shownAll es)
  /-- The log has them, the last one first. -/
  log_eq : passedOver (runOn x m).2.log = es.reverse ++ passedOver m.log
  /-- If there are none, the channel makes no difference. -/
  silent : es = [] → ∀ s, runOn x (m.withErrors s) = ((runOn x m).1, (runOn x m).2.withErrors s)
  /-- If there are any, a channel that refuses them makes the step fail. -/
  refused : es ≠ [] → ∀ s, s.refuses = true →
    ∃ e, (runOn x (m.withErrors s)).1 = .error e ∧ (runOn x (m.withErrors s)).2.errors = s

/-- A way to go on from what a step has come to: it does not look at the error channel, passes
nothing over, and leaves a failure a failure. -/
structure Transparent (g : Except ShellError α × Machine → Except ShellError β × Machine) :
    Prop where
  errors_eq : ∀ r, (g r).2.errors = r.2.errors
  log_eq : ∀ r, passedOver (g r).2.log = passedOver r.2.log
  withErrors_eq : ∀ r s, g (r.1, r.2.withErrors s) = ((g r).1, (g r).2.withErrors s)
  error : ∀ e m, ∃ e', (g (.error e, m)).1 = .error e'

theorem transparent_id : Transparent (id : Except ShellError α × Machine → _) :=
  ⟨fun _ ↦ rfl, fun _ ↦ rfl, fun _ _ ↦ rfl, fun e _ ↦ ⟨e, rfl⟩⟩

/-- A step that does another one on a machine of its own, and goes on in a transparent way, passes
over what that one does. -/
theorem Tells.of_transparent {y : Eval β} {start : Machine}
    {g : Except ShellError α × Machine → Except ShellError β × Machine} (h : Tells x start es)
    (hg : Transparent g) (herrors : start.errors = m.errors)
    (hlog : passedOver start.log = passedOver m.log)
    (hrun : ∀ s, runOn y (m.withErrors s) = g (runOn x (start.withErrors s))) : Tells y m es := by
  have hself : runOn y m = g (runOn x start) := by
    have hstart : start.withErrors m.errors = start := herrors ▸ rfl
    exact (hrun m.errors).trans (congrArg (fun m' ↦ g (runOn x m')) hstart)
  refine ⟨?_, ?_, fun hes s ↦ ?_, fun hes s hs ↦ ?_⟩
  · rw [hself, hg.errors_eq, h.errors_eq, herrors]
  · rw [hself, hg.log_eq, h.log_eq, hlog]
  · rw [hself, hrun, h.silent hes, hg.withErrors_eq]
  · obtain ⟨e, he, hs'⟩ := h.refused hes s hs
    obtain ⟨e', he'⟩ := hg.error e (runOn x (start.withErrors s)).2
    have hfailed : runOn x (start.withErrors s) = (.error e, (runOn x (start.withErrors s)).2) :=
      Prod.ext he rfl
    rw [hrun, hg.errors_eq]
    exact ⟨e', (congrArg (fun r ↦ (g r).1) hfailed).trans he', hs'⟩

/-- What a refusing channel makes fail fails as a part of a larger step. -/
theorem Tells.refused_bind (h : Tells x m es) (hes : es ≠ []) (hs : s.refuses = true)
    (f : α → Eval β) : ∃ e, (runOn (x >>= f) (m.withErrors s)).1 = .error e ∧
      (runOn (x >>= f) (m.withErrors s)).2.errors = s := by
  obtain ⟨e, he, herrors⟩ := h.refused hes s hs
  rcases hrun : runOn x (m.withErrors s) with ⟨result, m'⟩
  rw [hrun] at he herrors
  obtain rfl : result = .error e := he
  rw [runOn_bind_of_error hrun]
  exact ⟨e, rfl, herrors⟩

/-- What a refusing channel makes fail in a captured command fails outside it too, as the channel
refuses the report. -/
theorem Tells.refused_captured {x : Eval Unit}
    (h : Tells (fedBy none x) (m.withOutput (.sink .fresh)) es) (hes : es ≠ [])
    (hs : s.refuses = true) : ∃ e, (runOn (captured x) (m.withErrors s)).1 = .error e ∧
      (runOn (captured x) (m.withErrors s)).2.errors = s := by
  obtain ⟨e, he, herrors⟩ := h.refused hes s hs
  have hrefuses : (runOn (fedBy none x)
      ((m.withOutput (.sink .fresh)).withErrors s)).2.errors.refuses = true := herrors.symm ▸ hs
  rw [runOn_captured_of_refuses (m := m.withErrors s) (Prod.ext he rfl) hrefuses]
  exact ⟨_, rfl, herrors⟩

/-- A step that fails in its first part passes over what that part does. -/
theorem Tells.bind_of_error {f : α → Eval β} {e : ShellError} {m' : Machine} (h : Tells x m es)
    (hrun : runOn x m = (.error e, m')) : Tells (x >>= f) m es := by
  have hbind : runOn (x >>= f) m = (.error e, m') := runOn_bind_of_error hrun
  refine ⟨?_, ?_, fun hes s ↦ ?_, fun hes s hs ↦ h.refused_bind hes hs f⟩
  · rw [hbind, ← h.errors_eq, hrun]
  · rw [hbind, ← h.log_eq, hrun]
  · have hother := h.silent hes s
    rw [hrun] at hother
    rw [hbind, runOn_bind_of_error hother]

/-- A step whose first part succeeds passes over what both parts do. -/
theorem Tells.bind_of_ok {f : α → Eval β} {a : α} {m' : Machine} {es' : List ShellError}
    (h : Tells x m es) (hrun : runOn x m = (.ok a, m')) (h' : Tells (f a) m' es') :
    Tells (x >>= f) m (es ++ es') := by
  have hbind : runOn (x >>= f) m = runOn (f a) m' := runOn_bind_of_ok hrun
  have herrors := h.errors_eq
  have hlog := h.log_eq
  rw [hrun] at herrors hlog
  -- On a channel that the first part left alone, the second starts as on this one.
  have hother : es = [] → ∀ s,
      runOn (x >>= f) (m.withErrors s) = runOn (f a) (m'.withErrors s) := by
    intro hes s
    have hsilent := h.silent hes s
    rw [hrun] at hsilent
    exact runOn_bind_of_ok hsilent
  refine ⟨?_, ?_, fun hes s ↦ ?_, fun hes s hs ↦ ?_⟩
  · rw [hbind, h'.errors_eq, herrors, Sink.append_append, ← shownAll_append]
  · rw [hbind, h'.log_eq, hlog, List.reverse_append, List.append_assoc]
  · obtain ⟨hnil, hnil'⟩ := List.append_eq_nil_iff.1 hes
    rw [hbind, hother hnil, h'.silent hnil']
  · by_cases hnil : es = []
    · rw [hother hnil]
      exact h'.refused (fun hnil' ↦ hes (List.append_eq_nil_iff.2 ⟨hnil, hnil'⟩)) s hs
    · exact h.refused_bind hnil hs f

/-- Wherever it starts, the step passes no error over in silence. -/
def Audible (x : Eval α) : Prop := ∀ m, m.errors.refuses = false → ∃ es, Tells x m es

/-- A step that has nothing to do with the error channel. -/
structure Quiet (x : Eval α) : Prop where
  run_eq : ∀ m s, runOn x (m.withErrors s) = ((runOn x m).1, (runOn x m).2.withErrors s)
  log_eq : ∀ m, passedOver (runOn x m).2.log = passedOver m.log

theorem Quiet.audible (h : Quiet x) : Audible x := by
  intro m _
  refine ⟨[], ⟨?_, h.log_eq m, fun _ ↦ h.run_eq m, fun hne ↦ absurd rfl hne⟩⟩
  -- Putting in the channel that is there changes nothing.
  have hsame := congrArg (fun r ↦ r.2.errors) (h.run_eq m m.errors)
  exact hsame.trans (Sink.append_nil _).symm

theorem quiet_pure (a : α) : Quiet (pure a) := ⟨fun _ _ ↦ rfl, fun _ ↦ rfl⟩

theorem quiet_throw (e : ShellError) : Quiet (throw e : Eval α) := ⟨fun _ _ ↦ rfl, fun _ ↦ rfl⟩

theorem quiet_note {e : Event} (h : e.failure? = none) : Quiet (note e) where
  run_eq _ _ := rfl
  log_eq _ := List.filterMap_cons_none h

theorem quiet_attempt_ofAct (act : Act α) : Quiet (attempt (ofAct act)) :=
  ⟨fun _ _ ↦ rfl, fun _ ↦ rfl⟩

theorem quiet_openInput (target : Text) : Quiet (openInput target) := by
  refine ⟨fun m s ↦ ?_, fun m ↦ ?_⟩
  · rw [runOn_openInput, runOn_openInput]
    rfl
  · rw [runOn_openInput]

theorem quiet_openOutput (target : Text) : Quiet (openOutput target) := by
  refine ⟨fun m s ↦ ?_, fun m ↦ ?_⟩
  · have hworld : (m.withErrors s).world = m.world := rfl
    rw [runOn_openOutput, runOn_openOutput, hworld]
    cases m.world.files.create (m.world.env.resolve target) <;> rfl
  · rw [runOn_openOutput]
    cases m.world.files.create (m.world.env.resolve target) <;> rfl

namespace Audible

/-- A step behind one that passes nothing over starts alike on every channel; behind one that does,
a refusing channel has made the whole fail. -/
protected theorem bind {f : α → Eval β} (hx : Audible x) (hf : ∀ a, Audible (f a)) :
    Audible (x >>= f) := by
  intro m hm
  obtain ⟨es, h⟩ := hx m hm
  rcases hrun : runOn x m with ⟨e | a, m'⟩
  · exact ⟨es, h.bind_of_error hrun⟩
  · have haccepts : m'.errors.refuses = false := by
      have herrors := h.errors_eq
      rw [hrun] at herrors
      rw [herrors]
      exact hm
    obtain ⟨es', h'⟩ := hf a m' haccepts
    exact ⟨es ++ es', h.bind_of_ok hrun h'⟩

/-- A step that looks at the machine, but not at its error channel. -/
protected theorem get_bind {f : Machine → Eval β} (hf : ∀ m s, f (m.withErrors s) = f m)
    (h : ∀ m, Audible (f m)) : Audible (get >>= f) := by
  intro m hm
  obtain ⟨es, ht⟩ := h m m hm
  refine ⟨es, ht.of_transparent transparent_id rfl rfl fun s ↦ ?_⟩
  rw [runOn_bind_of_ok (runOn_get _), hf]
  rfl

protected theorem mapM {f : Text → Eval β} (target? : Option Text) (hf : ∀ t, Quiet (f t)) :
    Audible (target?.mapM f) := by
  cases target? with
  | none => exact (quiet_pure _).audible
  | some target => exact .bind (hf target).audible fun _ ↦ (quiet_pure _).audible

/-- A report shows, on an accepting channel as a line and on a refusing one as a failure. -/
protected theorem report (app : Text) (e : ShellError) : Audible (report app e) := by
  intro m hm
  refine ⟨[e], ⟨?_, ?_, nofun, fun _ s hs ↦ ?_⟩⟩
  · rw [runOn_report_of_accepts app e hm, shownAll_singleton]
    rfl
  · rw [runOn_report_of_accepts app e hm]
    rfl
  · rw [runOn_report_of_refuses app e (m := m.withErrors s) hs]
    exact ⟨_, rfl, rfl⟩

protected theorem fedBy (source : Option Source) (h : Audible x) : Audible (fedBy source x) := by
  intro m hm
  obtain ⟨es, ht⟩ := h (m.withInput source) hm
  have hback : Transparent fun r : Except ShellError α × Machine ↦
      (r.1, r.2.withInput m.world.input) :=
    ⟨fun _ ↦ rfl, fun _ ↦ rfl, fun _ _ ↦ rfl, fun e _ ↦ ⟨e, rfl⟩⟩
  exact ⟨es, ht.of_transparent hback rfl rfl fun _ ↦ rfl⟩

/-- A step into a buffer or a file passes over what the step does, if its failure is not stopped. -/
protected theorem writingTo_bind {x : Eval Unit} (output : Output) (h : Audible x)
    {f : Except ShellError Unit × Output → Eval β} {k : Output → β}
    (hf : ∀ result written, f (result, written) = (fun _ ↦ k written) <$> ofResult result) :
    Audible (writingTo output x >>= f) := by
  intro m hm
  obtain ⟨es, ht⟩ := h (m.withOutput output) hm
  have hback : Transparent fun r : Except ShellError Unit × Machine ↦
      (r.1.map fun _ ↦ k r.2.world.output, r.2.withOutput m.world.output) :=
    ⟨fun _ ↦ rfl, fun _ ↦ rfl, fun _ _ ↦ rfl, fun e _ ↦ ⟨e, rfl⟩⟩
  refine ⟨es, ht.of_transparent hback rfl rfl fun s ↦ ?_⟩
  rw [runOn_bind_of_ok (runOn_writingTo output x _), hf, runOn_map, runOn_ofResult]
  rfl

protected theorem intoBuffer {x : Eval Unit} (h : Audible x) : Audible (intoBuffer x) :=
  .writingTo_bind _ h fun _ _ ↦ (map_eq_pure_bind _ _).symm

/-- **A captured command passes over its own error too**, behind the errors that it passed over. -/
protected theorem captured {x : Eval Unit} (h : Audible x) : Audible (captured x) := by
  intro m hm
  have hfed : Audible (fedBy none x) := .fedBy none h
  obtain ⟨es, ht⟩ := hfed (m.withOutput (.sink .fresh)) hm
  have herrors := ht.errors_eq
  have hlog := ht.log_eq
  have hsilent := ht.silent
  rcases hrun : runOn (fedBy none x) (m.withOutput (.sink .fresh)) with ⟨e | _, m'⟩ <;>
    rw [hrun] at herrors hlog hsilent
  · -- The command fails: its own error is one more that is passed over.
    have haccepts : m'.errors.refuses = false := herrors ▸ hm
    have hcaptured := runOn_captured_of_accepts hrun haccepts
    refine ⟨es ++ [e], ⟨?_, ?_, fun hes ↦ ?_, fun _ s hs ↦ ?_⟩⟩
    · rw [hcaptured, shownAll_append, shownAll_singleton, ← Sink.append_append]
      exact congrArg (Sink.append · e.shown) herrors
    · rw [hcaptured, List.reverse_append]
      exact congrArg (List.cons e) hlog
    · exact absurd hes (List.append_ne_nil_of_right_ne_nil es (List.cons_ne_nil e []))
    · by_cases hes : es = []
      · have hother := hsilent hes s
        rw [runOn_captured_of_refuses (m := m.withErrors s) hother hs]
        exact ⟨_, rfl, rfl⟩
      · exact ht.refused_captured hes hs
  · have hcaptured := runOn_captured_of_ok hrun
    refine ⟨es, ⟨?_, ?_, fun hes s ↦ ?_, fun hes s hs ↦ ht.refused_captured hes hs⟩⟩
    · rw [hcaptured]
      exact herrors
    · rw [hcaptured]
      exact hlog
    · have hother := hsilent hes s
      rw [hcaptured, runOn_captured_of_ok (m := m.withErrors s) hother]
      rfl

/-- A command is entered and left without a word to the error channel, or refused so. -/
protected theorem nested {line : Text → Eval Unit} {c : Text} (limit : Nat) (h : Audible (line c)) :
    Audible (nested limit line c) := by
  intro m hm
  by_cases hle : limit ≤ m.depth
  · obtain ⟨es, ht⟩ := (quiet_throw (α := Unit) (.depth limit)).audible m hm
    refine ⟨es, ht.of_transparent transparent_id rfl rfl fun s ↦ ?_⟩
    rw [runOn_nested]
    exact if_pos hle
  · obtain ⟨es, ht⟩ := h (m.entered c) hm
    have hleft : Transparent fun r : Except ShellError Unit × Machine ↦ (r.1, r.2.left) :=
      ⟨fun _ ↦ rfl, fun _ ↦ rfl, fun _ _ ↦ rfl, fun e _ ↦ ⟨e, rfl⟩⟩
    refine ⟨es, ht.of_transparent hleft rfl rfl fun s ↦ ?_⟩
    rw [runOn_nested]
    exact if_neg hle

/-! ### Calls -/

variable {registry : Registry}

/-- An application does not reach the error channel; its error is passed on, or reported. -/
protected theorem dispatch (words : List Text) : Audible (dispatch registry words) := by
  cases words with
  | nil => exact (quiet_pure ()).audible
  | cons command arguments =>
    rw [dispatch]
    cases registry.resolve command with
    | error e =>
      rw [ofResult_error_bind]
      exact (quiet_throw e).audible
    | ok found =>
      obtain ⟨app, policy⟩ := found
      rw [ofResult_ok_bind]
      refine .get_bind (fun _ _ ↦ rfl) fun m ↦ .bind (quiet_note rfl).audible fun _ ↦ ?_
      refine .bind (quiet_attempt_ofAct _).audible fun result ↦ ?_
      cases result with
      | ok _ => exact (quiet_pure ()).audible
      | error e =>
        cases policy with
        | endLine => exact (quiet_throw e).audible
        | report => exact .report _ e

/-- Files are opened without a word to the error channel. -/
protected theorem redirected {call : Eval Unit} (ws : Words) (h : Audible call) :
    Audible (redirected ws call) := by
  have hin : Audible (ws.inputs.head?.mapM openInput) := .mapM _ quiet_openInput
  have hout : Audible (ws.outputs.head?.mapM openOutput) := .mapM _ quiet_openOutput
  refine .bind hin fun input ↦ .bind hout fun output ↦ .get_bind (fun _ _ ↦ rfl) fun m ↦ ?_
  cases output with
  | none =>
    cases input with
    | none => exact h
    | some loc => exact .fedBy _ h
  | some loc =>
    refine .writingTo_bind (k := fun _ ↦ ()) _ ?_ fun _ _ ↦ (id_map _).symm
    cases input with
    | none => exact h
    | some loc' => exact .fedBy _ h

end Audible

/-- **Every construction of the evaluator is audible if its parts are.** -/
theorem compositional_audible (registry : Registry) (limit : Nat) :
    Compositional registry limit Audible where
  pure a := (quiet_pure a).audible
  throw e := (quiet_throw e).audible
  bind := .bind
  note_line _ := (quiet_note rfl).audible
  note_call _ _ := (quiet_note rfl).audible
  dispatched ws := .redirected ws (.dispatch ws.arguments)
  pipe hl hr := .bind (.intoBuffer hl) fun _ ↦ .fedBy _ hr
  substitute h := .captured (.nested _ h)

end Eval

namespace Shell

open Eval

/-- The shell with another error channel. -/
def withErrors (sh : Shell) (errors : Sink) : Shell := { sh with errors }

variable {sh : Shell} {line : Text} {output : Sink} {e : ShellError}

/-- **Runs on two channels.** On an accepting channel a line shows the errors that it passes over.
On a refusing one it does the same if there are none, and fails if there are any. -/
theorem run_tells (h : sh.errors.refuses = false) (line : Text) (input : Option Source)
    (output : Sink) :
    let ran := sh.run line input output
    ran.shell.errors = sh.errors.append (shownAll (passedOver ran.log)) ∧
    ∀ s : Sink, s.refuses = true →
      let ran' := (sh.withErrors s).run line input output
      (passedOver ran.log = [] → ran'.result = ran.result ∧ passedOver ran'.log = []) ∧
      (passedOver ran.log ≠ [] → ∃ e, ran'.result = .error e) := by
  intro ran
  let step : Eval Unit := Eval.line sh.registry sh.limit (sh.limit - sh.depth) line
  let start : Machine := sh.machine input output
  have hstep : Audible step := (compositional_audible sh.registry sh.limit).line _ line
  obtain ⟨es, ht⟩ := hstep start h
  have hlog : passedOver (runOn step start).2.log.reverse = es := by
    have hnone : passedOver start.log = [] := rfl
    rw [passedOver_reverse, ht.log_eq, hnone, List.append_nil, List.reverse_reverse]
  have hran : passedOver ran.log = es := hlog
  rw [hran]
  refine ⟨ht.errors_eq, fun s hs ↦ ⟨fun hes ↦ ?_, fun hes ↦ ?_⟩⟩
  · show (runOn step (start.withErrors s)).1 = (runOn step start).1 ∧
      passedOver (runOn step (start.withErrors s)).2.log.reverse = []
    rw [ht.silent hes]
    exact ⟨rfl, hlog.trans hes⟩
  · obtain ⟨e, he, -⟩ := ht.refused hes s hs
    exact ⟨e, he⟩

/-! ### Exit codes -/

theorem eval_of_ok (h : (sh.run line none output).result = .ok ()) :
    sh.eval line output =
      (success, (sh.run line none output).shell, (sh.run line none output).output) := by
  rw [eval, h]

theorem eval_of_error (h : (sh.run line none output).result = .error e) :
    sh.eval line output = (failure, (sh.run line none output).shell.showError e,
      (sh.run line none output).output) := by
  rw [eval, h]

/-- A line is evaluated to success exactly when it runs without an error. -/
theorem eval_eq_success_iff :
    (sh.eval line output).1 = success ↔ (sh.run line none output).result = .ok () := by
  rcases hrun : (sh.run line none output).result with e | _
  · rw [eval_of_error hrun]
    exact iff_of_false (show failure ≠ success by decide) nofun
  · rw [eval_of_ok hrun]
    exact iff_of_true rfl rfl

/-- An accepting channel shows the error. -/
theorem showError_of_accepts (h : sh.errors.refuses = false) :
    (sh.showError e).errors = sh.errors.append e.shown := by
  have hwrite : sh.errors.write (Text.encode (e.message ++ [Text.newline])) = _ :=
    Sink.write_of_accepts h e.shown
  rw [showError, complain, hwrite]

/-- **An accepting channel shows the errors that a line passes over**, in the order of the log, and
behind them the one that the line fails with. -/
theorem errors_eval_of_accepts (h : sh.errors.refuses = false) (line : Text) (output : Sink) :
    let ran := sh.run line none output
    (sh.eval line output).2.1.errors =
      sh.errors.append (shownAll (passedOver ran.log ++ errorIn ran.result)) := by
  intro ran
  have hshown : ran.shell.errors = sh.errors.append (shownAll (passedOver ran.log)) :=
    (run_tells h line none output).1
  rcases hresult : ran.result with e | ⟨⟩
  · have haccepts : ran.shell.errors.refuses = false := by
      rw [hshown]
      exact h
    rw [eval_of_error hresult, errorIn, shownAll_append, shownAll_singleton, ← Sink.append_append,
      ← hshown]
    exact showError_of_accepts haccepts
  · rw [eval_of_ok hresult, errorIn, List.append_nil]
    exact hshown

end Shell

end LineShell
