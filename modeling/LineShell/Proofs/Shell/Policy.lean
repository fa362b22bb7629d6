import LineShell.Proofs.Application.Registry
import LineShell.Proofs.Shell.Reports

/-!
# The failure policy

A command word with the report mark in front of it calls the same application as the word without
it, with the same arguments and in the same world. The two calls part only when the application has
failed: one passes the error on, the other writes it to the error channel
(`Eval.reporting_changes_the_policy_only`).

That the two words name the same application is a fact about lower case, because the mark is taken
off the lower-case word (`readCommandWord_reportMark_cons`).
-/

namespace LineShell

/-! ### Dispatching -/

namespace Eval

variable {registry : Registry} {command name : Text} {app : Application} {policy : FailurePolicy}

/-- The arguments that an application is called with on a machine, the patterns expanded. -/
def expandedOn (m : Machine) (app : Application) (arguments : List Text) : List Text :=
  Glob.expandArguments m.world.files m.world.env.workingDir (app.patternIndex arguments) arguments

/-- What a called application makes of the world. -/
def appliedOn (m : Machine) (app : Application) (arguments : List Text) :
    Except ShellError Unit × World :=
  (app.run (expandedOn m app arguments)).run.run m.world

/-- The machine that a called application leaves, before anything becomes of its failure. -/
def leftBy (m : Machine) (app : Application) (arguments : List Text) (policy : FailurePolicy) :
    Machine :=
  (m.noted (.application app.name (expandedOn m app arguments) policy)).withWorld
    (appliedOn m app arguments).2

theorem runOn_dispatch_of_unknown (hword : readCommandWord command = (policy, name))
    (hnone : registry.find? name = none) (arguments : List Text) (m : Machine) :
    runOn (dispatch registry (command :: arguments)) m =
      (.error (.unknownApplication name), m) := by
  rw [dispatch, Registry.resolve_of_find?_eq_none hword hnone, ofResult_error_bind]
  rfl

/-- What becomes of the result of a called application. -/
def settled : FailurePolicy → Except ShellError Unit → Eval Unit
  | _, .ok () => pure ()
  | .endLine, .error e => throw e
  | .report, .error e => report "unsafe".toList e

/-- **What dispatching does.** The application is called in the world as it is, and what becomes of
its failure depends on the command word. -/
theorem runOn_dispatch_of_resolve (h : registry.resolve command = .ok (app, policy))
    (arguments : List Text) (m : Machine) :
    runOn (dispatch registry (command :: arguments)) m =
      runOn (settled policy (appliedOn m app arguments).1) (leftBy m app arguments policy) := by
  rw [dispatch, h, ofResult_ok_bind, runOn_bind_of_ok (runOn_get m),
    runOn_bind_of_ok (runOn_note _ m), runOn_bind_of_ok (runOn_attempt _ _), runOn_ofAct]
  show runOn (match policy, (appliedOn m app arguments).1 with
    | _, .ok () => pure ()
    | .endLine, .error e => throw e
    | .report, .error e => report "unsafe".toList e) (leftBy m app arguments policy) = _
  rcases (appliedOn m app arguments).1 with e | ⟨⟩ <;> cases policy <;> rfl

theorem runOn_dispatch (hword : readCommandWord command = (policy, name))
    (happ : registry.find? name = some app) (arguments : List Text) (m : Machine) :
    runOn (dispatch registry (command :: arguments)) m =
      runOn (settled policy (appliedOn m app arguments).1) (leftBy m app arguments policy) :=
  runOn_dispatch_of_resolve (Registry.resolve_of_find? hword happ) arguments m

/-- What becomes of a failure is no change of the world. -/
theorem world_settled (policy : FailurePolicy) (result : Except ShellError Unit) (m : Machine) :
    (runOn (settled policy result) m).2.world = m.world := by
  cases result with
  | ok _ => cases policy <;> rfl
  | error e =>
    cases policy with
    | endLine => rfl
    | report =>
      rw [settled, runOn_report]
      split <;> rfl

/-- **A report mark changes what becomes of a failure, and nothing else.** On a machine whose error
channel accepts everything, a call is dispatched with and without the mark in front of its command
word. The two leave the same world: environment, files, input and output. A name that is unknown to
one is unknown to the other, and nothing has been done. If the plain call succeeds, so does the
other, and neither writes to the error channel. If the application fails, the plain call fails with
its error and writes nothing to the error channel; the other succeeds and writes the error there, as
a line of its own. -/
theorem reporting_changes_the_policy_only (registry : Registry) (command : Text)
    (arguments : List Text) (m : Machine) (hcommand : command.lower.head? ≠ some reportMark)
    (haccepts : m.errors.refuses = false) :
    let plain := runOn (dispatch registry (command :: arguments)) m
    let reporting := runOn (dispatch registry ((reportMark :: command) :: arguments)) m
    reporting.2.world = plain.2.world ∧
    plain.2.errors = m.errors ∧
    (registry.find? command.lower = none →
      plain = (.error (.unknownApplication command.lower), m) ∧ reporting = plain) ∧
    (plain.1 = .ok () → reporting.1 = .ok () ∧ reporting.2.errors = m.errors) ∧
    ∀ app e, registry.find? command.lower = some app → plain.1 = .error e →
      reporting.1 = .ok () ∧ reporting.2.errors = m.errors.append e.shown := by
  intro plain reporting
  have hplain := readCommandWord_of_head?_ne hcommand
  have hreporting := readCommandWord_reportMark_cons command
  cases hfind : registry.find? command.lower with
  | none =>
    have h : plain = (.error (.unknownApplication command.lower), m) :=
      runOn_dispatch_of_unknown hplain hfind arguments m
    have h' : reporting = (.error (.unknownApplication command.lower), m) :=
      runOn_dispatch_of_unknown hreporting hfind arguments m
    rw [h, h']
    exact ⟨rfl, rfl, fun _ ↦ ⟨rfl, rfl⟩, nofun, nofun⟩
  | some app =>
    have h : plain = _ := runOn_dispatch hplain hfind arguments m
    have h' : reporting = _ := runOn_dispatch hreporting hfind arguments m
    cases hresult : (appliedOn m app arguments).1 with
    | ok _ =>
      rw [hresult] at h h'
      rw [h, h']
      exact ⟨rfl, rfl, nofun, fun _ ↦ ⟨rfl, rfl⟩, nofun⟩
    | error e =>
      have hreport := runOn_report_of_accepts "unsafe".toList e
        (m := leftBy m app arguments .report) haccepts
      rw [hresult] at h h'
      rw [h, h'.trans hreport]
      refine ⟨rfl, rfl, nofun, nofun, fun _ e' _ he ↦ ?_⟩
      obtain rfl : e = e' := Except.error.inj he
      exact ⟨rfl, rfl⟩

/-- A file that is shown in front of one that is missing: the call fails with output written. -/
theorem reporting_changes_the_policy_only_midway :
    let files := Files.empty.writeFile (Path.ofText "/a".toList) [0x61, 0x0A]
    let m : Machine := ⟨⟨{ workingDir := [Path.slash] }, files, none, .sink .fresh⟩, .fresh, 0, []⟩
    let command : Text := "CAT".toList
    let arguments : List Text := ["a".toList, "none".toList]
    let e : ShellError := .path "cat".toList (.os "none".toList .notFound)
    let plain := runOn (dispatch .standard (command :: arguments)) m
    let reporting := runOn (dispatch .standard ((reportMark :: command) :: arguments)) m
    command.lower.head? ≠ some reportMark ∧ m.errors.refuses = false ∧
    plain.1 = .error e ∧ written plain.2.world.output = [0x61, 0x0A] ∧
    reporting.2.world = plain.2.world ∧
    reporting.1 = .ok () ∧ reporting.2.errors = m.errors.append e.shown := by
  intro files m command arguments e plain reporting
  have hcommand : command.lower.head? ≠ some reportMark := by decide
  have hfound : (Registry.standard.find? command.lower).isSome := by decide +kernel
  have hplain : plain.1 = .error e := by decide +kernel
  obtain ⟨app, happ⟩ := Option.isSome_iff_exists.1 hfound
  obtain ⟨hworld, -, -, -, hfailed⟩ :=
    reporting_changes_the_policy_only .standard command arguments m hcommand rfl
  have hwritten : written plain.2.world.output = [0x61, 0x0A] := by decide +kernel
  exact ⟨hcommand, rfl, hplain, hwritten, hworld, hfailed app e happ hplain⟩

end Eval

end LineShell
