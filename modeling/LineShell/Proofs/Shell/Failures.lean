import LineShell.Proofs.Shell.Dispatch
import LineShell.Proofs.Shell.Splice

/-!
# No failure is lost

A line or a call cannot be read, a marker is doubled, a file is not opened, a name is unknown, an
application fails, a command is nested too deep: this is where **failures** come from. `failuresIn`
lists those of a line in the order in which they occur. It follows the line from machine to machine
and looks at what each of these places returns; what becomes of a failure afterwards is not asked,
and neither the log nor the error channel is looked at.

On an error channel that accepts everything a step accounts for its failures: it reports all of
them, but for the last one if it ends with that itself (`Eval.Accounts`). So a line shows each of
its failures once, and on a channel that refuses everything it succeeds only if there are none
(`Shell.no_failure_is_lost`).
-/

namespace LineShell

namespace Eval

/-! ### Where failures come from -/

/-- The failures in a step and in the one behind it, which begins on the machine that the first one
leaves, unless the first one ends with a failure. -/
def failuresThen {α : Type} (x : Eval α) (first : Machine → List ShellError)
    (later : α → Machine → List ShellError) (m : Machine) : List ShellError :=
  first m ++
    match runOn x m with
    | (.ok a, m') => later a m'
    | (.error _, _) => []

section

variable (registry : Registry) (sub : Text → Eval Text)
variable (failuresIn : Text → Machine → List ShellError)

/-- The failures in commands that are substituted one after the other. -/
def failuresInCommands : List Text → Machine → List ShellError
  | [], _ => []
  | c :: rest, m => failuresThen (sub c) (failuresIn c) (fun _ ↦ failuresInCommands rest) m

/-- Words are dispatched: the name is unknown, or the application that is run fails. -/
def failuresInDispatch : List Text → Machine → List ShellError
  | [], _ => []
  | command :: arguments, m =>
    match registry.resolve command with
    | .ok (app, _) => errorIn (appliedOn m app arguments).1
    | .error e => [e]

/-- The words of a call are put together: a file is not opened, or dispatching fails. -/
def failuresInWords (ws : Words) (m : Machine) : List ShellError :=
  match openedBy ws m.world with
  | .ok w => failuresInDispatch registry ws.arguments (m.withWorld w)
  | .error e => [e]

/-- The failures in a call: it cannot be read, a marker is doubled, or else those in its commands
and then in its words. -/
def failuresInCall (text : Text) (m : Machine) : List ShellError :=
  match Token.read text with
  | .error d => [.unterminated d]
  | .ok ts =>
    match checkMarkers ts with
    | .error e => [e]
    | .ok () =>
      let commands := ts.flatMap Token.commands
      failuresThen (commands.mapM sub) (failuresInCommands sub failuresIn commands)
        (fun texts ↦ failuresInWords registry (splicedWords ts texts)) (m.noted (.call text ts))

/-- The failures in a tree, from left to right. -/
def failuresInTree : Tree → Machine → List ShellError
  | .call text, m => failuresInCall registry sub failuresIn text m
  | .seq left right, m =>
    failuresThen (tree registry sub left) (failuresInTree left) (fun _ ↦ failuresInTree right) m
  | .pipe left right, m =>
    failuresThen (intoBuffer (tree registry sub left))
      (fun m ↦ failuresInTree left (m.withOutput (.sink .fresh)))
      (fun bytes m ↦ failuresInTree right (m.withInput (some (.bytes bytes)))) m

/-- The failures in a line: it cannot be read, or else those in its tree. -/
def failuresInLine (line : Text) (m : Machine) : List ShellError :=
  match Tree.parse line with
  | .error d => [.unterminated d]
  | .ok t => failuresInTree registry sub failuresIn t (m.noted (.line t))

end

/-- The failures in a command that is substituted: it is nested too deep, or else those in it as a
line one level deeper, without input. -/
def failuresInSubstitute (limit : Nat) (failuresIn : Text → Machine → List ShellError) (c : Text)
    (m : Machine) : List ShellError :=
  if limit ≤ m.depth then [.depth limit]
  else failuresIn c (((m.withOutput (.sink .fresh)).withInput none).entered c)

/-- The failures in a command that a line with this many levels left substitutes. -/
def failuresInSubstitution (registry : Registry) (limit : Nat) :
    Nat → Text → Machine → List ShellError
  | 0 => failuresInSubstitute limit fun _ _ ↦ [.depth limit]
  | levels + 1 =>
    failuresInSubstitute limit
      (failuresInLine registry (substitution registry limit levels)
        (failuresInSubstitution registry limit levels))

/-! ### Steps account for their failures -/

variable {α β : Type} {x : Eval α} {failures : Machine → List ShellError} {m : Machine}

/-- These failures have occurred since `m`: they are what was passed over, the last one first in the
log, and the error that there is in the end. The error channel still accepts everything. -/
structure Accounted (m : Machine) (ended : Except ShellError α × Machine)
    (failures : List ShellError) : Prop where
  accepts : ended.2.errors.refuses = false
  log_eq : errorIn ended.1 ++ passedOver ended.2.log = failures.reverse ++ passedOver m.log

/-- Of the machines before and after, only the error channel and what the log passes over count. -/
theorem Accounted.of_eq {n : Machine} {ended : Except ShellError α × Machine}
    {ended' : Except ShellError β × Machine} {es : List ShellError} (h : Accounted m ended es)
    (hstart : passedOver m.log = passedOver n.log) (hresult : errorIn ended'.1 = errorIn ended.1)
    (herrors : ended'.2.errors = ended.2.errors) (hlog : ended'.2.log = ended.2.log) :
    Accounted n ended' es where
  accepts := herrors ▸ h.accepts
  log_eq := by rw [hresult, hlog, h.log_eq, hstart]

/-- On an error channel that accepts everything, the step passes its failures over or ends with
them. -/
def Accounts (x : Eval α) (failures : Machine → List ShellError) : Prop :=
  ∀ m, m.errors.refuses = false → Accounted m (runOn x m) (failures m)

namespace Accounts

protected theorem pure (a : α) : Accounts (pure a) fun _ ↦ [] := fun _ hm ↦ ⟨hm, rfl⟩

protected theorem throw (e : ShellError) : Accounts (throw e : Eval α) fun _ ↦ [e] :=
  fun _ hm ↦ ⟨hm, rfl⟩

protected theorem report (app : Text) (e : ShellError) : Accounts (report app e) fun _ ↦ [e] := by
  intro m hm
  rw [runOn_report_of_accepts app e hm]
  exact ⟨hm, rfl⟩

/-- A step that ends with a failure keeps the one behind it from failing. -/
protected theorem bind {f : α → Eval β} {later : α → Machine → List ShellError}
    (hx : Accounts x failures) (hf : ∀ a, Accounts (f a) (later a)) :
    Accounts (x >>= f) (failuresThen x failures later) := by
  intro m hm
  obtain ⟨haccepts, hlog⟩ := hx m hm
  rw [failuresThen]
  rcases hrun : runOn x m with ⟨e | a, m'⟩ <;> rw [hrun] at haccepts hlog
  · rw [runOn_bind_of_error hrun, List.append_nil]
    exact ⟨haccepts, hlog⟩
  · -- The first step ends with no failure, so all of its own are in the log already.
    obtain ⟨haccepts', hlog'⟩ := hf a m' haccepts
    rw [runOn_bind_of_ok hrun]
    refine ⟨haccepts', ?_⟩
    rw [hlog', List.reverse_append, List.append_assoc]
    exact congrArg ((later a m').reverse ++ ·) hlog

/-- Behind a step, one without failures changes nothing. -/
theorem bind_of_nothing {f : α → Eval β} (hx : Accounts x failures)
    (hf : ∀ a, Accounts (f a) fun _ ↦ []) : Accounts (x >>= f) failures := by
  have hnothing : failuresThen x failures (fun _ _ ↦ []) = failures := by
    funext m
    rw [failuresThen]
    split <;> exact List.append_nil _
  exact hnothing ▸ hx.bind hf

/-- A note of anything but an error is no matter. -/
theorem of_noted {event : Event} (hx : Accounts x failures) (hevent : event.failure? = none)
    (hm : m.errors.refuses = false) :
    Accounted m (runOn x (m.noted event)) (failures (m.noted event)) :=
  (hx (m.noted event) hm).of_eq (List.filterMap_cons_none hevent) rfl rfl rfl

protected theorem fedBy (source : Option Source) (hx : Accounts x failures) :
    Accounts (fedBy source x) fun m ↦ failures (m.withInput source) :=
  fun m hm ↦ (hx (m.withInput source) hm).of_eq rfl rfl rfl rfl

/-- A step into a buffer fails as the step does. -/
protected theorem intoBuffer {x : Eval Unit} (hx : Accounts x failures) :
    Accounts (intoBuffer x) fun m ↦ failures (m.withOutput (.sink .fresh)) := by
  intro m hm
  rw [runOn_intoBuffer]
  exact (hx (m.withOutput (.sink .fresh)) hm).of_eq rfl (errorIn_map _ _) rfl rfl

/-- **A captured command passes over what it would end with.** -/
protected theorem captured {x : Eval Unit} (hx : Accounts x failures) :
    Accounts (captured x) fun m ↦ failures ((m.withOutput (.sink .fresh)).withInput none) := by
  intro m hm
  obtain ⟨haccepts, hlog⟩ := hx.fedBy none (m.withOutput (.sink .fresh)) hm
  rcases hrun : runOn (fedBy none x) (m.withOutput (.sink .fresh)) with ⟨e | ⟨⟩, m'⟩ <;>
    rw [hrun] at haccepts hlog
  · -- The error moves from the result into the log, in front of those passed over before.
    rw [runOn_captured_of_accepts hrun haccepts]
    exact ⟨haccepts, hlog⟩
  · rw [runOn_captured_of_ok hrun]
    exact ⟨haccepts, hlog⟩

/-- A command that is nested too deep is not evaluated, which is a failure. -/
protected theorem nested {line : Text → Eval Unit} {c : Text} (limit : Nat)
    (hline : Accounts (line c) failures) :
    Accounts (nested limit line c) fun m ↦
      if limit ≤ m.depth then [.depth limit] else failures (m.entered c) := by
  intro m hm
  dsimp only
  rw [runOn_nested]
  by_cases hdeep : limit ≤ m.depth
  · rw [if_pos hdeep, if_pos hdeep]
    exact ⟨hm, rfl⟩
  · rw [if_neg hdeep, if_neg hdeep]
    exact (hline (m.entered c) hm).of_eq rfl rfl rfl rfl

protected theorem substitute {line : Text → Eval Unit}
    {failuresIn : Text → Machine → List ShellError} (limit : Nat) {c : Text}
    (hline : Accounts (line c) (failuresIn c)) :
    Accounts (substitute limit line c) (failuresInSubstitute limit failuresIn c) :=
  (hline.nested limit).captured

protected theorem mapM {sub : Text → Eval Text} {failuresIn : Text → Machine → List ShellError}
    (hsub : ∀ c, Accounts (sub c) (failuresIn c)) (commands : List Text) :
    Accounts (commands.mapM sub) (failuresInCommands sub failuresIn commands) := by
  induction commands with
  | nil => exact .pure []
  | cons c rest ih =>
    rw [List.mapM_cons]
    exact (hsub c).bind fun _ ↦ ih.bind_of_nothing fun _ ↦ .pure _

end Accounts

/-! ### Lines account for their failures -/

variable {registry : Registry} {limit : Nat}

/-- With the report mark or without it, a step accounts for the failure of an application. -/
theorem accounts_settled (policy : FailurePolicy) (result : Except ShellError Unit) :
    Accounts (settled policy result) fun _ ↦ errorIn result := by
  match policy, result with
  | .endLine, .ok () => exact .pure ()
  | .endLine, .error e => exact .throw e
  | .report, .ok () => exact .pure ()
  | .report, .error e => exact .report _ e

theorem accounts_dispatch (words : List Text) :
    Accounts (dispatch registry words) (failuresInDispatch registry words) := by
  intro m hm
  rcases words with _ | ⟨command, arguments⟩
  · exact ⟨hm, rfl⟩
  · rcases hresolve : registry.resolve command with e | ⟨app, policy⟩
    · rw [dispatch, failuresInDispatch, hresolve, ofResult_error_bind]
      exact ⟨hm, rfl⟩
    · rw [runOn_dispatch_of_resolve hresolve, failuresInDispatch, hresolve]
      have hsettled := accounts_settled policy (appliedOn m app arguments).1
      exact (hsettled (leftBy m app arguments policy) hm).of_eq rfl rfl rfl rfl

theorem accounts_redirected (ws : Words) :
    Accounts (redirected ws (dispatch registry ws.arguments)) (failuresInWords registry ws) := by
  intro m hm
  rw [runOn_redirected, failuresInWords]
  rcases openedBy ws m.world with e | w
  · exact ⟨hm, rfl⟩
  · exact (accounts_dispatch ws.arguments (m.withWorld w) hm).of_eq rfl rfl rfl rfl

variable {sub : Text → Eval Text} {failuresIn : Text → Machine → List ShellError}

/-- **A call accounts for its failures** if its commands do. -/
theorem accounts_call (hsub : ∀ c, Accounts (sub c) (failuresIn c)) (text : Text) :
    Accounts (call registry sub text) (failuresInCall registry sub failuresIn text) := by
  intro m hm
  rw [call, failuresInCall]
  rcases Token.read text with d | ts
  · exact ⟨hm, rfl⟩
  · dsimp only
    rw [runOn_bind_of_ok (runOn_note _ m)]
    rcases hmarkers : checkMarkers ts with e | ⟨⟩
    · rw [tokens, hmarkers, ofResult_error_bind]
      exact ⟨hm, rfl⟩
    · rw [tokens_eq hmarkers]
      have hcommands := Accounts.mapM hsub (ts.flatMap Token.commands)
      exact (hcommands.bind fun _ ↦ accounts_redirected _).of_noted rfl hm

theorem accounts_tree (hsub : ∀ c, Accounts (sub c) (failuresIn c)) (t : Tree) :
    Accounts (tree registry sub t) (failuresInTree registry sub failuresIn t) := by
  induction t with
  | call text => exact accounts_call hsub text
  | seq left right ihl ihr => exact ihl.bind fun _ ↦ ihr
  | pipe left right ihl ihr => exact ihl.intoBuffer.bind fun _ ↦ ihr.fedBy _

theorem accounts_lineWith (hsub : ∀ c, Accounts (sub c) (failuresIn c)) (text : Text) :
    Accounts (lineWith registry sub text) (failuresInLine registry sub failuresIn text) := by
  intro m hm
  rw [lineWith, failuresInLine]
  rcases Tree.parse text with d | t
  · exact ⟨hm, rfl⟩
  · exact (accounts_tree hsub t).of_noted rfl hm

/-- **A command in back-quotes accounts for its failures**, and reports all of them. -/
theorem accounts_substitution (levels : Nat) (c : Text) :
    Accounts (substitution registry limit levels c)
      (failuresInSubstitution registry limit levels c) := by
  -- The commands of a command have one level less, and account for their failures already.
  induction levels generalizing c with
  | zero => exact .substitute limit (.throw (.depth limit))
  | succ levels ih =>
    refine .substitute limit ?_
    rw [line_eq]
    exact accounts_lineWith ih c

/-- **A line accounts for its failures**, in the order in which they occur. -/
theorem accounts_line (registry : Registry) (limit levels : Nat) (text : Text) :
    Accounts (line registry limit levels text)
      (failuresInLine registry (substitution registry limit levels)
        (failuresInSubstitution registry limit levels) text) := by
  rw [line_eq]
  exact accounts_lineWith (accounts_substitution levels) text

end Eval

namespace Shell

open Eval

/-- The failures in a line, in the order in which they occur. -/
def failuresIn (sh : Shell) (line : Text) (input : Option Source) (output : Sink) :
    List ShellError :=
  failuresInLine sh.registry (substitution sh.registry sh.limit (sh.limit - sh.depth))
    (failuresInSubstitution sh.registry sh.limit (sh.limit - sh.depth)) line
    (sh.machine input output)

/-- **A line passes over its failures, but for the one that it ends with.** -/
theorem failuresIn_eq {sh : Shell} (h : sh.errors.refuses = false) (line : Text)
    (input : Option Source) (output : Sink) :
    let ran := sh.run line input output
    sh.failuresIn line input output = passedOver ran.log ++ errorIn ran.result := by
  intro ran
  let ended := runOn (Eval.line sh.registry sh.limit (sh.limit - sh.depth) line)
    (sh.machine input output)
  have hlog : errorIn ended.1 ++ passedOver ended.2.log =
      (sh.failuresIn line input output).reverse ++ passedOver (sh.machine input output).log :=
    (accounts_line sh.registry sh.limit _ line (sh.machine input output) h).log_eq
  have hnone : passedOver (sh.machine input output).log = [] := rfl
  rw [hnone, List.append_nil] at hlog
  calc sh.failuresIn line input output
    _ = (errorIn ended.1 ++ passedOver ended.2.log).reverse := by rw [hlog, List.reverse_reverse]
    _ = passedOver ended.2.log.reverse ++ (errorIn ended.1).reverse := by
      rw [List.reverse_append, passedOver_reverse]
    _ = passedOver ran.log ++ errorIn ran.result := congrArg _ (reverse_errorIn ended.1)

/-- **No failure is lost.** Evaluated on a channel that refuses everything, a line succeeds exactly
when, evaluated on one that accepts everything, it succeeds and shows nothing. The accepting channel
shows every failure that occurs in the line, in an application or a command in back-quotes, at any
depth, each of them once and in order. It passes over all of them but the one that the line ends
with; on the refusing channel the line ends with a failure if there is a single one. -/
theorem no_failure_is_lost (sh : Shell) (line : Text) (output : Sink) (b b' : Buffer) :
    let accepting := sh.withErrors ⟨b, false⟩
    let refusing := sh.withErrors ⟨b', true⟩
    let ran := accepting.run line none output
    let errors := (accepting.eval line output).2.1.errors
    let failures := accepting.failuresIn line none output
    ((refusing.eval line output).1 = success ↔
      (accepting.eval line output).1 = success ∧ errors = accepting.errors) ∧
    errors = accepting.errors.append (shownAll failures) ∧
    failures = passedOver ran.log ++ errorIn ran.result ∧
    ((refusing.eval line output).1 = success ↔ failures = []) := by
  intro accepting refusing ran errors failures
  have haccepting : accepting.errors.refuses = false := rfl
  have hfailures : failures = passedOver ran.log ++ errorIn ran.result :=
    failuresIn_eq haccepting line none output
  have hshown : errors = accepting.errors.append (shownAll failures) :=
    hfailures ▸ errors_eval_of_accepts haccepting line output
  obtain ⟨hsilent, hloud⟩ := (run_tells haccepting line none output).2 ⟨b', true⟩ rfl
  have hrefusing : (refusing.eval line output).1 = success ↔ failures = [] := by
    rw [eval_eq_success_iff, hfailures]
    by_cases hnone : passedOver ran.log = []
    · have hsame : (refusing.run line none output).result = ran.result := (hsilent hnone).1
      rw [hnone, hsame, List.nil_append, errorIn_eq_nil_iff]
    · -- A report is refused, so the line ends with that.
      obtain ⟨e, he⟩ := hloud hnone
      have herror : (refusing.run line none output).result = .error e := he
      rw [herror]
      exact iff_of_false nofun fun hnil ↦ hnone (List.append_eq_nil_iff.1 hnil).1
  have hquiet : errors = accepting.errors ↔ failures = [] := by
    rw [hshown, Sink.append_eq_self_iff, shownAll_eq_nil_iff]
  have haccepted : failures = [] → (accepting.eval line output).1 = success := by
    intro hnil
    rw [hfailures] at hnil
    exact eval_eq_success_iff.2 (errorIn_eq_nil_iff.1 (List.append_eq_nil_iff.1 hnil).2)
  refine ⟨?_, hshown, hfailures, hrefusing⟩
  rw [hrefusing, hquiet]
  exact ⟨fun hnil ↦ ⟨haccepted hnil, hnil⟩, And.right⟩

/-- A failure that is passed over inside a command, inside a call that passes its own over. -/
example :
    let sh : Shell := { env := { workingDir := [Path.slash] }, files := .empty }
    let line := "_echo `_cat none`".toList
    sh.failuresIn line none .fresh = [.path "cat".toList (.os "none".toList .notFound)] ∧
      (sh.eval line .fresh).1 = success ∧
      ((sh.withErrors ⟨{}, true⟩).eval line .fresh).1 = failure := by
  decide +kernel

end Shell

end LineShell
