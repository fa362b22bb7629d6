import LineShell.Proofs.Line.Writing
import LineShell.Proofs.Shell.RedirectionOrder
import LineShell.Proofs.Shell.Sequence

/-!
# Plain calls

A call is **plain** if it has no command in back-quotes: its words stand in its text
(`Eval.Plain`). Such a call does what its application does. So two plain calls, or a pipe of two and
a single one, are compared by comparing what their applications make of a world; the evaluator is
done with here.

What a call does is given up to the log (`Eval.endedBy`), since two calls that are spelled
differently differ in their notes. The two forms that matter are a call without redirections
(`Shell.sameEnd_call`) and one with a file to read (`Shell.sameEnd_fed`); a pipe is the second one
with what the first call wrote in the place of the file (`Shell.sameEnd_pipe`).
-/

namespace LineShell

namespace Eval

variable {registry : Registry} {text command : Text} {ws : Words} {app : Application}
variable {policy : FailurePolicy} {raw : List Text} {m m' : Machine}

/-! ### Words that stand in the text -/

/-- The call has no command in back-quotes and no marker too many, and its words are these. -/
def Plain (text : Text) (ws : Words) : Prop :=
  ∃ ts, Token.read text = .ok ts ∧ checkMarkers ts = .ok () ∧ ts.flatMap Token.commands = [] ∧
    splicedWords ts [] = ws

/-- A plain call opens its files and is dispatched. -/
theorem runOn_call_of_plain (h : Plain text ws) (registry : Registry) (sub : Text → Eval Text)
    (m : Machine) :
    ∃ note, runOn (call registry sub text) m =
      runOn (redirected ws (dispatch registry ws.arguments)) (m.noted note) := by
  obtain ⟨ts, hread, hmarkers, hcommands, rfl⟩ := h
  refine ⟨.call text ts, ?_⟩
  have hturn : InTurn sub (m.noted (.call text ts)) (ts.flatMap Token.commands) []
      (m.noted (.call text ts)) := by
    rw [hcommands]
    exact .nil _
  rw [runOn_call hread, runOn_tokens_of_inTurn hmarkers hturn]

/-- Words of literal text. -/
def literals (words : List Text) : List Token := words.map fun word ↦ .word [.literal word]

theorem spliced_literals (words texts : List Text) :
    spliced (placedSlots (literals words)) texts = words.map fun word ↦ (.argument, word) := by
  rw [← slotsOf_eq_placedSlots]
  induction words with
  | nil => rfl
  | cons word rest ih =>
    have hword : splice [.literal word] texts = word := List.append_nil word
    rw [List.map_cons, ← ih]
    exact congrArg (fun shown ↦ (Role.argument, shown) :: _) hword

/-- **Any words are the words of a plain call**, that is of the one in which they are all quoted. -/
theorem plain_render (words : List Text) :
    Plain (Token.render (literals words)) ⟨words, [], []⟩ := by
  refine ⟨literals words, Token.read_render (Token.normalTokens_literal words), ?_, ?_, ?_⟩
  · have hnone : ∀ marker, (literals words).count (.marker marker) = 0 := by
      intro marker
      refine List.count_eq_zero.2 fun hmem ↦ ?_
      obtain ⟨word, -, hword⟩ := List.mem_map.1 hmem
      cases hword
    rw [checkMarkers, hnone, hnone]
    rfl
  · rw [literals, List.flatMap_map]
    exact List.flatMap_eq_nil_iff.2 fun _ _ ↦ rfl
  · rw [splicedWords, spliced_literals]
    simp [Words.ofRoles, wordsWith, List.filter_map, Function.comp_def]

/-! ### What an application leaves -/

/-- What becomes of the result of an application, and what is left of the error channel. -/
def settling (policy : FailurePolicy) (result : Except ShellError Unit) (errors : Sink) :
    Except ShellError Unit × Sink :=
  match policy, result with
  | _, .ok () => (.ok (), errors)
  | .endLine, .error e => (.error e, errors)
  | .report, .error e =>
    match errors.write (e.message ++ [Text.newline]).encode with
    | .ok errors => (.ok (), errors)
    | .error f => (.error (.stream "unsafe".toList f), errors)

/-- How a call ends in which the application made this of the world; nothing is in the log. -/
def endedBy (policy : FailurePolicy) (ran : Except ShellError Unit × World) (m : Machine) :
    Except ShellError Unit × Machine :=
  ((settling policy ran.1 m.errors).1,
    { m.unlogged with world := ran.2, errors := (settling policy ran.1 m.errors).2 })

theorem runOn_settled (policy : FailurePolicy) (result : Except ShellError Unit) (m : Machine) :
    Shell.SameEnd (runOn (settled policy result) m) (endedBy policy (result, m.world) m) := by
  rcases result with e | ⟨⟩
  · cases policy with
    | endLine => exact ⟨rfl, rfl⟩
    | report =>
      rw [settled, runOn_report, endedBy, settling]
      cases m.errors.write (e.message ++ [Text.newline]).encode <;> exact ⟨rfl, rfl⟩
  · cases policy <;> exact ⟨rfl, rfl⟩

theorem sameEnd_dispatch (h : registry.resolve command = .ok (app, policy)) (raw : List Text)
    (m : Machine) :
    Shell.SameEnd (runOn (dispatch registry (command :: raw)) m)
      (endedBy policy (appliedOn m app raw) m) := by
  rw [runOn_dispatch_of_resolve h]
  exact runOn_settled policy _ (leftBy m app raw policy)

/-- The call is plain and calls the application with the arguments `raw`, as they stand in its text,
and has no redirection. -/
def Calls (text : Text) (app : Application) (policy : FailurePolicy) (raw : List Text) : Prop :=
  ∃ command, Plain text ⟨command :: raw, [], []⟩ ∧
    Registry.standard.resolve command = .ok (app, policy)

/-- The call is plain and calls the application so, and has one redirection: it reads the file that
`target` names. -/
def CallsOn (text : Text) (app : Application) (policy : FailurePolicy) (raw : List Text)
    (target : Text) : Prop :=
  ∃ command, Plain text ⟨command :: raw, [target], []⟩ ∧
    Registry.standard.resolve command = .ok (app, policy)

/-- Any application can be called with any arguments. -/
theorem calls_render {command : Text} (h : Registry.standard.resolve command = .ok (app, policy))
    (raw : List Text) : Calls (Token.render (literals (command :: raw))) app policy raw :=
  ⟨command, plain_render _, h⟩

end Eval

namespace Shell

open Eval

variable {sh : Shell} {text left : Text} {app leftApp : Application}
variable {policy leftPolicy : FailurePolicy} {raw leftRaw : List Text} {m : Machine}

/-! ### Ends -/

theorem SameEnd.trans {r r' r'' : Except ShellError Unit × Machine} (h : SameEnd r r')
    (h' : SameEnd r' r'') : SameEnd r r'' := ⟨h.1.trans h'.1, h.2.trans h'.2⟩

theorem SameEnd.symm {r r' : Except ShellError Unit × Machine} (h : SameEnd r r') : SameEnd r' r :=
  ⟨h.1.symm, h.2.symm⟩

/-! ### Calls and pipes -/

/-- **A plain call ends as its application makes it end**, whatever is in the log. -/
theorem sameEnd_runOn_call (h : Calls text app policy raw) (sub : Text → Eval Text) (m : Machine) :
    SameEnd (runOn (call .standard sub text) m) (endedBy policy (appliedOn m app raw) m) := by
  obtain ⟨command, hplain, hresolve⟩ := h
  obtain ⟨note, hcall⟩ := runOn_call_of_plain hplain .standard sub m
  rw [hcall, runOn_redirected]
  exact sameEnd_dispatch hresolve raw (m.noted note)

theorem sameEnd_call (hregistry : sh.registry = .standard) (h : Calls text app policy raw)
    (m : Machine) :
    SameEnd (sh.treeFrom (.call text) m) (endedBy policy (appliedOn m app raw) m) := by
  rw [treeFrom, tree, hregistry]
  exact sameEnd_runOn_call h _ m.unlogged

/-- **A plain call with a file to read** ends as its application makes it end that is fed the file;
the input of the call itself is as it was. -/
theorem sameEnd_fed (hregistry : sh.registry = .standard) {target : Text} {loc : Location}
    (h : CallsOn text app policy raw target)
    (hfile : m.world.files.find (m.world.env.resolve target) = .ok loc) :
    let fed := m.withInput (some (sourceAt m.world.files loc))
    let ended := endedBy policy (appliedOn fed app raw) fed
    SameEnd (sh.treeFrom (.call text) m) (ended.1, ended.2.withInput m.world.input) := by
  intro fed ended
  obtain ⟨command, hplain, hresolve⟩ := h
  obtain ⟨note, hcall⟩ := runOn_call_of_plain hplain .standard
    (substitution .standard sh.limit (sh.limit - m.depth)) m.unlogged
  have hinput : inputOf ⟨command :: raw, [target], []⟩ m.world = .ok (some loc) := by
    rw [inputOf]
    dsimp only [List.head?_cons]
    rw [hfile]
  have hopened : openedBy ⟨command :: raw, [target], []⟩ (m.unlogged.noted note).world =
      .ok fed.world := by
    show openedBy ⟨command :: raw, [target], []⟩ m.world = .ok fed.world
    rw [openedBy, hinput]
    rfl
  rw [treeFrom, tree, hregistry, hcall, runOn_redirected, hopened]
  obtain ⟨hresult, hmachine⟩ :=
    sameEnd_dispatch hresolve raw ((m.unlogged.noted note).withWorld fed.world)
  exact ⟨hresult, congrArg (fun after ↦ after.withInput m.world.input) hmachine⟩

/-- **A pipe of two plain calls** whose left side succeeds ends as the application on the right
makes it end that is fed what the left side wrote. -/
theorem sameEnd_pipe (hregistry : sh.registry = .standard)
    (hleft : Calls left leftApp leftPolicy leftRaw) (hright : Calls text app policy raw)
    {after : World}
    (hran : appliedOn (m.withOutput (.sink .fresh)) leftApp leftRaw = (.ok (), after)) :
    let between := m.withWorld { after with output := m.world.output }
    let fed := between.withInput (some (.bytes (written after.output)))
    let ended := endedBy policy (appliedOn fed app raw) fed
    SameEnd (sh.treeFrom (.pipe (.call left) (.call text)) m)
      (ended.1, ended.2.withInput after.input) := by
  intro between fed ended
  let sub := substitution .standard sh.limit (sh.limit - m.depth)
  have hfirst := sameEnd_runOn_call hleft sub (m.unlogged.withOutput (.sink .fresh))
  have hran' : appliedOn (m.unlogged.withOutput (.sink .fresh)) leftApp leftRaw = (.ok (), after) :=
    hran
  rw [hran'] at hfirst
  rcases hrun : runOn (call .standard sub left) (m.unlogged.withOutput (.sink .fresh))
    with ⟨result, m'⟩
  rw [hrun] at hfirst
  obtain ⟨hresult, hmachine⟩ := hfirst
  obtain rfl : result = .ok () := hresult.trans (by cases leftPolicy <;> rfl)
  -- But for its log this machine is the one that the pipe began on, with another world.
  obtain ⟨log, rfl⟩ : ∃ log, m' = { m.withWorld after with log } := by
    refine ⟨m'.log, ?_⟩
    have hunlogged : m'.unlogged = (m.withWorld after).unlogged :=
      hmachine.trans (by cases leftPolicy <;> rfl)
    exact congrArg (fun other ↦ { other with log := m'.log }) hunlogged
  rw [treeFrom, hregistry, tree, runOn_pipe_of_ok (by rw [tree]; exact hrun), runOn_fedBy, tree]
  obtain ⟨hresult', hmachine'⟩ := sameEnd_runOn_call hright sub { fed with log }
  exact ⟨hresult', congrArg (fun other ↦ other.withInput after.input) hmachine'⟩

end Shell

end LineShell
