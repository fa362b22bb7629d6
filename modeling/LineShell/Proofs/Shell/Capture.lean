import LineShell.Proofs.Shell.Symmetry

/-!
# Substitution is evaluation, captured

A command in back-quotes and a line at top level pass an error over separately: one reports it as
the error of a substitution, the other shows it and gives an exit code. They do the same. Entered
from some machine, a command makes of the environment, the files and the error channel what the
shell would make of them that evaluates the command from there; what is put in its place is what
that shell would have written, without the line end (`Shell.substitution_is_captured_evaluation`).

Two things keep the runs apart. The command runs one level deeper; but a command holds no
back-quote, so it enters nothing and every limit is as good as zero (`Eval.line_eq_of_not_mem`),
where the level is no matter (`symmetry_deeper`). And its notes stand in front of those of the call
around it (`symmetry_behind`).
-/

namespace LineShell

/-! ### Line ends -/

/-- A text is another one without the line end that the other has at its end, if it has one: a line
feed, together with a carriage return in front of it. -/
structure DropsLineEnd (t u : Text) : Prop where
  crlf : ∀ v, t = v ++ ['\r', Text.newline] → u = v
  lf : ∀ v, t = v ++ [Text.newline] → v.getLast? ≠ some '\r' → u = v
  none : t.getLast? ≠ some Text.newline → u = t

theorem dropsLineEnd_withoutLineEnd (t : Text) : DropsLineEnd t (Eval.withoutLineEnd t) := by
  have hend : ∀ v, Eval.withoutLineEnd (v ++ [Text.newline]) = Text.stripReturn v := by
    intro v
    rw [Eval.withoutLineEnd, if_pos List.getLast?_concat, List.dropLast_concat]
  refine ⟨fun v hv ↦ ?_, fun v hv hreturn ↦ ?_, fun h ↦ if_neg h⟩
  · obtain rfl : t = (v ++ ['\r']) ++ [Text.newline] := by rw [hv, List.append_assoc]; rfl
    rw [hend, Text.stripReturn, if_pos List.getLast?_concat, List.dropLast_concat]
  · rw [hv, hend, Text.stripReturn_of_ne hreturn]

/-! ### Commands without commands -/

/-- The machine that a line would start on which nothing feeds and whose output is kept. -/
def Machine.atTop (m : Machine) : Machine :=
  ((m.withInput none).withOutput (.sink .fresh)).unlogged

namespace Eval

variable {registry : Registry} {limit : Nat} {command : Text} {m : Machine}

/-- **A line without a back-quote substitutes nothing**, so it does not matter how deep commands may
nest. -/
theorem line_eq_of_not_mem (h : '`' ∉ command) (limit limit' levels levels' : Nat) :
    line registry limit levels command = line registry limit' levels' command := by
  have hstable : Stable (fun _ ↦ True) fun _ ↦ True :=
    ⟨fun _ _ ↦ trivial, fun _ _ ↦ trivial, fun _ _ _ _ ↦ trivial, fun _ _ ↦ trivial⟩
  have hagree : AgreeOn (fun _ ↦ True) (fun _ ↦ True)
      (lineWith registry (substitution registry limit levels) command)
      (lineWith registry (substitution registry limit' levels') command) :=
    .lineWith hstable (covers_true registry) (fun _ _ _ ↦ trivial) (fun _ _ ↦ trivial)
      (fun _ _ ↦ trivial) fun _ hc ↦ absurd hc.mem h
  rw [line_eq, line_eq]
  exact ext_runOn fun _ ↦ hagree.eq trivial

/-- **Entered from a machine, a command runs as it would at top level**, its notes one level deeper
and behind the note of its entry. -/
theorem runOn_entered (h : '`' ∉ command) (hdepth : m.depth < limit) (levels : Nat) :
    let top := runOn (line registry limit (limit - m.depth) command) m.atTop
    runOn (fedBy none (nested limit (line registry limit levels) command))
        (m.withOutput (.sink .fresh)) =
      (top.1, ((top.2.deeper.behind (⟨m.depth + 1, .substitution command⟩ :: m.log)).left).withInput
        m.world.input) := by
  intro top
  have hline : ∀ levels, line registry limit levels command = line registry 0 0 command :=
    fun levels ↦ line_eq_of_not_mem h limit 0 levels 0
  have hdeeper : Equivariant Machine.deeper (line registry 0 0 command) :=
    (compositional_equivariant registry symmetry_deeper).line 0 command
  have hbehind := (compositional_equivariant registry
    (symmetry_behind 0 (⟨m.depth + 1, .substitution command⟩ :: m.log))).line 0 command
  have hstart : ((m.withOutput (.sink .fresh)).withInput none).entered command =
      (m.atTop.deeper).behind (⟨m.depth + 1, .substitution command⟩ :: m.log) := rfl
  have htop : top = runOn (line registry 0 0 command) m.atTop := by
    rw [← hline (limit - m.depth)]
  have hbelow : ¬ limit ≤ ((m.withOutput (.sink .fresh)).withInput none).depth :=
    Nat.not_le_of_lt hdepth
  rw [runOn_fedBy, runOn_nested, if_neg hbelow, hstart, hline, hbehind, hdeeper, htop]
  rfl

end Eval

namespace Shell

open Eval

/-- The shell as it stands on a machine. -/
def standing (sh : Shell) (m : Machine) : Shell :=
  { sh with env := m.world.env, files := m.world.files, errors := m.errors, depth := m.depth }

/-- An accepting error channel is all that showing an error changes. -/
theorem showError_eq_withErrors {sh : Shell} (h : sh.errors.refuses = false) (e : ShellError) :
    sh.showError e = sh.withErrors (sh.errors.append e.shown) := by
  obtain ⟨errors, hshow⟩ := showError_eq sh e
  have herrors := showError_of_accepts (e := e) h
  rw [hshow] at herrors ⊢
  exact congrArg sh.withErrors herrors

/-- **Substitution is evaluation, captured.** Below the limit and on an error channel that accepts
everything, a command in back-quotes always gives a text. It leaves the shell as evaluating the
command would, the error channel included, and the input and the output of the call around it as
they were. The text is what would have been written by then, decoded, without one line end. -/
theorem substitution_is_captured_evaluation (sh : Shell) (m : Machine) (command : Text)
    (hcommand : '`' ∉ command) (hdepth : m.depth < sh.limit) (haccepts : m.errors.refuses = false) :
    let evaluated := (sh.standing m).eval command .fresh
    ∃ text m',
      runOn (substitution sh.registry sh.limit (sh.limit - m.depth) command) m = (.ok text, m') ∧
      sh.standing m' = evaluated.2.1 ∧
      m'.world.input = m.world.input ∧ m'.world.output = m.world.output ∧
      DropsLineEnd (Utf8.decodeLossy evaluated.2.2.bytes) text := by
  intro evaluated
  obtain ⟨levels, hlevels⟩ := Nat.exists_eq_add_one_of_ne_zero (Nat.sub_ne_zero_of_lt hdepth)
  let top := runOn (line sh.registry sh.limit (sh.limit - m.depth) command) m.atTop
  have hran : (sh.standing m).run command none .fresh = sh.ranOf top := rfl
  have hstill : top.2.errors.refuses = false := by
    have hstart : (sh.standing m).errors.refuses = false := haccepts
    obtain ⟨hshown, -⟩ := run_tells hstart command none .fresh
    exact (congrArg Sink.refuses hshown).trans haccepts
  have htext : DropsLineEnd (Utf8.decodeLossy (sinkOf top.2.world.output).bytes)
      (capturedText top.2.world.output) := by
    have hwritten : written top.2.world.output = (sinkOf top.2.world.output).bytes := by
      cases top.2.world.output <;> rfl
    rw [capturedText, hwritten]
    exact dropsLineEnd_withoutLineEnd _
  have hsubstitution : substitution sh.registry sh.limit (sh.limit - m.depth) command =
      captured (nested sh.limit (line sh.registry sh.limit levels) command) := by
    rw [hlevels]
    rfl
  have hentered : runOn (fedBy none (nested sh.limit (line sh.registry sh.limit levels) command))
      (m.withOutput (.sink .fresh)) = _ := runOn_entered hcommand hdepth levels
  rw [hsubstitution]
  rcases hresult : top.1 with e | ⟨⟩
  · rw [hresult] at hentered
    have hfails : evaluated = (failure, (sh.ranOf top).shell.showError e, (sh.ranOf top).output) :=
      eval_of_error (hran.symm ▸ hresult)
    have hshows := showError_eq_withErrors (show (sh.ranOf top).shell.errors.refuses = false from
      hstill) e
    rw [hfails, hshows]
    exact ⟨_, _, runOn_captured_of_accepts hentered hstill, rfl, rfl, rfl, htext⟩
  · rw [hresult] at hentered
    have hsucceeds : evaluated = (success, (sh.ranOf top).shell, (sh.ranOf top).output) :=
      eval_of_ok (hran.symm ▸ hresult)
    rw [hsucceeds]
    exact ⟨_, _, runOn_captured_of_ok hentered, rfl, rfl, rfl, htext⟩

/-- A command that changes the directory, prints a line with two characters at its end and then
fails: what it did is kept, and its error is shown. -/
theorem substitution_is_captured_evaluation_midway :
    let files := Files.empty.makeDirectory (Path.ofText "/d".toList)
    let sh : Shell := { env := { workingDir := [Path.slash] }, files }
    let m : Machine := sh.machine none .fresh
    let command : Text := "cd d;echo 'a\r';cat none".toList
    let evaluated := sh.eval command .fresh
    '`' ∉ command ∧ m.depth < sh.limit ∧ m.errors.refuses = false ∧
    evaluated.1 = failure ∧ evaluated.2.2.bytes = Text.encode "a\r\n".toList ∧
    ∃ m',
      runOn (substitution sh.registry sh.limit (sh.limit - m.depth) command) m = (.ok ['a'], m') ∧
      sh.standing m' = evaluated.2.1 ∧ m'.world.env.workingDir = Path.ofText "/d".toList := by
  intro files sh m command evaluated
  have hcommand : '`' ∉ command := by decide
  have hdepth : m.depth < sh.limit := by decide
  have hfails : evaluated.1 = failure := by decide +kernel
  have hbytes : evaluated.2.2.bytes = Text.encode "a\r\n".toList := by decide +kernel
  have hdir : evaluated.2.1.env.workingDir = Path.ofText "/d".toList := by decide +kernel
  obtain ⟨text, m', hrun, hstanding, -, -, hdrops⟩ :=
    substitution_is_captured_evaluation sh m command hcommand hdepth rfl
  have hevaluated : (sh.standing m).eval command .fresh = evaluated := rfl
  rw [hevaluated] at hstanding hdrops
  have hdecoded : Utf8.decodeLossy evaluated.2.2.bytes = ['a'] ++ ['\r', Text.newline] := by
    rw [hbytes]
    decide
  obtain rfl : text = ['a'] := hdrops.crlf ['a'] hdecoded
  refine ⟨hcommand, hdepth, rfl, hfails, hbytes, m', hrun, hstanding, ?_⟩
  exact (congrArg (fun after ↦ after.env.workingDir) hstanding).trans hdir

end Shell

end LineShell
