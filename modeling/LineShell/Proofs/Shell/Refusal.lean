import LineShell.Proofs.Shell.Reports

/-!
# A line is refused before it begins, or never

The error of a quote that is not closed can be raised where a line is cut into its tree, where a
call of it is cut into its tokens, and at both places again in a command in back-quotes. A line
whose tree was found is not refused any more (`Shell.refused_before_it_begins`): its calls are
balanced, so they can be read, and a command in back-quotes fails, if at all, with the failure of
the error channel, since any other error is reported there and passed over
(`Eval.eq_stream_of_captured`).
-/

namespace LineShell

/-- An error that a line has only once it has begun: any but that of a quote that is not closed. -/
def ShellError.Late (e : ShellError) : Prop := ∀ d, e ≠ .unterminated d

/-- No application of the shell complains about a quote of the line. -/
theorem Registry.standard_raises_late (app : Application) (happ : app ∈ standard.applications)
    (arguments : List Text) : (app.run arguments).Raises ShellError.Late := by
  rintro w e he d rfl
  have hname := standard_raises app happ arguments w _ he
  cases hname

namespace Eval

variable {registry : Registry} {limit : Nat} {m : Machine}

/-- If no application complains about a quote, only reading does. -/
theorem covers_late
    (h : ∀ app ∈ registry.applications, ∀ arguments, (app.run arguments).Raises ShellError.Late) :
    Covers registry ShellError.Late :=
  ⟨fun _ _ ↦ nofun, fun _ _ ↦ nofun, fun _ _ ↦ nofun, fun _ _ _ ↦ nofun, h⟩

/-- **A captured command fails only when the error channel refuses its error.** -/
theorem eq_stream_of_captured {x : Eval Unit} {e : ShellError}
    (h : (runOn (captured x) m).1 = .error e) :
    e = .stream "substitution".toList .writeRefused := by
  rcases hrun : runOn (fedBy none x) (m.withOutput (.sink .fresh)) with ⟨e' | _, m'⟩
  · cases hrefuses : m'.errors.refuses with
    | false =>
      rw [runOn_captured_of_accepts hrun hrefuses] at h
      cases h
    | true =>
      rw [runOn_captured_of_refuses hrun hrefuses] at h
      exact (Except.error.inj h).symm
  · rw [runOn_captured_of_ok hrun] at h
    cases h

/-- So a substitution fails late, whatever its command is. -/
theorem keeps_substitution_late (levels : Nat) (c : Text) :
    Keeps (fun _ ↦ True) ShellError.Late (substitution registry limit levels c) := by
  have hcaptured : ∀ x : Eval Unit, Keeps (fun _ ↦ True) ShellError.Late (captured x) := by
    intro x
    refine ⟨fun _ ↦ rfl, fun _ ↦ trivial, fun _ he d ↦ ?_⟩
    rw [eq_stream_of_captured he]
    exact nofun
  cases levels with
  | zero => exact hcaptured _
  | succ levels => exact hcaptured _

/-- **A line that can be cut into its tree fails late.** -/
theorem late_of_line (hE : Covers registry ShellError.Late) {text : Text} {t : Tree}
    (ht : Tree.parse text = .ok t) (levels : Nat) {e : ShellError}
    (he : (runOn (line registry limit levels text) m).1 = .error e) : e.Late := by
  have hstable : Stable (fun _ ↦ True) ShellError.Late :=
    ⟨fun _ _ ↦ trivial, fun _ _ ↦ trivial, fun _ _ _ _ ↦ trivial, fun _ _ ↦ trivial⟩
  have hline : Keeps (fun _ ↦ True) ShellError.Late (line registry limit levels text) := by
    rw [line_eq]
    refine .lineWith hstable hE (fun _ _ _ ↦ trivial) (fun _ _ ↦ trivial) (fun d hd ↦ ?_)
      fun c _ ↦ keeps_substitution_late levels c
    exact nomatch ht.symm.trans hd
  exact hline.fails trivial he

/-- A line that cannot be cut into its tree does nothing. -/
theorem runOn_line_of_parse_error {text : Text} {d : Delimiter} (h : Tree.parse text = .error d)
    (levels : Nat) :
    runOn (line registry limit levels text) m = (.error (.unterminated d), m) := by
  rw [line_eq, lineWith, h]
  rfl

/-- Below the limit, a command that cannot be cut into its tree is entered, reported and left. -/
theorem runOn_substitution_of_parse_error {c : Text} {d : Delimiter} (h : Tree.parse c = .error d)
    (hdepth : m.depth < limit) (haccepts : m.errors.refuses = false) (levels : Nat) :
    runOn (substitution registry limit (levels + 1) c) m =
      (.ok [], ((m.entered c).left.noted (.failure (.unterminated d))).withErrors
        (m.errors.append (ShellError.unterminated d).shown)) := by
  let start : Machine := m.withOutput (.sink .fresh)
  have hbelow : ¬ limit ≤ (start.withInput none).depth := Nat.not_le.2 hdepth
  have hrun : runOn (fedBy none (nested limit (line registry limit levels) c)) start =
      (.error (.unterminated d), (start.entered c).left) := by
    rw [runOn_fedBy, runOn_nested, if_neg hbelow, runOn_line_of_parse_error h]
    rfl
  exact runOn_captured_of_accepts hrun haccepts

end Eval

namespace Shell

open Eval

/-- **A line is refused before it begins, or never.** It has the error of an unclosed quote exactly
when it cannot be cut into its tree. Then nothing has been done: the shell, the input and the output
are as before, and the log is empty. A line that has begun has no such error; in a command in
back-quotes it is shown on the error channel, and the command gives nothing. -/
theorem refused_before_it_begins (sh : Shell) (hsh : sh.registry = .standard) (line : Text)
    (input : Option Source) (output : Sink) :
    let ran := sh.run line input output
    ((∃ d, ran.result = .error (.unterminated d)) ↔ ∃ d, Tree.parse line = .error d) ∧
    (∀ d, Tree.parse line = .error d → ran = ⟨.error (.unterminated d), sh, input, output, []⟩) ∧
    (ran.log ≠ [] → ∀ d, ran.result ≠ .error (.unterminated d)) ∧
    ∀ c d m, Tree.parse c = .error d → m.depth = sh.depth → sh.depth < sh.limit →
      m.errors.refuses = false →
      runOn (substitution sh.registry sh.limit (sh.limit - sh.depth) c) m =
        (.ok [], ((m.entered c).left.noted (.failure (.unterminated d))).withErrors
          (m.errors.append (ShellError.unterminated d).shown)) := by
  intro ran
  have hE : Covers sh.registry ShellError.Late := by
    rw [hsh]
    exact covers_late Registry.standard_raises_late
  have hrefused : ∀ d, Tree.parse line = .error d →
      ran = ⟨.error (.unterminated d), sh, input, output, []⟩ := by
    intro d hd
    show sh.run line input output = _
    rw [run_eq, runOn_line_of_parse_error hd]
    rfl
  have hparse : ∀ d, ran.result = .error (.unterminated d) → ∃ d, Tree.parse line = .error d := by
    intro d hd
    rcases ht : Tree.parse line with d' | t
    · exact ⟨d', rfl⟩
    · exact absurd rfl (late_of_line hE ht _ hd d)
  refine ⟨⟨fun ⟨d, hd⟩ ↦ hparse d hd, fun ⟨d, hd⟩ ↦ ⟨d, ?_⟩⟩, hrefused, fun hlog d hd ↦ ?_,
    fun c d m hc hm hdepth haccepts ↦ ?_⟩
  · rw [hrefused d hd]
  · obtain ⟨d', hd'⟩ := hparse d hd
    exact hlog (congrArg Ran.log (hrefused d' hd'))
  · obtain ⟨levels, hlevels⟩ := Nat.exists_eq_add_one_of_ne_zero (Nat.sub_ne_zero_of_lt hdepth)
    rw [hlevels]
    exact runOn_substitution_of_parse_error hc (hm ▸ hdepth) haccepts levels

/-- A quote that is not closed behind a call that could run, and one inside back-quotes. -/
theorem refused_before_it_begins_open :
    let sh : Shell := { env := { workingDir := [Path.slash] }, files := .empty }
    let refused := "pwd;echo 'a".toList
    let begun := "echo `echo 'a`".toList
    sh.registry = .standard ∧ Tree.parse refused = .error .single ∧
    sh.run refused none .fresh = ⟨.error (.unterminated .single), sh, none, .fresh, []⟩ ∧
    (sh.run begun none .fresh).log ≠ [] ∧
    ∀ d, (sh.run begun none .fresh).result ≠ .error (.unterminated d) := by
  intro sh refused begun
  have hparse : Tree.parse refused = .error .single := by decide
  obtain ⟨-, hrefused, -, -⟩ := refused_before_it_begins sh rfl refused none .fresh
  obtain ⟨-, -, hbegun, -⟩ := refused_before_it_begins sh rfl begun none .fresh
  have hlog : (sh.run begun none .fresh).log ≠ [] := by decide +kernel
  exact ⟨rfl, hparse, hrefused _ hparse, hlog, hbegun hlog⟩

end Shell

end LineShell
