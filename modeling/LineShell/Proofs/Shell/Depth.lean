import LineShell.Proofs.Shell.Congruence
import LineShell.Proofs.Shell.Session

/-!
# Commands nest one deep

The limit of substitution bounds how deep commands in back-quotes may nest, but a command holds no
back-quote (`CommandOf.not_mem`) and a line without one has no commands (`CommandOf.mem`): the depth
of a shell is zero between lines and at most one inside a line. So every limit but zero is as good
as any other.

The property that evaluation keeps is `Shallow bound depth E`: the machine is at `depth`, its log
was written no deeper than `bound`, and the errors passed over are errors of `E`. Entering a command
goes from depth zero to depth one, leaving it goes back, by a failure too (`agreeOn_substitute`); at
depth one nothing is entered, so there the substitutions of two evaluations need not agree at all
(`agreeOn_line_of_not_mem`).
-/

namespace LineShell

namespace Eval

/-- The machine is at the given depth, its log was written no deeper than the bound, and the errors
that were passed over are errors of `E`. -/
structure Shallow (bound depth : Nat) (E : ShellError → Prop) (m : Machine) : Prop where
  depth_eq : m.depth = depth
  depth_le : ∀ n ∈ m.log, n.depth ≤ bound
  failure : ∀ n ∈ m.log, ∀ e, n.event = .failure e → E e

variable {bound depth : Nat} {E : ShellError → Prop} {m : Machine}

/-- A note other than that of an error of no `E` is allowed down to the bound. -/
theorem Shallow.noted (h : Shallow bound depth E m) (hbound : depth ≤ bound) {event : Event}
    (hevent : ∀ e, event = .failure e → E e) : Shallow bound depth E (m.noted event) where
  depth_eq := h.depth_eq
  depth_le n hn := by
    rcases List.mem_cons.1 hn with rfl | hn
    · exact h.depth_eq ▸ hbound
    · exact h.depth_le n hn
  failure n hn := by
    rcases List.mem_cons.1 hn with rfl | hn
    · exact hevent
    · exact h.failure n hn

theorem Shallow.atDepth (h : Shallow bound depth E m) (depth' : Nat) :
    Shallow bound depth' E (m.atDepth depth') :=
  ⟨rfl, h.depth_le, h.failure⟩

theorem stable_shallow (hbound : depth ≤ bound) : Stable (Shallow bound depth E) E where
  world _ h := ⟨h.depth_eq, h.depth_le, h.failure⟩
  errors _ h := ⟨h.depth_eq, h.depth_le, h.failure⟩
  application _ _ _ h := h.noted hbound fun _ heq ↦ nomatch heq
  failure he h := h.noted hbound fun _ heq ↦ Event.failure.inj heq ▸ he

/-! ### Lines -/

variable {registry : Registry} (hE : Covers registry E) (hopen : ∀ d, E (.unterminated d))

include hE

section Lines

include hopen

/-- Lines are evaluated alike if their commands are, at any depth down to the bound. -/
theorem agreeOn_lineWith {sub sub' : Text → Eval Text} {text : Text} (hbound : depth ≤ bound)
    (hsub : ∀ c, CommandOf c text → AgreeOn (Shallow bound depth E) E (sub c) (sub' c)) :
    AgreeOn (Shallow bound depth E) E (lineWith registry sub text) (lineWith registry sub' text) :=
  .lineWith (stable_shallow hbound) hE
    (fun _ _ h ↦ h.noted hbound fun _ heq ↦ nomatch heq)
    (fun _ h ↦ h.noted hbound fun _ heq ↦ nomatch heq) (fun d _ ↦ hopen d) hsub

/-- **A line without a back-quote substitutes nothing**, so no limit and no level matters. -/
theorem agreeOn_line_of_not_mem {text : Text} (hbound : depth ≤ bound) (htext : '`' ∉ text)
    (limit limit' levels levels' : Nat) :
    AgreeOn (Shallow bound depth E) E (line registry limit levels text)
      (line registry limit' levels' text) := by
  have hnone : ∀ sub sub' : Text → Eval Text, AgreeOn (Shallow bound depth E) E
      (lineWith registry sub text) (lineWith registry sub' text) :=
    fun _ _ ↦ agreeOn_lineWith hE hopen hbound fun _ hc ↦ absurd hc.mem htext
  -- The levels that are left only decide how commands are substituted.
  cases levels <;> cases levels' <;> exact hnone _ _

end Lines

/-- Entering a command at depth zero leads to depth one, and leaving it back. -/
theorem agreeOn_substitute {limit limit' : Nat} {line line' : Text → Eval Unit} {c : Text}
    (hlimit : limit = 0 ∨ limit' = 0 → limit = limit' ∧ E (.depth limit))
    (h : AgreeOn (Shallow 1 1 E) E (line c) (line' c)) :
    AgreeOn (Shallow 1 0 E) E (substitute limit line c) (substitute limit' line' c) := by
  refine .substitute (stable_shallow (Nat.zero_le 1)) hE (fun hm hany ↦ ?_) (fun hm ↦ ?_)
    (fun hm ↦ ?_) h
  · rw [hm.depth_eq, Nat.le_zero, Nat.le_zero] at hany
    exact hlimit hany
  · rw [Machine.entered, hm.depth_eq]
    exact (hm.atDepth 1).noted (Nat.le_refl 1) fun _ heq ↦ nomatch heq
  · rw [Machine.left, hm.depth_eq]
    exact hm.atDepth 0

include hopen

/-- **All limits but zero are alike.** -/
theorem agreeOn_line {limit limit' : Nat} (hlimit : 0 < limit) (hlimit' : 0 < limit')
    (text : Text) :
    AgreeOn (Shallow 1 0 E) E (line registry limit limit text)
      (line registry limit' limit' text) := by
  obtain ⟨levels, rfl⟩ := Nat.exists_eq_add_of_le' hlimit
  obtain ⟨levels', rfl⟩ := Nat.exists_eq_add_of_le' hlimit'
  refine agreeOn_lineWith hE hopen (Nat.zero_le 1) fun c hc ↦
    agreeOn_substitute hE (fun hzero ↦ by omega) ?_
  exact agreeOn_line_of_not_mem hE hopen (Nat.le_refl 1) hc.not_mem _ _ _ _

/-- Under every limit a line goes no deeper than one and comes back. -/
theorem keeps_line (hdepth : ∀ limit, E (.depth limit)) (limit : Nat) (text : Text) :
    Keeps (Shallow 1 0 E) E (line registry limit limit text) := by
  cases limit with
  | zero =>
    refine agreeOn_lineWith hE hopen (Nat.zero_le 1) fun c hc ↦
      agreeOn_substitute hE (fun _ ↦ ⟨rfl, hdepth 0⟩) (.throw (hdepth 0))
  | succ levels => exact agreeOn_line hE hopen levels.succ_pos levels.succ_pos text

end Eval

namespace Shell

open Eval

/-- The shell with another limit of substitution. -/
def withLimit (sh : Shell) (limit : Nat) : Shell := { sh with limit }

theorem withLimit_eq_self {sh : Shell} {limit : Nat} (h : sh.limit = limit) :
    sh.withLimit limit = sh := by
  subst h
  rfl

/-- An error other than that of commands nested too deep. -/
def WithinLimit (e : ShellError) : Prop := ∀ limit, e ≠ .depth limit

variable {sh : Shell} {m n : Nat} {E : ShellError → Prop}

theorem shallow_machine (hdepth : sh.depth = 0) (input : Option Source) (output : Sink) :
    Shallow 1 0 E (sh.machine input output) where
  depth_eq := hdepth
  depth_le _ h := nomatch h
  failure _ h := nomatch h

/-- If no application raises the error of the limit itself, only entering a command can. -/
theorem covers_withinLimit {registry : Registry}
    (h : ∀ app ∈ registry.applications, ∀ arguments, (app.run arguments).Raises WithinLimit) :
    Covers registry WithinLimit :=
  ⟨fun _ _ ↦ nofun, fun _ _ ↦ nofun, fun _ _ ↦ nofun, fun _ _ _ ↦ nofun, h⟩

/-- The applications of the shell do not raise it. -/
theorem standard_raises_withinLimit (app : Application)
    (happ : app ∈ Registry.standard.applications) (arguments : List Text) :
    (app.run arguments).Raises WithinLimit := by
  rintro w e he limit rfl
  have hname := Registry.standard_raises app happ arguments w _ he
  cases hname

/-! ### One request -/

/-- A line with this result and this log went no deeper than one, and its errors are errors of `E`,
those that it passed over included. -/
structure Restrained (E : ShellError → Prop) (result : Except ShellError Unit) (log : List Note) :
    Prop where
  depth_le : ∀ note ∈ log, note.depth ≤ 1
  result : ∀ e, result = .error e → E e
  failure : ∀ note ∈ log, ∀ e, note.event = .failure e → E e

/-- Started at depth zero, every line of the shell goes no deeper than one and comes back, and its
errors are errors of `E`. -/
def KeepsLines (sh : Shell) (E : ShellError → Prop) : Prop :=
  ∀ line, Keeps (Shallow 1 0 E) E (Eval.line sh.registry sh.limit sh.limit line)

/-- Under every limit lines come back to depth zero. -/
theorem keepsLines_true (sh : Shell) : sh.KeepsLines fun _ ↦ True :=
  keeps_line (covers_true sh.registry) (fun _ ↦ trivial) (fun _ ↦ trivial) sh.limit

/-- Under every limit but zero lines do not raise its error. -/
theorem keepsLines_withinLimit (hm : 0 < m)
    (happs : ∀ app ∈ sh.registry.applications, ∀ arguments,
      (app.run arguments).Raises WithinLimit) : (sh.withLimit m).KeepsLines WithinLimit :=
  agreeOn_line (covers_withinLimit happs) (fun _ ↦ nofun) hm hm

/-- A line started at depth zero ends there. -/
theorem depth_run (hdepth : sh.depth = 0) (line : Text) (input : Option Source) (output : Sink) :
    (sh.run line input output).shell.depth = 0 := by
  rw [run_eq, hdepth, Nat.sub_zero]
  exact ((sh.keepsLines_true line).keeps (shallow_machine hdepth input output)).depth_eq

theorem run_restrained (hdepth : sh.depth = 0) (hlines : sh.KeepsLines E) (line : Text)
    (input : Option Source) (output : Sink) :
    Restrained E (sh.run line input output).result (sh.run line input output).log := by
  rw [run_eq, hdepth, Nat.sub_zero]
  have hstart : Shallow 1 0 E (sh.machine input output) := shallow_machine hdepth input output
  have hend := (hlines line).keeps hstart
  refine ⟨fun note hnote ↦ ?_, fun e he ↦ (hlines line).fails hstart he, fun note hnote ↦ ?_⟩
  · exact hend.depth_le note (List.mem_reverse.1 hnote)
  · exact hend.failure note (List.mem_reverse.1 hnote)

theorem run_withLimit_eq (hdepth : sh.depth = 0) (limit : Nat) (line : Text)
    (input : Option Source) (output : Sink) :
    (sh.withLimit limit).run line input output =
      (sh.withLimit limit).ranOf
        (runOn (Eval.line sh.registry limit limit line) (sh.machine input output)) := by
  rw [run_eq, show (sh.withLimit limit).depth = 0 from hdepth, Nat.sub_zero]
  rfl

theorem run_withLimit (hdepth : sh.depth = 0) (hm : 0 < m) (hn : 0 < n) (line : Text)
    (input : Option Source) (output : Sink) :
    (sh.withLimit m).run line input output =
      { (sh.withLimit n).run line input output with
        shell := ((sh.withLimit n).run line input output).shell.withLimit m } := by
  have hline := agreeOn_line (covers_true sh.registry) (fun _ ↦ trivial) hm hn line
  rw [run_withLimit_eq hdepth, run_withLimit_eq hdepth, hline.eq (shallow_machine hdepth _ _)]
  rfl

theorem showError_withLimit (sh : Shell) (limit : Nat) (e : ShellError) :
    (sh.withLimit limit).showError e = (sh.showError e).withLimit limit := by
  simp only [showError, complain, withLimit]
  split <;> rfl

theorem eval_withLimit (hdepth : sh.depth = 0) (hm : 0 < m) (hn : 0 < n) (line : Text)
    (output : Sink) :
    (sh.withLimit m).eval line output =
      (((sh.withLimit n).eval line output).1, ((sh.withLimit n).eval line output).2.1.withLimit m,
        ((sh.withLimit n).eval line output).2.2) := by
  simp only [eval, run_withLimit hdepth hm hn]
  cases ((sh.withLimit n).run line none output).result with
  | ok _ => rfl
  | error e => simp only [showError_withLimit]

theorem next_withLimit (hdepth : sh.depth = 0) (hm : 0 < m) (hn : 0 < n) (request : Request) :
    (sh.withLimit m).next request = ((sh.withLimit n).next request).withLimit m := by
  cases request with
  | run line input output => simp only [next, run_withLimit hdepth hm hn]
  | eval line output => simp only [next, eval_withLimit hdepth hm hn]
  | change env files => rfl

theorem answer?_withLimit (hdepth : sh.depth = 0) (hm : 0 < m) (hn : 0 < n) (request : Request) :
    (sh.withLimit m).answer? request = (sh.withLimit n).answer? request := by
  cases request with
  | run line input output =>
    simp only [answer?, run_withLimit hdepth hm hn]
    rfl
  | eval line output =>
    simp only [answer?, run_withLimit hdepth hm hn, eval_withLimit hdepth hm hn]
    rfl
  | change env files => rfl

theorem answer?_restrained (hdepth : sh.depth = 0) (hlines : sh.KeepsLines E) {request : Request}
    {a : Answer} (h : sh.answer? request = some a) : Restrained E a.result a.log := by
  cases request with
  | run line input output =>
    obtain rfl := Option.some.inj h
    exact run_restrained hdepth hlines line input output
  | eval line output =>
    obtain rfl := Option.some.inj h
    exact run_restrained hdepth hlines line none output
  | change env files => cases h

/-! ### Sessions -/

/-- A request that finds the shell at depth zero leaves it there. -/
theorem depth_next (hdepth : sh.depth = 0) (request : Request) : (sh.next request).depth = 0 := by
  cases request with
  | run line input output => exact depth_run hdepth line input output
  | eval line output =>
    obtain ⟨errors, h⟩ := eval_shell_eq sh line output
    rw [next, h]
    exact depth_run hdepth line none output
  | change env files => exact hdepth

theorem depth_after (hdepth : sh.depth = 0) (requests : List Request) :
    (sh.after requests).depth = 0 :=
  after_preserves (P := fun sh ↦ sh.depth = 0) (fun _ request _ h ↦ depth_next h request) hdepth

/-- Every answered line of a session is restrained, if the lines of the shell are. -/
theorem answers_restrained (hdepth : sh.depth = 0) (hlines : sh.KeepsLines E)
    {requests : List Request} {a : Answer} (ha : a ∈ sh.answers requests) :
    Restrained E a.result a.log := by
  induction requests generalizing sh with
  | nil => cases ha
  | cons request rest ih =>
    rcases List.mem_append.1 ha with ha | ha
    · exact answer?_restrained hdepth hlines (Option.mem_toList.1 ha)
    · obtain ⟨hregistry, hlimit⟩ := registry_next sh request
      have hnext : (sh.next request).KeepsLines E := by
        rw [KeepsLines, hregistry, hlimit]
        exact hlines
      exact ih (depth_next hdepth request) hnext ha

theorem answers_withLimit (hdepth : sh.depth = 0) (hm : 0 < m) (hn : 0 < n)
    (requests : List Request) :
    (sh.withLimit m).answers requests = (sh.withLimit n).answers requests := by
  induction requests generalizing sh with
  | nil => rfl
  | cons request rest ih =>
    have hlimit : ((sh.withLimit n).next request).limit = n := (registry_next _ request).2
    have hshell : (sh.withLimit n).depth = 0 := hdepth
    have hrest := ih (depth_next hshell request)
    rw [withLimit_eq_self hlimit] at hrest
    rw [answers, answers, answer?_withLimit hdepth hm hn, next_withLimit hdepth hm hn, hrest]

/-- **The limit of substitution never matters once it is at least one.** In every session the shell
is at depth zero between lines and never deeper than one inside a line; any two limits but zero give
the same answers; and under them the error of the limit is neither the result of a line nor passed
over inside one, unless an application raises it itself, which those of the shell do not. -/
theorem limit_never_matters (sh : Shell) (hdepth : sh.depth = 0) (requests : List Request) :
    (sh.after requests).depth = 0 ∧
    (∀ a ∈ sh.answers requests, ∀ note ∈ a.log, note.depth ≤ 1) ∧
    (∀ m n, 1 ≤ m → 1 ≤ n →
      (sh.withLimit m).answers requests = (sh.withLimit n).answers requests) ∧
    ((∀ app ∈ sh.registry.applications, ∀ arguments, (app.run arguments).Raises WithinLimit) →
      ∀ m, 1 ≤ m → ∀ a ∈ (sh.withLimit m).answers requests,
        (∀ e, a.result = .error e → WithinLimit e) ∧
        ∀ note ∈ a.log, ∀ e, note.event = .failure e → WithinLimit e) ∧
    ∀ app ∈ Registry.standard.applications, ∀ arguments,
      (app.run arguments).Raises WithinLimit := by
  refine ⟨depth_after hdepth requests, fun a ha ↦ ?_,
    fun m n hm hn ↦ answers_withLimit hdepth hm hn requests, fun happs m hm a ha ↦ ?_,
    standard_raises_withinLimit⟩
  · exact (answers_restrained hdepth sh.keepsLines_true ha).depth_le
  · have hshell : (sh.withLimit m).depth = 0 := hdepth
    have h := answers_restrained hshell (keepsLines_withinLimit hm happs) ha
    exact ⟨h.result, h.failure⟩

/-- A session of the shell with commands in back-quotes, one of which fails. -/
theorem limit_never_matters_session :
    let sh : Shell := { env := { workingDir := [Path.slash] }, files := .empty }
    let requests : List Request :=
      [.eval "echo a`echo b; cat c`".toList .fresh, .run "cat `pwd`".toList none .fresh]
    sh.depth = 0 ∧ 1 ≤ 1 ∧ 1 ≤ 64 ∧
    (sh.after requests).depth = 0 ∧
    (sh.withLimit 1).answers requests = (sh.withLimit 64).answers requests ∧
    ∀ a ∈ (sh.withLimit 1).answers requests, ∀ e, a.result = .error e → WithinLimit e := by
  intro sh requests
  have h := limit_never_matters sh rfl requests
  refine ⟨rfl, Nat.le_refl 1, by decide, h.1, h.2.2.1 1 64 (Nat.le_refl 1) (by decide), ?_⟩
  exact fun a ha ↦ (h.2.2.2.1 h.2.2.2.2 1 (Nat.le_refl 1) a ha).1

end Shell

end LineShell
