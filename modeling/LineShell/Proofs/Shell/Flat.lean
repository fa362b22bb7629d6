import LineShell.Proofs.Shell.Congruence
import LineShell.Proofs.Shell.Loop
import LineShell.Proofs.Shell.Session

/-!
# Lines are flat

A line does what two nested loops do over its division into commands and calls (`run_eq_loop`). The
loops say which calls they begin; that evaluation begins the same ones is read off the log, where
every call that can be read leaves a note with its depth.

For that, evaluating a call must add one note of a call at the depth of the line, its own. A command
in back-quotes is evaluated at greater depths, however many it has inside, so its calls do not
count: at the depth of the line it adds nothing to the log but the note of its error
(`Eval.keeps_substitution`).
-/

namespace LineShell

/-- The text of the call that an event begins. -/
def Event.call? : Event → Option Text
  | .call text _ => some text
  | _ => none

/-- The calls that were begun at a depth, in the order of the log. -/
def callsAt (level : Nat) (log : List Note) : List Text :=
  (log.filter fun n ↦ n.depth = level).filterMap fun n ↦ n.event.call?

variable {level depth : Nat} {log : List Note} {n : Note} {texts : List Text} {m : Machine}

theorem callsAt_reverse : callsAt level log.reverse = (callsAt level log).reverse := by
  rw [callsAt, callsAt, List.filter_reverse, List.filterMap_reverse]

/-- A note of another depth, or of anything but a call, does not count. -/
theorem callsAt_cons_of_not_call (h : n.depth ≠ level ∨ n.event.call? = none) :
    callsAt level (n :: log) = callsAt level log := by
  by_cases hdepth : n.depth = level
  · have hcall := h.resolve_left (not_not_intro hdepth)
    simp [callsAt, hdepth, hcall]
  · simp [callsAt, hdepth]

/-- A note that is deeper than the given level, or that of an error passed over. -/
def Note.Inner (level : Nat) (n : Note) : Prop := level < n.depth ∨ ∃ e, n.event = .failure e

/-- What is seen of a log at a depth, errors apart, is not changed by inner notes. -/
theorem filterMap_append_of_inner {σ : Type} {seen? : Event → Option σ} {later : List Note}
    (hseen : ∀ e, seen? (.failure e) = none) (hlater : ∀ n ∈ later, n.Inner level) :
    ((later ++ log).filter fun n ↦ n.depth = level).filterMap (fun n ↦ seen? n.event) =
      (log.filter fun n ↦ n.depth = level).filterMap fun n ↦ seen? n.event := by
  have hnone : (later.filter fun n ↦ n.depth = level).filterMap (fun n ↦ seen? n.event) = [] := by
    refine List.filterMap_eq_nil_iff.2 fun n hn ↦ ?_
    obtain ⟨hmem, hdepth⟩ := List.mem_filter.1 hn
    rcases hlater n hmem with hdeep | ⟨e, he⟩
    · exact absurd (of_decide_eq_true hdepth) hdeep.ne'
    · rw [he]
      exact hseen e
  rw [List.filter_append, List.filterMap_append, hnone, List.nil_append]

/-- The machine is at `depth`, and its log shows these calls at `level`. -/
structure Logged (level depth : Nat) (texts : List Text) (m : Machine) : Prop where
  depth_eq : m.depth = depth
  calls_eq : callsAt level m.log = texts

theorem Logged.noted (h : Logged level depth texts m) {event : Event}
    (hevent : depth ≠ level ∨ event.call? = none) : Logged level depth texts (m.noted event) where
  depth_eq := h.depth_eq
  calls_eq := by
    rw [← h.depth_eq] at hevent
    exact (callsAt_cons_of_not_call hevent).trans h.calls_eq

theorem Logged.noted_call (h : Logged level level texts m) (text : Text) (ts : List Token) :
    Logged level level (text :: texts) (m.noted (.call text ts)) where
  depth_eq := h.depth_eq
  calls_eq := by
    rw [← h.calls_eq, ← h.depth_eq]
    simp [callsAt, Machine.noted, Event.call?]

theorem Logged.withWorld (h : Logged level depth texts m) (w : World) :
    Logged level depth texts (m.withWorld w) := ⟨h.depth_eq, h.calls_eq⟩

/-- The machine is at `depth`, and since its log was `base` it has noted inner things only. -/
structure Within (base : List Note) (level depth : Nat) (m : Machine) : Prop where
  depth_eq : m.depth = depth
  log_eq : ∃ later, m.log = later ++ base ∧ ∀ n ∈ later, n.Inner level

variable {base : List Note}

theorem Within.refl (m : Machine) : Within m.log level m.depth m := ⟨rfl, [], rfl, nofun⟩

theorem Within.noted (h : Within base level depth m) {event : Event}
    (hevent : level < depth ∨ ∃ e, event = .failure e) :
    Within base level depth (m.noted event) := by
  obtain ⟨later, hlog, hlater⟩ := h.log_eq
  refine ⟨h.depth_eq, ⟨m.depth, event⟩ :: later, congrArg (List.cons _) hlog, ?_⟩
  rw [← h.depth_eq] at hevent
  exact List.forall_mem_cons.2 ⟨hevent, hlater⟩

theorem Within.atDepth (h : Within base level depth m) (depth' : Nat) :
    Within base level depth' (m.atDepth depth') := ⟨rfl, h.log_eq⟩

theorem Within.withWorld (h : Within base level depth m) (w : World) :
    Within base level depth (m.withWorld w) := ⟨h.depth_eq, h.log_eq⟩

/-- Inner notes are no calls at the level. -/
theorem Logged.within {m' : Machine} (h : Logged level depth texts m)
    (h' : Within m.log level depth m') : Logged level depth texts m' := by
  obtain ⟨later, hlog, hlater⟩ := h'.log_eq
  refine ⟨h'.depth_eq, ?_⟩
  rw [← h.calls_eq, hlog]
  exact filterMap_append_of_inner (fun _ ↦ rfl) hlater

namespace Eval

theorem stable_logged {E : ShellError → Prop} : Stable (Logged level depth texts) E where
  world w h := h.withWorld w
  errors _ h := ⟨h.depth_eq, h.calls_eq⟩
  application _ _ _ h := h.noted (Or.inr rfl)
  failure _ h := h.noted (Or.inr rfl)

theorem stable_within {E : ShellError → Prop} (h : level < depth) :
    Stable (Within base level depth) E where
  world w hm := hm.withWorld w
  errors _ hm := ⟨hm.depth_eq, hm.log_eq⟩
  application _ _ _ hm := hm.noted (Or.inl h)
  failure _ hm := hm.noted (Or.inl h)

/-! ### Calls of a line -/

/-- What is put in the place of a command by a line with this many levels left. -/
def substitution (registry : Registry) (limit : Nat) : Nat → Text → Eval Text
  | 0 => substitute limit fun _ ↦ throw (.depth limit)
  | levels + 1 => substitute limit (line registry limit levels)

theorem line_eq (registry : Registry) (limit levels : Nat) :
    line registry limit levels = lineWith registry (substitution registry limit levels) := by
  cases levels <;> rfl

variable {registry : Registry} {limit : Nat}

theorem keeps_report (app : Text) (e : ShellError) :
    Keeps (Within base level depth) (fun _ ↦ True) (report app e) := by
  refine ⟨fun _ ↦ rfl, fun {m} hm ↦ ?_, fun _ _ ↦ trivial⟩
  have hnoted : Within base level depth (m.noted (.failure e)) := hm.noted (Or.inr ⟨e, rfl⟩)
  rw [runOn_report]
  split
  · exact ⟨hnoted.depth_eq, hnoted.log_eq⟩
  · exact hnoted

/-- A command that adds inner notes one level deeper adds inner notes when it is substituted, that
of its own error among them. -/
theorem keeps_substitute {line : Text → Eval Unit} {c : Text} (hlevel : level ≤ depth)
    (h : Keeps (Within base level (depth + 1)) (fun _ ↦ True) (line c)) :
    Keeps (Within base level depth) (fun _ ↦ True) (substitute limit line c) := by
  refine ⟨fun _ ↦ rfl, fun {m} hm ↦ ?_, fun _ _ ↦ trivial⟩
  have hfed : Within base level depth
      (runOn (fedBy none (nested limit line c)) (m.withOutput (.sink .fresh))).2 := by
    have hstart : Within base level depth ((m.withOutput (.sink .fresh)).withInput none) :=
      (hm.withWorld _).withWorld _
    have hnested : Within base level depth
        (runOn (nested limit line c) ((m.withOutput (.sink .fresh)).withInput none)).2 := by
      rw [runOn_nested]
      split
      · exact hstart
      · have hentered : Within base level (depth + 1)
            (((m.withOutput (.sink .fresh)).withInput none).entered c) := by
          rw [Machine.entered, hstart.depth_eq]
          exact (hstart.atDepth (depth + 1)).noted (Or.inl (Nat.lt_succ_of_le hlevel))
        have hline := h.keeps hentered
        rw [Machine.left, hline.depth_eq]
        exact hline.atDepth depth
    exact hnested.withWorld _
  rcases hrun : runOn (fedBy none (nested limit line c)) (m.withOutput (.sink .fresh)) with
    ⟨e | _, m'⟩ <;> rw [hrun] at hfed
  · have hreport : Keeps (Within base level depth) (fun _ ↦ True) (do
        report "substitution".toList e
        pure (capturedText m'.world.output)) := .bind (keeps_report _ e) fun _ ↦ .pure _
    rw [substitute, runOn_captured_of_error hrun]
    exact hreport.keeps (hfed.withWorld _)
  · rw [substitute, runOn_captured_of_ok hrun]
    exact hfed.withWorld _

/-- **Commands in back-quotes add inner notes only.** -/
theorem keeps_substitution (hlevel : level ≤ depth) (levels : Nat) (c : Text) :
    Keeps (Within base level depth) (fun _ ↦ True) (substitution registry limit levels c) := by
  -- Each level goes one deeper, so below the line every note is an inner one.
  induction levels generalizing depth c with
  | zero => exact keeps_substitute hlevel (.throw trivial)
  | succ levels ih =>
    have hdeep : level < depth + 1 := Nat.lt_succ_of_le hlevel
    refine keeps_substitute hlevel ?_
    rw [line_eq]
    exact .lineWith (stable_within hdeep) (covers_true registry)
      (fun _ _ h ↦ h.noted (Or.inl hdeep)) (fun _ h ↦ h.noted (Or.inl hdeep)) (fun _ _ ↦ trivial)
      fun c' _ ↦ ih hdeep.le c'

/-- **A call logs itself, and no other call at its depth.** -/
theorem logged_call {text : Text} (hbal : Balanced text) (levels : Nat)
    (h : Logged level level texts m) :
    Logged level level (text :: texts)
      (runOn (call registry (substitution registry limit levels) text) m).2 := by
  obtain ⟨ts, hread⟩ := Token.exists_read_eq_ok hbal
  have hsub : ∀ c, Keeps (Logged level level (text :: texts)) (fun _ ↦ True)
      (substitution registry limit levels c) := by
    refine fun c ↦ ⟨fun _ ↦ rfl, fun {m} hm ↦ hm.within ?_, fun _ _ ↦ trivial⟩
    have hkeeps : Keeps (Within m.log level level) (fun _ ↦ True)
        (substitution registry limit levels c) := keeps_substitution (Nat.le_refl level) levels c
    exact hkeeps.keeps (hm.depth_eq ▸ .refl m)
  have htokens : Keeps (Logged level level (text :: texts)) (fun _ ↦ True)
      (tokens registry (substitution registry limit levels) ts) :=
    .tokens stable_logged (covers_true registry) fun _ c _ _ ↦ hsub c
  rw [call, hread]
  exact htokens.keeps (h.noted_call text ts)

end Eval

/-! ### The loops -/

/-- The course ends at `level`, and the log shows the calls that it began behind those before. -/
def Course.Logs (c : Course) (level : Nat) (texts : List Text) : Prop :=
  Logged level level (c.begun.reverse ++ texts) c.machine

theorem Course.Logs.withOutput {c : Course} (h : c.Logs level texts) (output : Output) :
    (c.withOutput output).Logs level texts := h.withWorld _

theorem Course.Logs.andThen {c : Course} {next : Machine → Course} (h : c.Logs level texts)
    (hnext : ∀ {m texts}, Logged level level texts m → (next m).Logs level texts) :
    (c.andThen next).Logs level texts := by
  cases hc : c.result with
  | error e => rwa [andThen_of_error hc]
  | ok _ =>
    have hlater := hnext h
    rw [Logs, ← List.append_assoc, ← List.reverse_append] at hlater
    rw [andThen_of_ok hc, Logs, begun, behind, List.map_append]
    exact hlater

/-- Running the call puts it into the log, and no other call of its depth. -/
def LogsItself (run : CallRunner) (level : Nat) (text : Text) : Prop :=
  ∀ {m texts}, Logged level level texts m → Logged level level (text :: texts) (run text m).2

variable {run : CallRunner} {calls : List Text} {commands : List (List Text)}

theorem LogsItself.fedCall {text : Text} (hrun : LogsItself run level text) (fed : Option Bytes)
    (h : Logged level level texts m) :
    (Course.single text (fedCall run fed text m)).Logs level texts := by
  cases fed with
  | none => exact hrun h
  | some bytes => exact (hrun (h.withWorld _)).withWorld _

/-- If every call logs itself, a command logs the calls that it begins. -/
theorem logs_commandLoop (hrun : ∀ text ∈ calls, LogsItself run level text) (fed : Option Bytes)
    (h : Logged level level texts m) : (commandLoop run fed calls m).Logs level texts := by
  induction calls generalizing fed m texts with
  | nil => exact h
  | cons text rest ih =>
    have htext : LogsItself run level text := hrun text List.mem_cons_self
    cases rest with
    | nil => exact htext.fedCall fed h
    | cons next rest =>
      refine ((htext.fedCall fed (h.withWorld _)).withOutput _).andThen fun h' ↦ ih ?_ _ h'
      exact fun text' htext' ↦ hrun text' (List.mem_cons_of_mem _ htext')

/-- If every call logs itself, a line logs the calls that it begins. -/
theorem logs_lineLoop (hrun : ∀ calls ∈ commands, ∀ text ∈ calls, LogsItself run level text)
    (h : Logged level level texts m) : (lineLoop run commands m).Logs level texts := by
  induction commands generalizing m texts with
  | nil => exact h
  | cons calls rest ih =>
    refine (logs_commandLoop (hrun calls List.mem_cons_self) none h).andThen fun h' ↦ ih ?_ h'
    exact fun calls' hcalls' ↦ hrun calls' (List.mem_cons_of_mem _ hcalls')

namespace Shell

open Eval

/-- How the shell runs a call of a line. -/
def runCall (sh : Shell) : CallRunner := fun text ↦
  runOn (call sh.registry (substitution sh.registry sh.limit (sh.limit - sh.depth)) text)

/-- The loops over the commands of a line and their calls, once the line is cut into its tree. -/
def loop (sh : Shell) (t : Tree) (commands : List (List Text)) (input : Option Source)
    (output : Sink) : Course :=
  lineLoop sh.runCall commands ((sh.machine input output).noted (.line t))

variable {sh : Shell} {line : Text} {t : Tree} {input : Option Source} {output : Sink}

/-- A line ends as the loops end. -/
theorem run_eq_ranOf_loop (ht : Tree.parse line = .ok t) (hcommands : Division line commands) :
    sh.run line input output = sh.ranOf (sh.loop t commands input output).ended := by
  obtain ⟨-, rfl⟩ := Tree.parse_eq_ok_iff.1 ht
  rw [run_eq, line_eq, lineWith, ht, hcommands.eq_piecesOf]
  exact congrArg sh.ranOf (runOn_tree_ofBalanced line _)

/-- The loops log the calls that they begin. -/
theorem callsAt_loop (hcommands : Division line commands) :
    callsAt sh.depth (sh.loop t commands input output).machine.log.reverse =
      (sh.loop t commands input output).begun := by
  have hcall : ∀ calls ∈ commands, ∀ text ∈ calls, LogsItself sh.runCall sh.depth text :=
    fun calls hcalls text htext _ _ h ↦ logged_call (hcommands.call calls hcalls text htext).1 _ h
  have hmachine : Logged sh.depth sh.depth [] (sh.machine input output) := ⟨rfl, rfl⟩
  have hstart : Logged sh.depth sh.depth [] ((sh.machine input output).noted (.line t)) :=
    hmachine.noted (Or.inr rfl)
  have hend := logs_lineLoop hcall hstart
  rw [callsAt_reverse, loop, hend.calls_eq, List.append_nil, List.reverse_reverse]

/-- **A line does what two nested loops do.** An accepted line has one division into commands and
calls; whatever the shell, the input and the output, the line ends as the loops over that division
end, in all that can be seen of it. The calls that it begins, and those that it runs through without
an error, are the first ones in text order. All of them are run through exactly when the line
succeeds; a line that fails has the error of the call begun last, and has run through the ones
before. -/
theorem run_eq_loop (sh : Shell) (line : Text) (t : Tree) (ht : Tree.parse line = .ok t)
    (input : Option Source) (output : Sink) :
    (∃! commands, Division line commands) ∧
    ∀ commands, Division line commands →
      let course := sh.loop t commands input output
      let ran := sh.run line input output
      ran = sh.ranOf course.ended ∧
      commands.flatten = t.calls ∧
      callsAt sh.depth ran.log = course.begun ∧
      course.begun <+: t.calls ∧
      course.completed <+: t.calls ∧
      (ran.result = .ok () ↔ course.completed = t.calls) ∧
      (ran.result = .ok () → course.begun = t.calls) ∧
      ∀ e, ran.result = .error e → ∃ text, course.begun = course.completed ++ [text] ∧
        course.ran.getLast? = some (text, .error e) := by
  refine ⟨existsUnique_division (Tree.parse_eq_ok_iff.1 ht).1, fun commands hcommands ↦ ?_⟩
  have hcalls : commands.flatten = t.calls := hcommands.calls_eq ht
  have hfollows : (sh.loop t commands input output).Follows t.calls :=
    hcalls ▸ follows_lineLoop commands _
  intro course ran
  have hran : ran = sh.ranOf course.ended := run_eq_ranOf_loop ht hcommands
  have hresult : ran.result = course.result := congrArg Ran.result hran
  refine ⟨hran, hcalls, ?_, hfollows.begun_prefix, hfollows.completed_prefix, ?_, fun hok ↦ ?_,
    fun e he ↦ ?_⟩
  · exact (congrArg (fun r ↦ callsAt sh.depth r.log) hran).trans (callsAt_loop hcommands)
  · rw [hresult]
    exact hfollows.completed_eq_iff.symm
  · exact hfollows.begun_of_ok (hresult ▸ hok)
  · exact hfollows.of_error (hresult ▸ he)

/-- A line that fails in the middle of a pipe: the calls behind the failure are not begun. -/
theorem run_eq_loop_failing :
    let sh : Shell := { env := { workingDir := [Path.slash] }, files := .empty }
    let line := ";cat<a<b|pwd;pwd".toList
    let t : Tree := .seq
      (.seq (.call []) (.pipe (.call "cat<a<b".toList) (.call "pwd".toList))) (.call "pwd".toList)
    let commands := [[[]], ["cat<a<b".toList, "pwd".toList], ["pwd".toList]]
    Tree.parse line = .ok t ∧ Division line commands ∧
    (sh.run line none .fresh).result = .error (.redirection .input) ∧
    callsAt 0 (sh.run line none .fresh).log = [[], "cat<a<b".toList] := by
  intro sh line t commands
  have ht : Tree.parse line = .ok t := by decide
  have hcommands : Division line commands := division_piecesOf (by decide)
  obtain ⟨hran, -, hlog, -⟩ := (run_eq_loop sh line t ht none .fresh).2 commands hcommands
  refine ⟨ht, hcommands, ?_, hlog.trans rfl⟩
  rw [hran]
  rfl

end Shell

end LineShell
