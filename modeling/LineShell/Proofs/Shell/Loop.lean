import LineShell.Proofs.Line.Division
import LineShell.Proofs.Shell.Steps

/-!
# Evaluation as two loops

A line is evaluated as a tree that folds to the left, with streams that are replaced and put back at
every node. What comes out is a flat pair of loops: one over the commands of the line and, within a
command, one over its calls (`commandLoop`, `lineLoop`). The loops pass the machine from call to
call and are written for any way of running a call; they keep the calls that they begin, with the
result of each.

The tree grows at its right end and the loops start at the left, so the loops are described by their
last round first (`commandLoop_concat`, `lineLoop_concat`). With that, induction on the last bare
separator shows that tree and loops do the same (`runOn_tree_ofBalanced`).
-/

namespace LineShell

/-- A way of running calls: the result of a call on a machine, and the machine that it leaves. -/
abbrev CallRunner := Text → Machine → Except ShellError Unit × Machine

/-! ### Courses -/

/-- What becomes of a number of calls. -/
structure Course where
  result : Except ShellError Unit
  machine : Machine
  /-- The calls that were begun, in order, each with its own result. -/
  ran : List (Text × Except ShellError Unit)

namespace Course

/-- The course of no call. -/
def idle (m : Machine) : Course := ⟨.ok (), m, []⟩

/-- The course of one call that ended like this. -/
def single (text : Text) (ended : Except ShellError Unit × Machine) : Course :=
  ⟨ended.1, ended.2, [(text, ended.1)]⟩

/-- The course with other calls begun in front of it. -/
def behind (c : Course) (ran : List (Text × Except ShellError Unit)) : Course :=
  { c with ran := ran ++ c.ran }

/-- Goes on from the machine of a course that succeeded; the first error ends both. -/
def andThen (c : Course) (next : Machine → Course) : Course :=
  match c.result with
  | .ok () => (next c.machine).behind c.ran
  | .error _ => c

/-- The output of the machine is put back. -/
def withOutput (c : Course) (output : Output) : Course :=
  { c with machine := c.machine.withOutput output }

/-- The result of a course and the machine that it leaves. -/
def ended (c : Course) : Except ShellError Unit × Machine := (c.result, c.machine)

/-- The calls that were begun. -/
def begun (c : Course) : List Text := c.ran.map Prod.fst

/-- The calls that were run through without an error. -/
def completed (c : Course) : List Text :=
  (c.ran.filter fun call ↦ call.2.isOk).map Prod.fst

variable {c : Course} {next : Machine → Course} {e : ShellError}

theorem andThen_of_ok (h : c.result = .ok ()) : c.andThen next = (next c.machine).behind c.ran := by
  rw [andThen, h]

theorem andThen_of_error (h : c.result = .error e) : c.andThen next = c := by
  rw [andThen, h]

/-- A call that succeeds stands in front of what comes after it. -/
theorem single_andThen (text : Text) (m : Machine) (output : Output) (next : Machine → Course) :
    ((single text (.ok (), m)).withOutput output).andThen next =
      (next (m.withOutput output)).behind [(text, .ok ())] := rfl

theorem andThen_idle (c : Course) : c.andThen idle = c := by
  rcases c with ⟨e | ⟨⟩, m, ran⟩
  · rfl
  · simp [andThen, behind, idle]

/-- What was begun in front of two courses was begun in front of the first. -/
theorem behind_andThen (c : Course) (ran : List (Text × Except ShellError Unit))
    (next : Machine → Course) : (c.behind ran).andThen next = (c.andThen next).behind ran := by
  rcases c with ⟨e | ⟨⟩, m, ran'⟩
  · rfl
  · simp [andThen, behind]

theorem andThen_assoc (c : Course) (next later : Machine → Course) :
    (c.andThen next).andThen later = c.andThen fun m ↦ (next m).andThen later := by
  cases hc : c.result with
  | error e => rw [andThen_of_error hc, andThen_of_error hc, andThen_of_error hc]
  | ok _ => rw [andThen_of_ok hc, andThen_of_ok hc, behind_andThen]

end Course

/-! ### The loops -/

/-- The bytes in the sink that a machine writes to. -/
def Machine.collected (m : Machine) : Bytes :=
  match m.world.output with
  | .sink s => s.bytes
  | .file _ => []

/-- What is collected is what evaluation takes for written. -/
theorem Machine.collected_eq (m : Machine) : m.collected = Eval.written m.world.output := by
  rw [collected]
  cases m.world.output <;> rfl

/-- Runs a call that is fed these bytes, the input of the line being put back behind it. Without
bytes the call reads the input of the line itself, and leaves it where it stopped. -/
def fedCall (run : CallRunner) (fed : Option Bytes) (text : Text) (m : Machine) :
    Except ShellError Unit × Machine :=
  match fed with
  | none => run text m
  | some bytes =>
    let after := run text (m.withInput (some (.bytes bytes)))
    (after.1, after.2.withInput m.world.input)

/-- Runs the calls of a command in order. Every call but the last writes into a fresh buffer, whose
bytes feed the next one; the last one writes to the output of the line. -/
def commandLoop (run : CallRunner) : Option Bytes → List Text → Machine → Course
  | _, [], m => .idle m
  | fed, [text], m => .single text (fedCall run fed text m)
  | fed, text :: next :: rest, m =>
    let after := fedCall run fed text (m.withOutput (.sink .fresh))
    ((Course.single text after).withOutput m.world.output).andThen
      (commandLoop run (some after.2.collected) (next :: rest))

/-- Runs the commands of a line in order. The first call of each reads the input of the line, from
where the commands before have left it. -/
def lineLoop (run : CallRunner) : List (List Text) → Machine → Course
  | [], m => .idle m
  | calls :: rest, m => (commandLoop run none calls m).andThen (lineLoop run rest)

variable {run : CallRunner} {calls : List Text} {commands : List (List Text)}

/-- **The last call of a command is fed by the command without it**, which writes into a fresh
buffer. -/
theorem commandLoop_concat (hcalls : calls ≠ []) (fed : Option Bytes) (text : Text) (m : Machine) :
    commandLoop run fed (calls ++ [text]) m =
      let before := commandLoop run fed calls (m.withOutput (.sink .fresh))
      (before.withOutput m.world.output).andThen
        (commandLoop run (some before.machine.collected) [text]) := by
  induction calls generalizing fed m with
  | nil => exact absurd rfl hcalls
  | cons first rest ih =>
    cases rest with
    | nil => rfl
    | cons next rest =>
      -- The first round writes into a fresh buffer, whatever the output of the line is.
      have hfresh : (m.withOutput (.sink .fresh)).withOutput (.sink .fresh) =
          m.withOutput (.sink .fresh) := rfl
      rw [List.cons_append, List.cons_append, commandLoop, commandLoop, hfresh]
      rcases hfirst : fedCall run fed first (m.withOutput (.sink .fresh)) with ⟨e | ⟨⟩, m'⟩
      · rfl
      · dsimp only
        rw [Course.single_andThen, Course.single_andThen]
        have hrest := ih (by simp) (some m'.collected)
          (m'.withOutput m.world.output)
        exact (congrArg (Course.behind · [(first, .ok ())]) hrest).trans
          (Course.behind_andThen _ _ _).symm

theorem lineLoop_concat (calls : List Text) (m : Machine) :
    lineLoop run (commands ++ [calls]) m =
      (lineLoop run commands m).andThen (commandLoop run none calls) := by
  induction commands generalizing m with
  | nil =>
    show (commandLoop run none calls m).andThen Course.idle = _
    rw [Course.andThen_idle]
    rfl
  | cons first rest ih => rw [List.cons_append, lineLoop, lineLoop, Course.andThen_assoc, funext ih]

/-! ### Which calls are begun -/

/-- The course of these calls: either all of them ran and succeeded, or they ran up to the first
one that failed, and its error is the result. -/
inductive Course.Follows (calls : List Text) : Course → Prop
  | through (m : Machine) : Follows calls ⟨.ok (), m, calls.map (·, .ok ())⟩
  | stopped (before : List Text) (text : Text) (after : List Text) (e : ShellError) (m : Machine)
      (split : calls = before ++ text :: after) :
      Follows calls ⟨.error e, m, before.map (·, .ok ()) ++ [(text, .error e)]⟩

namespace Course

variable {c : Course} {next : Machine → Course} {later : List Text} {e : ShellError}

theorem follows_single (text : Text) (ended : Except ShellError Unit × Machine) :
    (single text ended).Follows [text] := by
  rcases ended with ⟨e | ⟨⟩, m⟩
  · exact .stopped [] text [] e m rfl
  · exact .through m

theorem Follows.withOutput (h : c.Follows calls) (output : Output) :
    (c.withOutput output).Follows calls := by
  cases h with
  | through m => exact .through _
  | stopped before text after e m split => exact .stopped before text after e _ split

/-- A course that goes on follows the calls of both. -/
theorem Follows.andThen (h : c.Follows calls) (hnext : ∀ m, (next m).Follows later) :
    (c.andThen next).Follows (calls ++ later) := by
  cases h with
  | through m =>
    rw [andThen_of_ok rfl]
    have hlater := hnext m
    generalize next m = c' at hlater
    cases hlater with
    | through m' =>
      rw [behind, ← List.map_append]
      exact .through m'
    | stopped before text after e m' split =>
      rw [behind, ← List.append_assoc, ← List.map_append]
      exact .stopped (calls ++ before) text after e m' (by rw [split, List.append_assoc])
  | stopped before text after e m split =>
    rw [andThen_of_error rfl]
    exact .stopped before text (after ++ later) e m (by simp [split])

theorem filter_isOk (texts : List Text) :
    (texts.map fun text ↦ (text, (.ok () : Except ShellError Unit))).filter
      (fun call ↦ call.2.isOk) = texts.map (·, .ok ()) := by
  rw [List.filter_eq_self, List.forall_mem_map]
  exact fun _ _ ↦ rfl

theorem completed_through (texts : List Text) (m : Machine) :
    completed ⟨.ok (), m, texts.map (·, .ok ())⟩ = texts := by
  rw [completed, filter_isOk]
  simp [Function.comp_def]

/-- Of calls that succeeded and one that failed, the first ones were run through. -/
theorem completed_stopped (before : List Text) (text : Text) (m : Machine) :
    completed ⟨.error e, m, before.map (·, .ok ()) ++ [(text, .error e)]⟩ = before := by
  rw [completed, List.filter_append, filter_isOk]
  simp [Except.isOk, Except.toBool, Function.comp_def]

/-- The calls that were begun are the first ones. -/
theorem Follows.begun_prefix (h : c.Follows calls) : c.begun <+: calls := by
  cases h with
  | through m => simp [begun, Function.comp_def]
  | stopped before text after e m split =>
    refine ⟨after, ?_⟩
    simp [begun, Function.comp_def, split]

/-- The calls that were run through are the first ones. -/
theorem Follows.completed_prefix (h : c.Follows calls) : c.completed <+: calls := by
  cases h with
  | through m => exact ⟨[], by rw [completed_through, List.append_nil]⟩
  | stopped before text after e m split =>
    rw [completed_stopped, split]
    exact List.prefix_append before (text :: after)

/-- All calls were run through exactly when nothing failed. -/
theorem Follows.completed_eq_iff (h : c.Follows calls) :
    c.completed = calls ↔ c.result = .ok () := by
  cases h with
  | through m => simp [completed_through]
  | stopped before text after e m split => simp [completed_stopped, split]

theorem Follows.begun_of_ok (h : c.Follows calls) (hc : c.result = .ok ()) : c.begun = calls := by
  cases h with
  | through m => simp [begun, Function.comp_def]
  | stopped before text after e m split => cases hc

/-- The call whose error ended the course is the last one that was begun; the ones before it were
run through. -/
theorem Follows.of_error (h : c.Follows calls) (hc : c.result = .error e) :
    ∃ text, c.begun = c.completed ++ [text] ∧ c.ran.getLast? = some (text, .error e) := by
  cases h with
  | through m => cases hc
  | stopped before text after e' m split =>
    obtain rfl : e' = e := Except.error.inj hc
    refine ⟨text, ?_, by simp⟩
    rw [completed_stopped]
    simp [begun, Function.comp_def]

end Course

theorem follows_commandLoop (fed : Option Bytes) (calls : List Text) (m : Machine) :
    (commandLoop run fed calls m).Follows calls := by
  induction calls generalizing fed m with
  | nil => exact .through m
  | cons text rest ih =>
    cases rest with
    | nil => exact Course.follows_single _ _
    | cons next rest =>
      exact ((Course.follows_single _ _).withOutput _).andThen fun m' ↦ ih _ m'

theorem follows_lineLoop (commands : List (List Text)) (m : Machine) :
    (lineLoop run commands m).Follows commands.flatten := by
  induction commands generalizing m with
  | nil => exact .through m
  | cons calls rest ih => exact (follows_commandLoop none calls m).andThen ih

/-! ### Trees -/

namespace Eval

variable {registry : Registry} {substitute : Text → Eval Text}

/-- **The tree of a command is the loop over its calls.** -/
theorem runOn_tree_ofCommand (command : Text) (m : Machine) :
    runOn (tree registry substitute (Tree.ofCommand command)) m =
      (commandLoop (fun text ↦ runOn (call registry substitute text)) none
        (Tree.piecesOf '|' command) m).ended := by
  induction command using bareInduction isSeparator_bar generalizing m with
  | piece t ht =>
    rw [Tree.ofCommand_of_not_bare ht, Tree.piecesOf_of_not_bare ht]
    rfl
  | append s u hs hu ih =>
    have hne : Tree.piecesOf '|' s ≠ [] := by simp [Tree.piecesOf]
    rw [Tree.ofCommand_append_cons hs hu, Tree.piecesOf_append_cons isSeparator_bar hs hu,
      commandLoop_concat hne, tree, runOn_bind, runOn_intoBuffer, ih]
    -- Both sides begin with the calls before the last one; if these fail, that is the end of both.
    generalize commandLoop _ none _ (m.withOutput (.sink .fresh)) = before
    rcases before with ⟨e | ⟨⟩, m', ran⟩
    · rfl
    · show runOn (fedBy (some (.bytes (written m'.world.output))) (call registry substitute u))
        (m'.withOutput m.world.output) = _
      rw [← Machine.collected_eq]
      rfl

/-- **The tree of a line is the loop over its commands.** -/
theorem runOn_tree_ofBalanced (line : Text) (m : Machine) :
    runOn (tree registry substitute (Tree.ofBalanced line)) m =
      (lineLoop (fun text ↦ runOn (call registry substitute text))
        ((Tree.piecesOf ';' line).map (Tree.piecesOf '|')) m).ended := by
  induction line using bareInduction isSeparator_semicolon generalizing m with
  | piece t ht =>
    rw [Tree.ofBalanced_of_not_bare ht, Tree.piecesOf_of_not_bare ht, List.map_singleton,
      ← List.nil_append [_], lineLoop_concat, runOn_tree_ofCommand]
    rfl
  | append s u hs hu ih =>
    rw [Tree.ofBalanced_append_cons hs hu, Tree.piecesOf_append_cons isSeparator_semicolon hs hu,
      List.map_append, List.map_singleton, lineLoop_concat, tree, runOn_bind, ih]
    generalize lineLoop _ _ m = before
    rcases before with ⟨e | ⟨⟩, m', ran⟩
    · rfl
    · exact runOn_tree_ofCommand u m'

end Eval

end LineShell
