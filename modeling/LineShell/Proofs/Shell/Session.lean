import LineShell.Proofs.Shell.Steps
import LineShell.Shell.Session

/-!
# Sessions as sequences of requests

Between two lines a shell is its environment, its files, its error channel and its counters; a
**session** is what a shell answers to a list of requests. A request runs a line, evaluates one, or
changes the environment and the files behind the back of the shell, as recording a line in the
history does. The answer holds all that can be seen of a line, the log included.

A line runs from the machine `Shell.machine`, and what became of it is read off the last machine
(`Shell.ranOf`), so statements about steps of evaluation carry over to lines (`Shell.run_eq`).
-/

namespace LineShell.Shell

/-! ### One line -/

/-- The machine that a line starts on. -/
def machine (sh : Shell) (input : Option Source) (output : Sink) : Machine :=
  ⟨⟨sh.env, sh.files, input, .sink output⟩, sh.errors, sh.depth, []⟩

/-- What became of a line that ends with the given result on the given machine. -/
def ranOf (sh : Shell) (ended : Except ShellError Unit × Machine) : Ran where
  result := ended.1
  shell := { sh with
    env := ended.2.world.env
    files := ended.2.world.files
    errors := ended.2.errors
    depth := ended.2.depth }
  input := ended.2.world.input
  output := sinkOf ended.2.world.output
  log := ended.2.log.reverse

/-- Running a line is evaluating it on its machine. -/
theorem run_eq (sh : Shell) (line : Text) (input : Option Source) (output : Sink) :
    sh.run line input output =
      sh.ranOf (Eval.runOn (Eval.line sh.registry sh.limit (sh.limit - sh.depth) line)
        (sh.machine input output)) := rfl

/-! ### Requests -/

/-- What a shell is asked for between two prompts. -/
inductive Request where
  /-- To run a line with an input and an output. -/
  | run (line : Text) (input : Option Source) (output : Sink)
  /-- To evaluate a line, its error going to the error channel. -/
  | eval (line : Text) (output : Sink)
  /-- To go on with another environment and other files. -/
  | change (env : Environment → Environment) (files : Files → Files)

/-- All that can be seen of a line. -/
structure Answer where
  /-- The exit code, if the line was evaluated. -/
  code : Option Nat
  result : Except ShellError Unit
  output : Sink
  /-- What is left of the input. -/
  input : Option Source
  /-- The error channel. -/
  errors : Sink
  env : Environment
  files : Files
  log : List Note

/-- The shell after a request. -/
def next (sh : Shell) : Request → Shell
  | .run line input output => (sh.run line input output).shell
  | .eval line output => (sh.eval line output).2.1
  | .change env files => { sh with env := env sh.env, files := files sh.files }

/-- The answer to a request; a change has none. -/
def answer? (sh : Shell) : Request → Option Answer
  | .run line input output =>
    let ran := sh.run line input output
    some ⟨none, ran.result, ran.output, ran.input, ran.shell.errors, ran.shell.env, ran.shell.files,
      ran.log⟩
  | .eval line output =>
    let ran := sh.run line none output
    let (code, after, written) := sh.eval line output
    some ⟨some code, ran.result, written, ran.input, after.errors, after.env, after.files, ran.log⟩
  | .change _ _ => none

/-- The shell after a session. -/
def after (sh : Shell) (requests : List Request) : Shell := requests.foldl next sh

/-- What a shell answers in a session. -/
def answers (sh : Shell) : List Request → List Answer
  | [] => []
  | request :: rest => (sh.answer? request).toList ++ (sh.next request).answers rest

/-- Showing an error changes the error channel at most. -/
theorem showError_eq (sh : Shell) (e : ShellError) :
    ∃ errors, sh.showError e = { sh with errors } := by
  simp only [showError, complain]
  split
  · exact ⟨_, rfl⟩
  · exact ⟨sh.errors, rfl⟩

/-- After an evaluated line, the shell is the one after the run, the error channel apart. -/
theorem eval_shell_eq (sh : Shell) (line : Text) (output : Sink) :
    ∃ errors, (sh.eval line output).2.1 = { (sh.run line none output).shell with errors } := by
  simp only [eval]
  split
  · exact ⟨(sh.run line none output).shell.errors, rfl⟩
  · exact showError_eq _ _

/-- A request leaves the applications and the limit as they are. -/
theorem registry_next (sh : Shell) (request : Request) :
    (sh.next request).registry = sh.registry ∧ (sh.next request).limit = sh.limit := by
  cases request with
  | run line input output => exact ⟨rfl, rfl⟩
  | eval line output =>
    obtain ⟨errors, h⟩ := eval_shell_eq sh line output
    rw [next, h]
    exact ⟨rfl, rfl⟩
  | change env files => exact ⟨rfl, rfl⟩

/-- What every request of a session preserves, the session preserves. -/
theorem after_preserves {P : Shell → Prop} {sh : Shell} {requests : List Request}
    (hstep : ∀ sh, ∀ request ∈ requests, P sh → P (sh.next request)) (h : P sh) :
    P (sh.after requests) := by
  induction requests generalizing sh with
  | nil => exact h
  | cons request rest ih =>
    exact ih (fun sh r hr ↦ hstep sh r (List.mem_cons_of_mem _ hr))
      (hstep sh request List.mem_cons_self h)

/-- A request of a session that has its files to itself: to run a line, to evaluate one, or to
record lines or forget them. -/
inductive Request.OfSession : Request → Prop where
  | run (line : Text) (input : Option Source) (output : Sink) : OfSession (.run line input output)
  | eval (line : Text) (output : Sink) : OfSession (.eval line output)
  | record (recorded : List Text → List Text) :
    OfSession (.change (fun env ↦ { env with history := recorded env.history }) id)

end LineShell.Shell
