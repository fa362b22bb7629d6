import LineShell.Shell.Session

/-!
# The command line

The program evaluates one line, shows its tree, or runs an interactive session.
-/

namespace LineShell

namespace CommandLine

/-- The usage of the program. -/
def usage : Usage where
  purpose := ("A small line-oriented command interpreter. " ++
    "Starts an interactive session unless a line is given with -c.").toList
  options := [
    { short := 'c', long := "command".toList, kind := .text
      purpose := "evaluate this line and exit".toList },
    { short := 't', long := "tree".toList, kind := .switch
      purpose := "print the command tree of the -c line instead of evaluating it".toList },
    { short := 'v', long := "verbose".toList, kind := .switch
      purpose := "log debug information to stderr".toList }]

/-- The exit code when the arguments are refused. -/
def misuse : Nat := 2

/-- The name of the program when it is not told its name. -/
def usualName : Text := "minish".toList

/-- What the arguments ask for. -/
inductive Task where
  /-- To show the help. -/
  | help (t : Text)
  /-- Nothing, because they are refused. -/
  | refuse (message : Text)
  /-- To show the tree of a line. -/
  | outline (line : Text)
  | evaluate (line : Text)
  | interact
  deriving DecidableEq, Repr

/-- What the arguments of the program called `name` ask for. -/
def taskOf (name : Text) (arguments : List Text) : Task :=
  match usage.read arguments with
  | .error f => .refuse f.message
  | .ok .help => .help (usage.help name)
  | .ok (.run given) =>
    match given.text? 'c', given.has 't' with
    | some line, true => .outline line
    | some line, false => .evaluate line
    | none, true => .refuse (name ++ ": --tree requires --command\n".toList)
    | none, false => .interact

/-- What became of a run of the program. -/
structure Finished where
  code : Nat
  /-- What was written to the standard output. -/
  output : Sink
  /-- What an interactive session showed. -/
  screen : Sink := .fresh
  shell : Shell

/-- Does a task in a shell; an interactive session reads the given input. -/
def perform (task : Task) (sh : Shell) (input : Bytes) : Finished :=
  match task with
  | .help t => ⟨Shell.success, Shell.display .fresh t, .fresh, sh⟩
  | .refuse message => ⟨misuse, .fresh, .fresh, sh.complain message⟩
  | .outline line =>
    match Tree.parse line with
    | .ok t => ⟨Shell.success, Shell.display .fresh t.outline, .fresh, sh⟩
    | .error d => ⟨Shell.failure, .fresh, .fresh, sh.showError (.unterminated d)⟩
  | .evaluate line =>
    let (code, sh, output) := sh.eval line .fresh
    ⟨code, output, .fresh, sh⟩
  | .interact =>
    let ended := sh.repl input
    ⟨if ended.complete then Shell.success else Shell.failure, .fresh, ended.screen, ended.shell⟩

/-- Runs the program; the first argument is its name. -/
def run (arguments : List Text) (sh : Shell) (input : Bytes) : Finished :=
  perform (taskOf (arguments.head?.getD usualName) (arguments.drop 1)) sh input

end CommandLine

end LineShell
