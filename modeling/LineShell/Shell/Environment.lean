import LineShell.Files.Access

/-!
# The environment

What the applications of a shell share: the working directory that relative paths are seen from, the
home directory, and the history of the lines that were entered, oldest first. A line of the history
is known by its position, counted from one; at most the last five hundred are shown.
-/

namespace LineShell

/-- What the applications of a shell share. -/
structure Environment where
  workingDir : Path
  home : Option Path := none
  /-- The directory that a relative home is seen from. -/
  homeBase : Path := [Path.slash]
  history : List Text := []
  deriving DecidableEq, Repr

namespace Environment

/-- The environment of a shell that starts in a directory; the directory is made canonical if it
exists. -/
def starting (files : Files) (dir : Path) : Environment where
  workingDir :=
    match files.canonical dir with
    | .ok path => path
    | .error _ => dir

/-- The path that a text means, seen from the working directory. -/
def resolve (env : Environment) (path : Text) : Path :=
  Path.resolve env.workingDir (Path.ofText path)

/-- Records a line. -/
def push (env : Environment) (line : Text) : Environment :=
  { env with history := env.history ++ [line] }

/-- Forgets every line. -/
def clear (env : Environment) : Environment := { env with history := [] }

/-- How many lines of the history are shown at most. -/
def shownLines : Nat := 500

/-- The last lines of the history, at most `count` of them, with their positions. -/
def recent (env : Environment) (count : Option Nat) : List (Nat × Text) :=
  let length := env.history.length
  let wanted := min (min (count.getD length) length) shownLines
  ((env.history.zipIdx 1).drop (length - wanted)).map Prod.swap

end Environment

end LineShell
