import LineShell.Application.Windows
import LineShell.Shell.Environment

/-!
# The history by indices

The history of an environment changes in two ways: a line is put behind the others, or all lines
are forgotten. The last lines are found here a second time, by the index of the first of them.
Lengths and indices are counts that fit in a machine word. A difference below zero, a sum that is no
index and a slice that begins behind the end of a list give no result.
-/

namespace LineShell.Environment

open Application.Windows (add?)

/-- A change of the history. -/
inductive Change where
  | push (line : Text)
  | clear
  deriving DecidableEq, Repr

/-- The environment behind a change of its history. -/
def changed (env : Environment) : Change → Environment
  | .push line => env.push line
  | .clear => env.clear

/-- The environment behind changes of its history, one after the other. -/
def after (env : Environment) (changes : List Change) : Environment := changes.foldl changed env

/-! ### Indices -/

/-- The difference of two counts, if it is one. -/
def subtract? (a b : Nat) : Option Nat := if b ≤ a then some (a - b) else none

/-- What a list holds from an index on, if the list has it or ends there. -/
def sliceFrom? (lines : List Text) (start : Nat) : Option (List Text) :=
  if start ≤ lines.length then some (lines.drop start) else none

/-- A line of a slice with its position in the history; the line comes with its index in the
slice. -/
def positioned? (start : Nat) (numbered : Text × Nat) : Option (Nat × Text) := do
  return (← add? (← add? start numbered.2) 1, numbered.1)

/-- The last lines of the history, at most `count` of them, with their positions, if there is no
fault on the way. -/
def recentSliced? (env : Environment) (count : Option Nat) : Option (List (Nat × Text)) := do
  let length := env.history.length
  let wanted := min (min (count.getD length) length) shownLines
  let start ← subtract? length wanted
  (← sliceFrom? env.history start).zipIdx.mapM (positioned? start)

end LineShell.Environment
