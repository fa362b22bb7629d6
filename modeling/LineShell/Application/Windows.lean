import LineShell.Application.Search

/-!
# Windows

A second way to find the lines that `grep` shows of a file, by their indices. The **window** of a
match is the line that matches and the lines of context behind it. First the windows of all matches
are marked, in a list with a mark for every line; then the marked lines are shown in order, and the
index of the last one decides whether a separator comes before the next.

Indices are counts that fit in a machine word. A sum that is no index and an index out of range give
no result.
-/

namespace LineShell.Application.Windows

/-- The sum of two indices, if it is an index. -/
def add? (a b : Nat) : Option Nat := if a + b ≤ Text.maxCount then some (a + b) else none

/-- Marks what stands at `start` and behind it, before `stop`, if there is such a range. -/
def markRange? (marks : List Bool) (start stop : Nat) : Option (List Bool) :=
  if start ≤ stop ∧ stop ≤ marks.length then
    some (marks.take start ++ List.replicate (stop - start) true ++ marks.drop stop)
  else none

/-- Marks the window of a line if the line matches. -/
def markWindow? (isMatch : Text → Bool) (context : Nat) (marks : List Bool)
    (numbered : Text × Nat) : Option (List Bool) :=
  if isMatch numbered.1 then do
    let stop ← add? (← add? numbered.2 context) 1
    markRange? marks numbered.2 (min stop marks.length)
  else some marks

/-- The marks of all windows. -/
def marks? (isMatch : Text → Bool) (context : Nat) (lines : List Text) : Option (List Bool) :=
  lines.zipIdx.foldlM (markWindow? isMatch context) (List.replicate lines.length false)

/-- Whether lines were left out between the last shown line, if there is one, and this one. -/
def isBehindGap? (last : Option Nat) (i : Nat) : Option Bool :=
  match last with
  | none => some false
  | some last => (add? last 1).map fun next ↦ (next < i : Bool)

/-- The separator that comes before a line, if one does. -/
def separator? (context : Nat) (last : Option Nat) (i : Nat) : Option (List Text) :=
  if 0 < context then (isBehindGap? last i).map fun apart ↦ if apart then [groupMark] else []
  else some []

/-- Shows the marked ones of numbered lines; `last` is the index of the line shown last. -/
def showMarked? (context : Nat) (label : Text) (marks : List Bool) (last : Option Nat) :
    List (Text × Nat) → Option (List Text)
  | [] => some []
  | (line, i) :: rest => do
    if ← marks[i]? then
      let separator ← separator? context last i
      return separator ++ (label ++ line) :: (← showMarked? context label marks (some i) rest)
    else showMarked? context label marks last rest

/-- What comes before every line: the name of the file, if it is given, and a colon. -/
def labelOf (name : Option Text) : Text := (name.map (· ++ [':'])).getD []

/-- What is shown of the lines of one file. -/
def matchingLines? (isMatch : Text → Bool) (context : Nat) (name : Option Text)
    (lines : List Text) : Option (List Text) := do
  showMarked? context (labelOf name) (← marks? isMatch context lines) none lines.zipIdx

end LineShell.Application.Windows
