import LineShell.Files.Access
import LineShell.Glob.Pattern

/-!
# Expansion of arguments

An argument with a star stands for the paths that it matches. Its segments are walked from left to
right: a segment without a star is kept as it is written, whether or not it exists, and a segment
with a star is replaced by every matching name in the directory that was reached. The paths are
shown as the argument was written, relative or absolute; an argument that matches nothing stands
for itself.
-/

namespace LineShell

/-- The mark of an argument that stands for paths. -/
def star : Char := '*'

namespace Glob

/-- Puts a segment behind what is shown so far. -/
def joinShown (shown segment : Text) : Text :=
  if shown = [] then segment
  else if shown.getLast? = some '/' then shown ++ segment
  else shown ++ '/' :: segment

/-- The names in the directory at a path that a segment matches, in their order; none when it cannot
be listed. A name that is no text is not matched. -/
def matchingNames (files : Files) (dir : Path) (segment : Text) : List Text :=
  match ofSegment? segment, files.entries dir with
  | some g, .ok entries => (entries.names.filterMap Utf8.decode?).filter g.matchesName
  | _, _ => []

/-- The paths that the segments lead to from the directory `dir`, which is shown as `shown`. -/
def walk (files : Files) : List Text → Path → Text → List Text
  | [], _, shown => [shown]
  | segment :: rest, dir, shown =>
    if segment = [] then walk files rest dir shown
    else if star ∈ segment then
      (matchingNames files dir segment).flatMap fun name ↦
        walk files rest (Path.resolve dir (Path.ofText name)) (joinShown shown name)
    else walk files rest (Path.resolve dir (Path.ofText segment)) (joinShown shown segment)

/-- What an argument stands for in the directory `dir`. -/
def expand (files : Files) (dir : Path) (token : Text) : List Text :=
  let found := match token with
    | '/' :: rest => walk files (Text.pieces '/' rest) [Path.slash] ['/']
    | _ => walk files (Text.pieces '/' token) dir []
  if found = [] then [token] else found

/-- The arguments with every one that has a star expanded, but for the one at the index `kept`. -/
def expandArguments (files : Files) (dir : Path) (kept : Option Nat) (args : List Text) :
    List Text :=
  args.zipIdx.flatMap fun (arg, i) ↦
    if some i = kept ∨ star ∉ arg then [arg] else expand files dir arg

end Glob

end LineShell
