import LineShell.Application.Basic

/-!
# Finding files

`find` shows the files below a directory whose names match a glob pattern, each entry before the
entries in it. It goes into directories but not through links, and it shows files only. A path is
shown as the directory that was named, with the names on the way behind it.
-/

namespace LineShell.Application

/-- The name of `find`. -/
def findName : Text := "find".toList

/-- What is shown of an entry with the given name in a directory that is shown as `shown`. -/
def shownBelow (shown name : Text) : Text :=
  (shown.reverse.dropWhile (· == '/')).reverse ++ '/' :: name

mutual

/-- Searches an entry that is shown as `shown`: a directory is searched through, a file is shown if
`wanted` holds. -/
def searchNode (g : Glob) (path : Path) (shown : Text) (wanted : Bool) : Node → Act Unit
  | .file _ => if wanted then Act.writeLine findName shown else pure ()
  | .link _ => pure ()
  | .dir entries =>
    if Files.maxPath < path.length then throw (.path findName (.os shown .nameTooLong))
    else searchEntries g path shown entries

/-- Searches the entries of the directory at a path, which is shown as `shown`. -/
def searchEntries (g : Glob) (path : Path) (shown : Text) : Entries → Act Unit
  | .nil => pure ()
  | .cons name node rest => do
    let text := Path.toText name
    searchNode g (Path.resolve path name) (shownBelow shown text) (g.matchesName text) node
    searchEntries g path shown rest

end

/-- Searches the directory that is named `root`. -/
def searchRoot (root flag pattern : Text) : Act Unit := do
  if flag ≠ "-name".toList then Act.failArgument findName (.invalidArgument flag)
  let w ← get
  match w.files.entries (w.env.resolve root) with
  | .error _ => throw (.path findName (.cannotSearch root))
  | .ok entries =>
    match Glob.read pattern with
    | .error f => throw (.pattern findName (.glob f))
    | .ok g => searchEntries g (w.env.resolve root) root entries

/-- Shows the files whose names match a pattern. Its last argument is the pattern. -/
def find : Application where
  name := findName
  patternIndex := fun arguments ↦ if arguments.isEmpty then none else some (arguments.length - 1)
  run
    | [] => Act.failArgument findName .missingArguments
    | [_] => Act.failArgument findName .missingArguments
    | [flag, pattern] => searchRoot ['.'] flag pattern
    | [root, flag, pattern] => searchRoot root flag pattern
    | _ => Act.failArgument findName .tooManyArguments

end LineShell.Application
