import LineShell.Application.Basic

/-!
# Directories

`pwd` shows the working directory, `cd` changes it, and `ls` lists a directory on one line. The
working directory is always canonical: `cd` goes to an existing directory and follows every link on
the way.
-/

namespace LineShell.Application

/-! ### The working directory -/

/-- The name of `pwd`. -/
def pwdName : Text := "pwd".toList

/-- Shows the working directory. -/
def pwd : Application :=
  .ofUsage pwdName ⟨"Print the current working directory to standard output.".toList, [], []⟩
    (fun _ ↦ none) fun _ ↦ do Act.writeLine pwdName (← get).env.workingDir.toText

/-- The name of `cd`. -/
def cdName : Text := "cd".toList

/-- The usage of `cd`. -/
def cdUsage : Usage where
  purpose := ("Change the current working directory. If no target is provided, changes to the " ++
    "home directory captured at start-up.").toList
  operands := [{
    name := "target".toList
    kind := .optional
    purpose := "directory to switch to; absolute or relative to the current directory.".toList }]

/-- The path of the home directory; an empty one leads nowhere. -/
def homePath (env : Environment) (home : Path) : Path :=
  if home = [] then [] else Path.resolve env.homeBase home

/-- Makes the directory at a path the working directory; `shown` is the path as the user knows
it. -/
def changeTo (shown : Text) (path : Path) : Act Unit := do
  let w ← get
  if !w.files.isDirectory path then throw (.path cdName (.notDirectory shown))
  match w.files.canonical path with
  | .ok dir => set { w with env := { w.env with workingDir := dir } }
  | .error e => throw (.path cdName (.os shown e))

/-- Changes the working directory. -/
def cd : Application :=
  .ofUsage cdName cdUsage (fun _ ↦ none) fun given ↦ do
    let env := (← get).env
    match given.texts, env.home with
    | target :: _, _ => changeTo target (env.resolve target)
    | [], some home => changeTo home.toText (homePath env home)
    | [], none => Act.failArgument cdName .missingArgument

/-! ### Listing -/

/-- The name of `ls`. -/
def lsName : Text := "ls".toList

/-- The usage of `ls`. -/
def lsUsage : Usage where
  purpose := "List the non-hidden entries of a directory on one tab-separated line.".toList
  operands := [{
    name := "path".toList
    kind := .optional
    purpose := "directory to list; defaults to the working directory.".toList }]

/-- The names that a listing shows: those that do not begin with a dot. -/
def shownNames (entries : Entries) : List Text :=
  (entries.names.map Path.toText).filter fun name ↦ name.head? != some '.'

/-- Lists a directory. -/
def ls : Application :=
  .ofUsage lsName lsUsage (fun _ ↦ none) fun given ↦ do
    let w ← get
    let shown := given.texts.head?.getD ['.']
    match w.files.entries (w.env.resolve shown) with
    | .error e => throw (.path lsName (.os shown e))
    | .ok entries =>
      let names := shownNames entries
      if !names.isEmpty then Act.writeLine lsName (Text.join ['\t'] names)

end LineShell.Application
