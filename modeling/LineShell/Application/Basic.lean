import LineShell.Options.Help
import LineShell.Shell.Environment
import LineShell.Shell.Error
import LineShell.Stream.Sink

/-!
# Applications

An application runs in a **world**: the environment, the files, the input that feeds it, if any, and
the place that its output goes to. It may change the world and it may fail; what it did before it
failed stays done. It cannot reach the error channel of the shell.
-/

namespace LineShell

/-- Where output goes. -/
inductive Output where
  | sink (s : Sink)
  /-- Behind what the file at a location holds. -/
  | file (loc : Location)

/-- What an application works on. -/
structure World where
  env : Environment
  files : Files
  input : Option Source
  output : Output

/-- An action in a world, which may fail; the world that a failure leaves is kept. -/
abbrev Act := ExceptT ShellError (StateM World)

namespace Act

/-- Fails because of the arguments. -/
def failArgument {α : Type} (app : Text) (f : ArgumentFault) : Act α := throw (.argument app f)

/-- Writes a text to the output. -/
def write (app t : Text) : Act Unit := do
  let w ← get
  match w.output with
  | .sink s =>
    match s.write t.encode with
    | .ok s => set { w with output := .sink s }
    | .error f => throw (.stream app f)
  | .file loc => set { w with files := w.files.append loc t.encode }

/-- Writes a line to the output. -/
def writeLine (app line : Text) : Act Unit := write app (line ++ [Text.newline])

/-- Writes lines to the output. -/
def writeLines (app : Text) (lines : List Text) : Act Unit := write app (Text.unlines lines)

/-- The content of the file that a path leads to. -/
def openFile (app path : Text) : Act Source := do
  let w ← get
  match w.files.read (w.env.resolve path) with
  | .ok (.file content) => return .bytes content
  | .ok _ => throw (.path app (.isDirectory path))
  | .error e => throw (.path app (.os path e))

/-- The result of reading from a source. -/
def ofReading {α : Type} (app : Text) : Except StreamFault α → Act α
  | .ok a => pure a
  | .error f => throw (.stream app f)

/-- Reads from the input, which there must be. -/
def readInput {α : Type} (app : Text) (reading : Source → Except StreamFault α × Source) :
    Act α := do
  let w ← get
  match w.input with
  | none => failArgument app .missingInput
  | some s =>
    let (result, s) := reading s
    set { w with input := some s }
    ofReading app result

/-- The lines of a file. -/
def fileLines (app path : Text) : Act (List Text) := do
  ofReading app (← openFile app path).readLines.1

/-- The lines of the file, if one is named, and otherwise of the input. -/
def linesOf (app : Text) : Option Text → Act (List Text)
  | some path => fileLines app path
  | none => readInput app Source.readLines

end Act

/-- An application. -/
structure Application where
  /-- The name that calls it, in lower case. -/
  name : Text
  /-- The index of the argument that is a pattern of its own and is not expanded. -/
  patternIndex : List Text → Option Nat := fun _ ↦ none
  /-- Runs the application with its arguments. -/
  run : List Text → Act Unit

/-- The application whose arguments are read according to a usage; asked for help it writes it. -/
def Application.ofUsage (name : Text) (usage : Usage) (patternIndex : List Text → Option Nat)
    (body : Given → Act Unit) : Application where
  name := name
  patternIndex := patternIndex
  run := fun arguments ↦
    match usage.read arguments with
    | .ok .help => Act.write name (usage.help name)
    | .ok (.run given) => body given
    | .error f => Act.failArgument name (.usage f)

end LineShell
