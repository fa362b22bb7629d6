import LineShell.Application.Registry
import LineShell.Glob.Expansion
import LineShell.Line.Tree

/-!
# Evaluation

A line is cut into its tree, and the tree is evaluated from left to right; the first error ends the
line. Of a pipe, what the left side writes becomes the input of the right side.

A call is cut into tokens. Its words are put together in text order, each command in back-quotes
being evaluated where it stands; what it prints is never looked at again for blanks, quotes or
markers. Only then are the files of its redirections opened, the one to read first. A marker without
a word behind it is a word itself.

Commands in back-quotes are evaluated like lines, with nothing feeding them. How deep they may nest
is bounded: the machine counts the commands that it is inside of, and one too many is refused. So
evaluation recurses on the levels that are left.

The machine also keeps a log of what it does. Nothing reads it while a line is evaluated; it shows
which calls ran, in which order and how deep.
-/

namespace LineShell

/-- What evaluation puts into the log. -/
inductive Event where
  /-- A line was cut into its tree. -/
  | line (t : Tree)
  /-- A call was cut into its tokens. -/
  | call (text : Text) (tokens : List Token)
  /-- An application is run. -/
  | application (name : Text) (arguments : List Text) (policy : FailurePolicy)
  /-- A command in back-quotes is entered. -/
  | substitution (command : Text)
  /-- An error is reported and passed over. -/
  | failure (e : ShellError)
  deriving DecidableEq, Repr

/-- An entry of the log: what was done, and inside how many commands in back-quotes. -/
structure Note where
  depth : Nat
  event : Event
  deriving DecidableEq, Repr

/-- What evaluation works on: a world, the error channel, the number of commands in back-quotes that
are being evaluated, and the log. -/
structure Machine where
  world : World
  errors : Sink
  depth : Nat := 0
  /-- The entries of the log, the last one first. -/
  log : List Note := []

/-- A step of evaluation, which may fail; the machine that a failure leaves is kept. -/
abbrev Eval := ExceptT ShellError (StateM Machine)

namespace Eval

/-- Runs an application, which cannot reach the error channel. -/
def ofAct {α : Type} (act : Act α) : Eval α := fun m ↦
  let (result, world) := act.run.run m.world
  (result, { m with world })

/-- Adds an entry to the log. -/
def note (e : Event) : Eval Unit := modify fun m ↦ { m with log := ⟨m.depth, e⟩ :: m.log }

/-- Writes an error to the error channel; when that fails, the step fails in the name of `app`. -/
def report (app : Text) (e : ShellError) : Eval Unit := do
  note (.failure e)
  let m ← get
  match m.errors.write (e.message ++ [Text.newline]).encode with
  | .ok errors => set { m with errors }
  | .error f => throw (.stream app f)

/-- The result of a step instead of its failure. -/
def attempt {α : Type} (step : Eval α) : Eval (Except ShellError α) := fun m ↦
  let (result, m) := step.run.run m
  (.ok result, m)

/-- The step that has the given result. -/
def ofResult {α : Type} (result : Except ShellError α) : Eval α := ExceptT.mk (pure result)

/-! ### Streams -/

/-- Evaluates a step that the given source feeds, if there is one. -/
def fedBy {α : Type} (source : Option Source) (step : Eval α) : Eval α := fun m ↦
  let (result, after) := step.run.run { m with world := { m.world with input := source } }
  (result, { after with world := { after.world with input := m.world.input } })

/-- Evaluates a step whose output goes elsewhere; gives its result and what the output became. -/
def writingTo (output : Output) (step : Eval Unit) : Eval (Except ShellError Unit × Output) :=
  fun m ↦
    let (result, after) := step.run.run { m with world := { m.world with output } }
    (.ok (result, after.world.output),
      { after with world := { after.world with output := m.world.output } })

/-- The bytes that were written to an output that is no file. -/
def written : Output → Bytes
  | .sink s => s.bytes
  | .file _ => []

/-- Evaluates a step and gives what it wrote. -/
def intoBuffer (step : Eval Unit) : Eval Bytes := do
  let (result, output) ← writingTo (.sink .fresh) step
  ofResult result
  return written output

end Eval

/-! ### Calls -/

/-- What the words of a call are for. -/
inductive Role where
  | argument
  | redirection (m : Marker)
  deriving DecidableEq, Repr

/-- A word of a call with its role. -/
structure Slot where
  role : Role
  parts : List Part
  deriving DecidableEq, Repr

/-- The words of a call: the word behind a marker is its target, and a marker without one is a word
itself. -/
def slotsOf : List Token → List Slot
  | [] => []
  | .word parts :: rest => ⟨.argument, parts⟩ :: slotsOf rest
  | .marker m :: .word parts :: rest => ⟨.redirection m, parts⟩ :: slotsOf rest
  | .marker m :: rest => ⟨.argument, [.literal [m.char]]⟩ :: slotsOf rest

/-- Refuses a call that has a marker more than once. -/
def checkMarkers (tokens : List Token) : Except ShellError Unit :=
  if 1 < tokens.count (.marker .input) then .error (.redirection .input)
  else if 1 < tokens.count (.marker .output) then .error (.redirection .output)
  else .ok ()

/-- The words of a call when all its parts are put together. -/
structure Words where
  arguments : List Text
  inputs : List Text
  outputs : List Text
  deriving DecidableEq, Repr

/-- Adds a word in front of the others. -/
def Words.cons (role : Role) (word : Text) (ws : Words) : Words :=
  match role with
  | .argument => { ws with arguments := word :: ws.arguments }
  | .redirection .input => { ws with inputs := word :: ws.inputs }
  | .redirection .output => { ws with outputs := word :: ws.outputs }

/-- The name in which redirections fail. -/
def redirectionName : Text := "redirection".toList

namespace Eval

/-- Puts a word together. -/
def wordOf (substitute : Text → Eval Text) : List Part → Eval Text
  | [] => pure []
  | .literal t :: rest => do return t ++ (← wordOf substitute rest)
  | .command c :: rest => do
    let t ← substitute c
    return t ++ (← wordOf substitute rest)

/-- Puts the words of a call together, in text order. -/
def wordsOf (substitute : Text → Eval Text) : List Slot → Eval Words
  | [] => pure ⟨[], [], []⟩
  | slot :: rest => do
    let word ← wordOf substitute slot.parts
    return (← wordsOf substitute rest).cons slot.role word

/-- Looks an application up, expands its arguments and runs it. -/
def dispatch (registry : Registry) : List Text → Eval Unit
  | [] => pure ()
  | command :: arguments => do
    let (app, policy) ← ofResult (registry.resolve command)
    let w := (← get).world
    let arguments :=
      Glob.expandArguments w.files w.env.workingDir (app.patternIndex arguments) arguments
    note (.application app.name arguments policy)
    match policy, ← attempt (ofAct (app.run arguments)) with
    | _, .ok () => pure ()
    | .endLine, .error e => throw e
    | .report, .error e => report "unsafe".toList e

/-- The location of the entry that the target of `<` leads to. -/
def openInput (target : Text) : Eval Location := do
  let w := (← get).world
  match w.files.find (w.env.resolve target) with
  | .ok loc => return loc
  | .error e => throw (.path redirectionName (.os target e))

/-- Makes the file that the target of `>` leads to, or empties it. -/
def openOutput (target : Text) : Eval Location := do
  let m ← get
  match m.world.files.create (m.world.env.resolve target) with
  | .ok (files, loc) =>
    set { m with world := { m.world with files } }
    return loc
  | .error e => throw (.path redirectionName (.os target e))

/-- What is read from the entry at a location. -/
def sourceAt (files : Files) (loc : Location) : Source :=
  match files.root.at? loc with
  | some (.file content) => .bytes content
  | _ => .refusing (.os .isDirectory)

/-- Opens the files of the redirections of a call and evaluates it with them. -/
def redirected (ws : Words) (call : Eval Unit) : Eval Unit := do
  let input ← ws.inputs.head?.mapM openInput
  let output ← ws.outputs.head?.mapM openOutput
  let files := (← get).world.files
  let call := match input with
    | none => call
    | some loc => fedBy (some (sourceAt files loc)) call
  match output with
  | none => call
  | some loc => do
    let (result, _) ← writingTo (.file loc) call
    ofResult result

/-- Evaluates the tokens of a call. -/
def tokens (registry : Registry) (substitute : Text → Eval Text) (ts : List Token) : Eval Unit := do
  ofResult (checkMarkers ts)
  let ws ← wordsOf substitute (slotsOf ts)
  redirected ws (dispatch registry ws.arguments)

/-- Evaluates a call. -/
def call (registry : Registry) (substitute : Text → Eval Text) (text : Text) : Eval Unit := do
  match Token.read text with
  | .error d => throw (.unterminated d)
  | .ok ts =>
    note (.call text ts)
    tokens registry substitute ts

/-- Evaluates a tree. -/
def tree (registry : Registry) (substitute : Text → Eval Text) : Tree → Eval Unit
  | .call text => call registry substitute text
  | .seq left right => do
    tree registry substitute left
    tree registry substitute right
  | .pipe left right => do
    let bytes ← intoBuffer (tree registry substitute left)
    fedBy (some (.bytes bytes)) (tree registry substitute right)

/-- Evaluates a line. -/
def lineWith (registry : Registry) (substitute : Text → Eval Text) (line : Text) : Eval Unit :=
  match Tree.parse line with
  | .error d => throw (.unterminated d)
  | .ok t => do
    note (.line t)
    tree registry substitute t

/-! ### Substitution -/

/-- A text without the line feed at its end, and without the carriage return before that. -/
def withoutLineEnd (t : Text) : Text :=
  if t.getLast? = some Text.newline then Text.stripReturn t.dropLast else t

/-- Evaluates a command whose output is kept. An error is reported, and what was written before it
is kept. -/
def captured (command : Eval Unit) : Eval Text := do
  let (result, output) ← writingTo (.sink .fresh) (fedBy none command)
  match result with
  | .ok () => pure ()
  | .error e => report "substitution".toList e
  return withoutLineEnd (Utf8.decodeLossy (written output))

/-- Evaluates a command one level deeper, unless the limit is reached. The level is left again, by
a failure too. -/
def nested (limit : Nat) (line : Text → Eval Unit) (command : Text) : Eval Unit := do
  let m ← get
  if limit ≤ m.depth then throw (.depth limit)
  set { m with depth := m.depth + 1 }
  note (.substitution command)
  let result ← attempt (line command)
  modify fun m ↦ { m with depth := m.depth - 1 }
  ofResult result

/-- What is put in the place of a command in back-quotes. -/
def substitute (limit : Nat) (line : Text → Eval Unit) (command : Text) : Eval Text :=
  captured (nested limit line command)

/-- Evaluates a line where `levels` more levels of commands in back-quotes are below the limit; on
the last one every command is refused, so nothing is left to evaluate it. -/
def line (registry : Registry) (limit : Nat) : Nat → Text → Eval Unit
  | 0 => lineWith registry (substitute limit fun _ ↦ throw (.depth limit))
  | levels + 1 => lineWith registry (substitute limit (line registry limit levels))

end Eval

end LineShell
