import LineShell.Application.All
import LineShell.Shell.Evaluation

/-!
# Sessions

A **shell** is what lasts from line to line: the environment, the files, the error channel, the
applications and the limit of substitution. A line runs to a result, or is evaluated to an exit
code with its error on the error channel.

An interactive session shows the working directory before each line, records every line that is not
blank, and evaluates it. It ends with its input, or at a line that is no text.
-/

namespace LineShell

/-- What lasts from line to line. -/
structure Shell where
  env : Environment
  files : Files
  errors : Sink := .fresh
  registry : Registry := .standard
  /-- How deep commands in back-quotes may nest. -/
  limit : Nat := 64
  /-- How deep they are nested now. -/
  depth : Nat := 0

/-- What became of a line. -/
structure Ran where
  result : Except ShellError Unit
  shell : Shell
  /-- What the line left of its input. -/
  input : Option Source
  output : Sink
  /-- What was done, in order. -/
  log : List Note

namespace Shell

/-- The sink that an output is. -/
def sinkOf : Output → Sink
  | .sink s => s
  | .file _ => .fresh

/-- Runs a line with the given input and output. -/
def run (sh : Shell) (line : Text) (input : Option Source) (output : Sink) : Ran :=
  let start : Machine := ⟨⟨sh.env, sh.files, input, .sink output⟩, sh.errors, sh.depth, []⟩
  let (result, m) := (Eval.line sh.registry sh.limit (sh.limit - sh.depth) line).run.run start
  { result
    shell := { sh with
      env := m.world.env, files := m.world.files, errors := m.errors, depth := m.depth }
    input := m.world.input
    output := sinkOf m.world.output
    log := m.log.reverse }

/-- Writes a text to the error channel, if it accepts it. -/
def complain (sh : Shell) (t : Text) : Shell :=
  match sh.errors.write t.encode with
  | .ok errors => { sh with errors }
  | .error _ => sh

/-- Shows an error on the error channel, if it accepts it. -/
def showError (sh : Shell) (e : ShellError) : Shell := sh.complain (e.message ++ [Text.newline])

/-- The exit code of a line that succeeds. -/
def success : Nat := 0

/-- The exit code of a line that fails. -/
def failure : Nat := 1

/-- Evaluates a line that nothing feeds: the exit code, the shell and the output after it. -/
def eval (sh : Shell) (line : Text) (output : Sink) : Nat × Shell × Sink :=
  let ran := sh.run line none output
  match ran.result with
  | .ok () => (success, ran.shell, ran.output)
  | .error e => (failure, ran.shell.showError e, ran.output)

/-! ### Interactive sessions -/

/-- What is shown before a line is read. -/
def prompt (sh : Shell) : Text := sh.env.workingDir.toText ++ [' ']

/-- Records a line and evaluates it; a blank line is passed over. -/
def enter (sh : Shell) (line : Text) (screen : Sink) : Shell × Sink :=
  if line.isBlank then (sh, screen)
  else (({ sh with env := sh.env.push line } : Shell).eval line screen).2

/-- How an interactive session ends. -/
structure Ended where
  /-- Whether all of the input was text. -/
  complete : Bool
  shell : Shell
  screen : Sink

/-- Writes a text to a screen, which refuses nothing. -/
def display (screen : Sink) (t : Text) : Sink :=
  { screen with buffer := (screen.buffer.write t.encode).2 }

/-- Runs an interactive session over lines, each with its line end. -/
def interact (sh : Shell) (screen : Sink) : List Bytes → Ended
  | [] => ⟨true, sh, display screen sh.prompt⟩
  | line :: rest =>
    let screen := display screen sh.prompt
    match Utf8.decode? line with
    | none => ⟨false, sh, screen⟩
    | some t =>
      let (sh, screen) := sh.enter (t.lines.head?.getD []) screen
      interact sh screen rest

/-- The lines of a byte string, each with its line feed, the last one perhaps without; `line` holds
the bytes of the present line, last one first. -/
def rawLinesFrom (line : Bytes) : Bytes → List Bytes
  | [] => if line.isEmpty then [] else [line.reverse]
  | b :: rest =>
    if b = Source.lineFeed then (b :: line).reverse :: rawLinesFrom [] rest
    else rawLinesFrom (b :: line) rest

/-- The lines of a byte string, each with its line feed. -/
def rawLines (bytes : Bytes) : List Bytes := rawLinesFrom [] bytes

/-- Runs an interactive session over the whole input. -/
def repl (sh : Shell) (input : Bytes) : Ended := sh.interact .fresh (rawLines input)

end Shell

end LineShell
