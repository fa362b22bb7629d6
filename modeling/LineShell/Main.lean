import LineShell.Shell.CommandLine

/-!
# The program

Reads the command line and talks to the standard streams. The files of a session are kept in memory:
it starts with an empty root directory.
-/

namespace LineShell

namespace Program

/-- The shell that the program starts with. -/
def start : Shell where
  env := .starting .empty [Path.slash]
  files := .empty

/-- Writes what a sink holds to a stream. -/
def emit (stream : IO.FS.Stream) (s : Sink) : IO Unit := do
  stream.write ⟨s.bytes.toArray⟩
  stream.flush

/-- Runs an interactive session to the end of the input. -/
partial def converse (sh : Shell) : IO UInt32 := do
  emit (← IO.getStdout) (Shell.display .fresh sh.prompt)
  let line ← (← IO.getStdin).getLine
  if line.isEmpty then return 0
  let (sh, screen) := sh.enter ((Text.lines line.toList).head?.getD []) .fresh
  emit (← IO.getStdout) screen
  emit (← IO.getStderr) sh.errors
  converse { sh with errors := .fresh }

/-- Runs the program with its arguments. -/
def run (arguments : List String) : IO UInt32 := do
  match CommandLine.taskOf CommandLine.usualName (arguments.map String.toList) with
  | .interact => converse start
  | task =>
    let finished := CommandLine.perform task start []
    emit (← IO.getStdout) finished.output
    emit (← IO.getStderr) finished.shell.errors
    return finished.code.toUInt32

end Program

end LineShell

/-- Runs the program; what goes wrong with its streams is its last message. -/
def main (arguments : List String) : IO UInt32 := do
  try LineShell.Program.run arguments
  catch e =>
    IO.eprintln (String.ofList LineShell.CommandLine.usualName ++ ": " ++ toString e)
    return 1
