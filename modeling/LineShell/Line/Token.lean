import LineShell.Line.Quoting
import LineShell.Text.Blank

/-!
# Tokens of a call

The text of a call is a list of **tokens**: words, and the markers `<` and `>` where they stand
outside quotes. A word is a list of **parts**, literal text and commands to substitute, the
adjacent quoted and unquoted segments of it joined. Nothing runs here: a back-quoted command is
kept as its text.

The scanner is a machine that takes one character at a time. It builds lists with the last element
first and turns them round when a part, a word or the call ends.
-/

namespace LineShell

/-- A part of a word. -/
inductive Part where
  /-- Text that stands for itself. -/
  | literal (text : Text)
  /-- The command between two back-quotes; its output is put in its place. -/
  | command (text : Text)
  deriving DecidableEq, Repr

/-- The redirection markers. -/
inductive Marker where
  /-- `<`: the next word names the file to read. -/
  | input
  /-- `>`: the next word names the file to write. -/
  | output
  deriving DecidableEq, Repr

/-- The marker as it is written. -/
def Marker.char : Marker → Char
  | input => '<'
  | output => '>'

/-- A token of a call. -/
inductive Token where
  | word (parts : List Part)
  | marker (m : Marker)
  deriving DecidableEq, Repr

/-- What the scanner is reading. -/
inductive Scanner.Mode where
  /-- Between words. -/
  | gap
  /-- A word, outside quotes. -/
  | word
  /-- A single-quoted segment of a word. -/
  | single
  /-- A double-quoted segment of a word. -/
  | double
  /-- A command in back-quotes. -/
  | back
  /-- A command in back-quotes inside a double-quoted segment. -/
  | doubleBack
  deriving DecidableEq, Repr

/-- The state of the scanner; every list holds its last element first. -/
structure Scanner where
  mode : Scanner.Mode
  /-- The characters of the segment or command being read. -/
  buffer : Text
  /-- The finished parts of the word being read. -/
  parts : List Part
  /-- The finished tokens. -/
  tokens : List Token
  deriving DecidableEq, Repr

namespace Scanner

/-- The scanner before the first character. -/
def start : Scanner := ⟨.gap, [], [], []⟩

/-- Takes a character into the segment or command being read. -/
def push (s : Scanner) (c : Char) : Scanner := { s with buffer := c :: s.buffer }

/-- Ends a literal part; an empty one leaves no trace. -/
def endLiteral (s : Scanner) : Scanner :=
  if s.buffer = [] then s
  else { s with buffer := [], parts := .literal s.buffer.reverse :: s.parts }

/-- Ends a command. -/
def endCommand (s : Scanner) : Scanner :=
  { s with buffer := [], parts := .command s.buffer.reverse :: s.parts }

/-- Ends a word. A word of empty quotes alone is the empty word, and still a word. -/
def endWord (s : Scanner) : Scanner :=
  let s := s.endLiteral
  let parts := if s.parts = [] then [.literal []] else s.parts.reverse
  { s with parts := [], tokens := .word parts :: s.tokens }

/-- Notes a marker. -/
def mark (s : Scanner) (m : Marker) : Scanner := { s with tokens := .marker m :: s.tokens }

/-- Goes on in another mode. -/
def inMode (s : Scanner) (mode : Mode) : Scanner := { s with mode }

@[simp]
theorem push_mode (s : Scanner) (c : Char) : (s.push c).mode = s.mode := rfl

@[simp]
theorem endLiteral_mode (s : Scanner) : s.endLiteral.mode = s.mode := by
  unfold endLiteral
  split <;> rfl

@[simp]
theorem endWord_mode (s : Scanner) : s.endWord.mode = s.mode := endLiteral_mode s

@[simp]
theorem mark_mode (s : Scanner) (m : Marker) : (s.mark m).mode = s.mode := rfl

@[simp]
theorem inMode_mode (s : Scanner) (mode : Mode) : (s.inMode mode).mode = mode := rfl

/-- Takes one character. -/
def step (s : Scanner) (c : Char) : Scanner :=
  match s.mode with
  | .gap =>
    if isBlankChar c then s
    else if c = '<' then s.mark .input
    else if c = '>' then s.mark .output
    else if c = '\'' then s.inMode .single
    else if c = '"' then s.inMode .double
    else if c = '`' then s.inMode .back
    else (s.push c).inMode .word
  | .word =>
    if isBlankChar c then s.endWord.inMode .gap
    else if c = '<' then (s.endWord.mark .input).inMode .gap
    else if c = '>' then (s.endWord.mark .output).inMode .gap
    else if c = '\'' then s.inMode .single
    else if c = '"' then s.inMode .double
    else if c = '`' then s.endLiteral.inMode .back
    else s.push c
  | .single => if c = '\'' then s.inMode .word else s.push c
  | .double =>
    if c = '"' then s.inMode .word
    else if c = '`' then s.endLiteral.inMode .doubleBack
    else s.push c
  | .back => if c = '`' then s.endCommand.inMode .word else s.push c
  | .doubleBack => if c = '`' then s.endCommand.inMode .double else s.push c

/-- Takes the characters of a text in order. -/
def scan (s : Scanner) (t : Text) : Scanner := t.foldl step s

/-- The tokens once the text has ended, or the mark of the region left open. -/
def finish (s : Scanner) : Except Delimiter (List Token) :=
  match s.mode with
  | .gap => .ok s.tokens.reverse
  | .word => .ok s.endWord.tokens.reverse
  | .single => .error .single
  | .double => .error .double
  | .back => .error .back
  | .doubleBack => .error .back

end Scanner

/-- The tokens of the text of a call, or the mark of the region left open. -/
def Token.read (text : Text) : Except Delimiter (List Token) := (Scanner.start.scan text).finish

end LineShell
