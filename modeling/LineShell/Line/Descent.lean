import LineShell.Line.Tree

/-!
# Recursive descent

A second way to read a line, in two steps. First the line is split at the separators outside quotes
into **pieces**, texts and separators in turn; then the tree is built by descent over the pieces: a
sequence is commands with semicolons between them, a command is calls with bars between them, a call
is a text. The descent can come upon a piece that it does not expect, at three places: where a call
should begin, at the end of the pieces, and behind the whole sequence.
-/

namespace LineShell

/-- A piece of a line. -/
inductive Piece where
  | text (t : Text)
  | semicolon
  | bar
  deriving DecidableEq, Repr

/-- Why the descent refuses a line. -/
inductive LineFault where
  /-- A quote that is not closed. -/
  | unterminated (d : Delimiter)
  /-- A piece that cannot stand where it stands. -/
  | unexpected (piece : Piece)
  /-- The line ends where a call should begin. -/
  | unexpectedEnd
  deriving DecidableEq, Repr

/-! ### Splitting -/

/-- The piece that a character is outside quotes, if it is a separator. -/
def Piece.ofSeparator? (c : Char) : Option Piece :=
  if c = ';' then some semicolon else if c = '|' then some bar else none

/-- A line that is split up to some place; both lists hold their last element first. -/
structure Splitter where
  quoting : Quoting
  /-- The characters since the last separator. -/
  text : Text
  /-- The pieces up to the last separator. -/
  pieces : List Piece
  deriving DecidableEq, Repr

namespace Splitter

/-- The splitter before the first character. -/
def start : Splitter := ⟨.plain, [], []⟩

/-- Takes one character. -/
def step (s : Splitter) (c : Char) : Splitter :=
  match s.quoting, Piece.ofSeparator? c with
  | .plain, some separator => ⟨.plain, [], separator :: .text s.text.reverse :: s.pieces⟩
  | quoting, _ => ⟨quoting.step c, c :: s.text, s.pieces⟩

/-- Takes the characters of a text in order. -/
def scan (s : Splitter) (t : Text) : Splitter := t.foldl step s

/-- All pieces, the text at the end among them. -/
def allPieces (s : Splitter) : List Piece := (.text s.text.reverse :: s.pieces).reverse

end Splitter

namespace Descent

/-- The pieces of a line. -/
def split (line : Text) : Except LineFault (List Piece) :=
  let s := Splitter.start.scan line
  match s.quoting.openMark with
  | some d => .error (.unterminated d)
  | none => .ok s.allPieces

/-! ### Building -/

/-- Reads a call; gives its tree and the pieces behind it. -/
def call : List Piece → Except LineFault (Tree × List Piece)
  | .text t :: rest => .ok (.call t, rest)
  | piece :: _ => .error (.unexpected piece)
  | [] => .error .unexpectedEnd

theorem length_lt_of_call {pieces rest : List Piece} {t : Tree}
    (h : call pieces = .ok (t, rest)) : rest.length < pieces.length := by
  unfold call at h
  split at h
  · obtain ⟨-, rfl⟩ := Prod.mk.inj (Except.ok.inj h)
    exact Nat.lt_succ_self _
  · cases h
  · cases h

/-- Reads the calls that a command goes on with. -/
def pipes (left : Tree) : List Piece → Except LineFault (Tree × List Piece)
  | .bar :: pieces =>
    match _hcall : call pieces with
    | .ok (right, rest) => pipes (.pipe left right) rest
    | .error e => .error e
  | pieces => .ok (left, pieces)
termination_by pieces => pieces.length
decreasing_by exact Nat.lt_succ_of_lt (length_lt_of_call _hcall)

/-- Reads a command. -/
def command (pieces : List Piece) : Except LineFault (Tree × List Piece) := do
  let (left, rest) ← call pieces
  pipes left rest

theorem length_le_of_pipes {left t : Tree} {pieces rest : List Piece}
    (h : pipes left pieces = .ok (t, rest)) : rest.length ≤ pieces.length := by
  fun_induction pipes left pieces with
  | case1 left pieces right more hcall ih =>
    have hlt := length_lt_of_call hcall
    exact Nat.le_succ_of_le (Nat.le_trans (ih h) (Nat.le_of_lt hlt))
  | case2 left pieces e hcall => cases h
  | case3 left pieces hne =>
    obtain ⟨-, rfl⟩ := Prod.mk.inj (Except.ok.inj h)
    exact Nat.le_refl _

theorem length_lt_of_command {pieces rest : List Piece} {t : Tree}
    (h : command pieces = .ok (t, rest)) : rest.length < pieces.length := by
  rw [command] at h
  rcases hcall : call pieces with e | ⟨left, more⟩ <;> rw [hcall] at h
  · cases h
  · exact Nat.lt_of_le_of_lt (length_le_of_pipes h) (length_lt_of_call hcall)

/-- Reads the commands that a sequence goes on with. -/
def sequels (left : Tree) : List Piece → Except LineFault (Tree × List Piece)
  | .semicolon :: pieces =>
    match _hcommand : command pieces with
    | .ok (right, rest) => sequels (.seq left right) rest
    | .error e => .error e
  | pieces => .ok (left, pieces)
termination_by pieces => pieces.length
decreasing_by exact Nat.lt_succ_of_lt (length_lt_of_command _hcommand)

/-- Reads a sequence. -/
def sequence (pieces : List Piece) : Except LineFault (Tree × List Piece) := do
  let (left, rest) ← command pieces
  sequels left rest

/-- The tree of all the pieces. -/
def build (pieces : List Piece) : Except LineFault Tree := do
  let (t, rest) ← sequence pieces
  match rest with
  | [] => return t
  | piece :: _ => throw (.unexpected piece)

/-- The tree of a line. -/
def parse (line : Text) : Except LineFault Tree := do build (← split line)

end Descent

end LineShell
