import LineShell.Line.Descent
import LineShell.Proofs.Line.Canonical

/-!
# The descent finds the tree of a line

The descent over the pieces of a line and the cut at the last separator read a line alike
(`Descent.parse_eq`). So a line whose quotes are closed never surprises the descent.

What the descent rests on is that texts and separators take turns in the pieces. This is used in the
form that the pieces of two texts with a separator between them are those of the one, the separator
and those of the other (`Splitter.allPieces_append_cons`). By induction on the last separator the
descent has then read the pieces of a command, or of a line, as its tree, whatever comes behind
(`Descent.command_append`, `Descent.sequence_append`).
-/

namespace LineShell

variable {s t u : Text} {sep : Char} {piece : Piece}

namespace Splitter

/-! ### Splitting -/

variable {x : Splitter}

theorem scan_append (x : Splitter) (t u : Text) : x.scan (t ++ u) = (x.scan t).scan u :=
  List.foldl_append

theorem scan_cons (x : Splitter) (c : Char) (t : Text) : x.scan (c :: t) = (x.step c).scan t := rfl

/-- A separator leaves the region it stands in, so the splitter is in the region of the text. -/
theorem quoting_step (x : Splitter) (c : Char) : (x.step c).quoting = x.quoting.step c := by
  unfold step
  split
  · next hplain hsep =>
    rw [hplain]
    simp only [Piece.ofSeparator?] at hsep
    split at hsep
    · next hc => rw [hc, isSeparator_semicolon]
    · split at hsep
      · next hc => rw [hc, isSeparator_bar]
      · cases hsep
  · rfl

theorem quoting_scan (x : Splitter) (t : Text) : (x.scan t).quoting = x.quoting.after t := by
  induction t generalizing x with
  | nil => rfl
  | cons c t ih => rw [scan_cons, ih, quoting_step, Quoting.after_cons]

/-- The splitter with pieces in front of its own. -/
def behind (x : Splitter) (pieces : List Piece) : Splitter :=
  { x with pieces := x.pieces ++ pieces.reverse }

theorem step_behind (x : Splitter) (pieces : List Piece) (c : Char) :
    (x.behind pieces).step c = (x.step c).behind pieces := by
  simp only [step, behind]
  split <;> rfl

theorem scan_behind (x : Splitter) (pieces : List Piece) (t : Text) :
    (x.behind pieces).scan t = (x.scan t).behind pieces := by
  induction t generalizing x with
  | nil => rfl
  | cons c t ih => rw [scan_cons, scan_cons, step_behind, ih]

theorem allPieces_behind (x : Splitter) (pieces : List Piece) :
    (x.behind pieces).allPieces = pieces ++ x.allPieces := by
  simp [allPieces, behind]

/-- A separator outside quotes ends a text. -/
theorem step_separator (hplain : x.quoting = .plain) (hsep : Piece.ofSeparator? sep = some piece) :
    x.step sep = start.behind (x.allPieces ++ [piece]) := by
  simp [step, hplain, hsep, behind, start, allPieces]

/-- **Texts and separators take turns**: the pieces in front of a separator outside quotes, the
separator, and the pieces behind it. -/
theorem allPieces_append_cons (hs : Balanced s) (hsep : Piece.ofSeparator? sep = some piece)
    (u : Text) :
    (start.scan (s ++ sep :: u)).allPieces =
      (start.scan s).allPieces ++ piece :: (start.scan u).allPieces := by
  have hplain : (start.scan s).quoting = .plain := (quoting_scan start s).trans hs
  rw [scan_append, scan_cons, step_separator hplain hsep, scan_behind, allPieces_behind]
  simp

theorem ofSeparator?_eq_none {c : Char} (hsemi : c ≠ ';') (hbar : c ≠ '|') :
    Piece.ofSeparator? c = none := by
  rw [Piece.ofSeparator?, if_neg hsemi, if_neg hbar]

/-- A text without separators outside quotes is taken in as a whole. -/
theorem scan_of_not_bareFrom (hsemi : ¬ BareFrom x.quoting ';' u)
    (hbar : ¬ BareFrom x.quoting '|' u) :
    x.scan u = ⟨x.quoting.after u, u.reverse ++ x.text, x.pieces⟩ := by
  induction u generalizing x with
  | nil => rfl
  | cons c u ih =>
    rw [bareFrom_cons, not_or] at hsemi hbar
    have hstep : x.step c = ⟨x.quoting.step c, c :: x.text, x.pieces⟩ := by
      unfold step
      split
      · next hplain hsep =>
        have hnone := ofSeparator?_eq_none (fun hc ↦ hsemi.1 ⟨hplain, hc⟩)
          fun hc ↦ hbar.1 ⟨hplain, hc⟩
        exact nomatch hnone.symm.trans hsep
      · rfl
    rw [scan_cons, hstep, ih hsemi.2 hbar.2]
    simp

theorem allPieces_of_not_bare (hsemi : ¬ Bare ';' u) (hbar : ¬ Bare '|' u) :
    (start.scan u).allPieces = [.text u] := by
  have hscan : start.scan u = ⟨_, u.reverse ++ [], []⟩ :=
    scan_of_not_bareFrom (x := start) hsemi hbar
  rw [hscan]
  simp [allPieces]

end Splitter

open Splitter

namespace Descent

/-! ### Building -/

variable {rest : List Piece}

/-- The pieces of a text without semicolons are read as its command, which goes on behind them. -/
theorem command_append (hsemi : ¬ Bare ';' t) (rest : List Piece) :
    command ((start.scan t).allPieces ++ rest) = pipes (Tree.ofCommand t) rest := by
  induction t using bareInduction isSeparator_bar generalizing rest with
  | piece u hbar =>
    rw [allPieces_of_not_bare hsemi hbar, Tree.ofCommand_of_not_bare hbar]
    rfl
  | append s u hs hbar ih =>
    rw [hs.bare_append, isSeparator_bar.bare_cons, not_or, not_or] at hsemi
    rw [allPieces_append_cons hs rfl, List.append_assoc, ih hsemi.1,
      allPieces_of_not_bare hsemi.2.2 hbar, Tree.ofCommand_append_cons hs hbar, List.cons_append,
      pipes]
    rfl

/-- A command ends at a semicolon and at the end of the pieces. -/
theorem pipes_of_head?_ne (left : Tree) (h : rest.head? ≠ some .bar) :
    pipes left rest = .ok (left, rest) := by
  unfold pipes
  split
  · exact absurd rfl h
  · rfl

/-- The pieces of a text are read as its sequence, which goes on behind them. -/
theorem sequence_append (t : Text) (h : rest.head? ≠ some .bar) :
    sequence ((start.scan t).allPieces ++ rest) = sequels (Tree.ofBalanced t) rest := by
  have hcommand : ∀ u rest, ¬ Bare ';' u → rest.head? ≠ some .bar →
      command ((start.scan u).allPieces ++ rest) = .ok (Tree.ofCommand u, rest) := by
    intro u rest hu hrest
    rw [command_append hu, pipes_of_head?_ne _ hrest]
  induction t using bareInduction isSeparator_semicolon generalizing rest with
  | piece u hsemi =>
    rw [sequence, hcommand u rest hsemi h, Tree.ofBalanced_of_not_bare hsemi]
    rfl
  | append s u hs hsemi ih =>
    have hnext : (Piece.semicolon :: ((start.scan u).allPieces ++ rest)).head? ≠ some .bar := nofun
    rw [allPieces_append_cons hs rfl, List.append_assoc, List.cons_append, ih hnext,
      Tree.ofBalanced_append_cons hs hsemi, sequels, hcommand u rest hsemi h]

theorem build_allPieces (line : Text) :
    build (start.scan line).allPieces = .ok (Tree.ofBalanced line) := by
  have hend : ([] : List Piece).head? ≠ some .bar := nofun
  have hread := sequence_append line hend
  rw [List.append_nil] at hread
  rw [build, hread]
  unfold sequels
  rfl

/-- A line is split unless a quote in it is open. -/
theorem split_eq (line : Text) :
    split line = match (Quoting.plain.after line).openMark with
      | some d => .error (.unterminated d)
      | none => .ok (start.scan line).allPieces := by
  rw [split, quoting_scan]
  rfl

/-- **The descent reads a line as its tree**, and refuses it for an open quote alone. -/
theorem parse_eq (line : Text) : parse line = (Tree.parse line).mapError .unterminated := by
  rw [parse, split_eq, Tree.parse]
  cases (Quoting.plain.after line).openMark with
  | some d => rfl
  | none => exact build_allPieces line

end Descent

end LineShell
