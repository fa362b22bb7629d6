import LineShell.Line.Quoting

/-!
# Command trees

A **line** is commands separated by `;`, and a command is calls separated by `|`, both outside
quotes. Its tree folds both operators to the left, `|` binding tighter. Calls keep their raw text,
blanks and quotes included: it is cut into words only when the call runs. A line is rejected for
one reason alone, a quoted region left open.

`Tree.rows` walks the tree in preorder; the outline prints one row per line, one tab per level.
-/

namespace LineShell

/-- The tree of a command line. -/
inductive Tree where
  /-- One call, with the text it was written as. -/
  | call (text : Text)
  /-- `left | right`: what `left` writes is the input of `right`. -/
  | pipe (left right : Tree)
  /-- `left ; right`: first `left`, then `right`. -/
  | seq (left right : Tree)
  deriving DecidableEq, Repr

namespace Tree

/-! ### Reading a line -/

/-- The first piece of a text and the later ones, cut at the occurrences of `sep` outside quotes;
the text begins in the region `q`. -/
def cutFrom (sep : Char) : Quoting → Text → Text × List Text
  | _, [] => ([], [])
  | q, c :: rest =>
    if q = .plain ∧ c = sep then
      let cut := cutFrom sep .plain rest
      ([], cut.1 :: cut.2)
    else
      let cut := cutFrom sep (q.step c) rest
      (c :: cut.1, cut.2)

/-- The first piece of a text and the later ones, cut at the occurrences of `sep` outside
quotes. -/
def cut (sep : Char) (t : Text) : Text × List Text := cutFrom sep .plain t

/-- The tree of one command: its calls, piped from left to right. -/
def ofCommand (t : Text) : Tree :=
  (cut '|' t).2.foldl (fun left text ↦ pipe left (call text)) (call (cut '|' t).1)

/-- The tree of a line whose quotes are closed: its commands, one after the other. -/
def ofBalanced (line : Text) : Tree :=
  (cut ';' line).2.foldl (fun left text ↦ seq left (ofCommand text)) (ofCommand (cut ';' line).1)

/-- The tree of a line, or the mark of the innermost region left open. -/
def parse (line : Text) : Except Delimiter Tree :=
  match (Quoting.plain.after line).openMark with
  | some d => .error d
  | none => .ok (ofBalanced line)

/-- A line is accepted exactly when its quotes are closed. -/
theorem parse_eq_ok_iff {line : Text} {t : Tree} :
    parse line = .ok t ↔ Balanced line ∧ ofBalanced line = t := by
  unfold parse Balanced
  rw [← Quoting.openMark_eq_none_iff]
  split <;> simp_all

/-- A line is rejected with the mark of the region left open. -/
theorem parse_eq_error_iff {line : Text} {d : Delimiter} :
    parse line = .error d ↔ (Quoting.plain.after line).openMark = some d := by
  unfold parse
  split <;> simp_all

/-! ### Rows and outline -/

/-- What a node is, without its subtrees. -/
inductive Label where
  | call (text : Text)
  | pipe
  | seq
  deriving DecidableEq, Repr

/-- A node in preorder: its depth and its label. -/
structure Row where
  depth : Nat
  label : Label
  deriving DecidableEq, Repr

/-- The rows of a tree at the given depth, followed by `more`. -/
def rowsOnto (depth : Nat) : Tree → List Row → List Row
  | .call text, more => ⟨depth, .call text⟩ :: more
  | .pipe left right, more =>
    ⟨depth, .pipe⟩ :: rowsOnto (depth + 1) left (rowsOnto (depth + 1) right more)
  | .seq left right, more =>
    ⟨depth, .seq⟩ :: rowsOnto (depth + 1) left (rowsOnto (depth + 1) right more)

/-- The nodes of a tree in preorder. -/
def rows (t : Tree) : List Row := rowsOnto 0 t []

/-- The name of a node in the outline. -/
def Label.title : Label → Text
  | call text => "Call node: ".toList ++ text
  | pipe => "Pipe Node".toList
  | seq => "Seq Node".toList

/-- One line of the outline: a tab per level, then the title. -/
def Row.line (r : Row) : Text := List.replicate r.depth '\t' ++ r.label.title ++ ['\n']

/-- The outline of a tree: its nodes in preorder, one line each. -/
def outline (t : Tree) : Text := t.rows.flatMap Row.line

end Tree

end LineShell
