import LineShell.Text.Basic

/-!
# Lines

A line feed ends a line, together with a carriage return in front of it. What follows the last line
feed is a line too, unless it is empty; it keeps a carriage return at its end.

Lines that were written are read back (`lines_unlines`), as long as no line holds what would end
it.
-/

namespace LineShell.Text

/-- A line without the carriage return at its end. -/
def stripReturn (line : Text) : Text := if line.getLast? = some '\r' then line.dropLast else line

/-- The lines that the pieces between line feeds are: the last one is not ended by a line feed. -/
def closeLines : List Text → List Text
  | [] => []
  | [last] => if last = [] then [] else [last]
  | line :: rest => stripReturn line :: closeLines rest

/-- The lines of a text. -/
def lines (t : Text) : List Text := closeLines (pieces newline t)

/-- The texts of a list, each with a line feed behind it. -/
def unlines (lines : List Text) : Text := lines.flatMap (· ++ [newline])

theorem stripReturn_of_ne {line : Text} (h : line.getLast? ≠ some '\r') :
    stripReturn line = line := if_neg h

/-- Lines that are written are read back, if none of them holds what ends a line. -/
theorem lines_unlines {ls : List Text}
    (h : ∀ l ∈ ls, newline ∉ l ∧ l.getLast? ≠ some '\r') : lines (unlines ls) = ls := by
  have cut : pieces newline (unlines ls) = ls ++ [[]] := by
    induction ls with
    | nil => rfl
    | cons l ls ih =>
      rw [unlines, List.flatMap_cons, List.append_assoc, List.singleton_append,
        pieces_append_cons (h l List.mem_cons_self).1, List.cons_append]
      exact congrArg _ (ih fun l hl ↦ h l (List.mem_cons_of_mem _ hl))
  rw [lines, cut]
  clear cut
  induction ls with
  | nil => rfl
  | cons l ls ih =>
    obtain ⟨next, more, hn⟩ := List.exists_cons_of_ne_nil
      (List.append_ne_nil_of_right_ne_nil ls (List.cons_ne_nil [] []))
    rw [List.cons_append, hn, closeLines, stripReturn_of_ne (h l List.mem_cons_self).2, ← hn]
    · exact congrArg _ (ih fun l hl ↦ h l (List.mem_cons_of_mem _ hl))
    · simp

end LineShell.Text
