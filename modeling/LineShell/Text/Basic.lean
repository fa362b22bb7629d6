/-!
# Texts

A **text** is a list of characters, and a **byte string** a list of bytes: every law of the
library is then an induction on a list. This module holds the operations on texts that more
than one part of the shell needs: cutting at a character, joining, and writing and reading
natural numbers in decimal.

The cut keeps everything: a text without the separator is one piece, two adjacent separators
enclose an empty piece, and joining the pieces gives the text back.
-/

namespace LineShell

/-- A text: its characters in order. -/
abbrev Text := List Char

/-- A byte string: its bytes in order. -/
abbrev Bytes := List UInt8

namespace Text

/-- The pieces of a text between the occurrences of `sep`. -/
def pieces (sep : Char) : Text → List Text
  | [] => [[]]
  | c :: rest =>
    if c = sep then [] :: pieces sep rest
    else match pieces sep rest with
      | [] => [[c]]
      | piece :: more => (c :: piece) :: more

/-- The texts of a list with `sep` between neighbours. -/
def join (sep : Text) : List Text → Text
  | [] => []
  | [t] => t
  | t :: rest => t ++ sep ++ join sep rest

/-- There is always a first piece. -/
theorem pieces_ne_nil (sep : Char) (t : Text) : pieces sep t ≠ [] := by
  cases t with
  | nil => simp [pieces]
  | cons c rest =>
    unfold pieces
    split
    · simp
    · split <;> simp

/-- Joining the pieces at the separator gives the text back. -/
theorem join_pieces (sep : Char) (t : Text) : join [sep] (pieces sep t) = t := by
  induction t with
  | nil => rfl
  | cons c rest ih =>
    obtain ⟨piece, more, h⟩ := List.exists_cons_of_ne_nil (pieces_ne_nil sep rest)
    rw [h] at ih
    unfold pieces
    split
    · next hc => rw [h, join, ih, hc]; rfl; simp
    · rw [h]
      cases more with
      | nil => simpa [join] using ih
      | cons next more => simpa [join] using ih

/-- No piece holds the separator. -/
theorem not_mem_of_mem_pieces {sep : Char} {t piece : Text} (h : piece ∈ pieces sep t) :
    sep ∉ piece := by
  induction t generalizing piece with
  | nil =>
    rw [pieces, List.mem_singleton] at h
    simp [h]
  | cons c rest ih =>
    obtain ⟨first, more, hrest⟩ := List.exists_cons_of_ne_nil (pieces_ne_nil sep rest)
    have hmem : ∀ {piece}, piece ∈ first :: more → sep ∉ piece := fun h ↦ ih (hrest ▸ h)
    simp only [pieces, hrest] at h
    split at h
    · rcases List.mem_cons.1 h with rfl | h
      · exact List.not_mem_nil
      · exact hmem h
    · next hc =>
      rcases List.mem_cons.1 h with rfl | h
      · rintro (_ | ⟨_, hfirst⟩)
        · exact hc rfl
        · exact hmem List.mem_cons_self hfirst
      · exact hmem (List.mem_cons_of_mem _ h)

/-- A text without the separator and with one behind it is a piece of its own. -/
theorem pieces_append_cons {sep : Char} {t : Text} (h : sep ∉ t) (rest : Text) :
    pieces sep (t ++ sep :: rest) = t :: pieces sep rest := by
  induction t with
  | nil => simp [pieces]
  | cons c t ih =>
    obtain ⟨hc, ht⟩ := not_or.1 fun other ↦ h (List.mem_cons.2 other)
    rw [List.cons_append, pieces, if_neg (Ne.symm hc), ih ht]

/-- A text without the separator is one piece. -/
theorem pieces_of_not_mem {sep : Char} {t : Text} (h : sep ∉ t) : pieces sep t = [t] := by
  induction t with
  | nil => rfl
  | cons c t ih =>
    obtain ⟨hc, ht⟩ := not_or.1 fun other ↦ h (List.mem_cons.2 other)
    rw [pieces, if_neg (Ne.symm hc), ih ht]

/-- The line feed, which ends a line. -/
def newline : Char := '\n'

/-- A natural number in decimal. -/
def ofNat (n : Nat) : Text := Nat.toDigits 10 n

/-- The value of a decimal digit. -/
def digit? (c : Char) : Option Nat :=
  if '0' ≤ c ∧ c ≤ '9' then some (c.toNat - '0'.toNat) else none

/-- The number that a non-empty run of decimal digits writes. -/
def toNat? : Text → Option Nat
  | [] => none
  | t => t.foldl (fun n c ↦ do pure (10 * (← n) + (← digit? c))) (some 0)

end Text

end LineShell
