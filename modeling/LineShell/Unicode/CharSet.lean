import LineShell.Text.Basic

/-!
# Sets of characters

A set of characters is a list of ranges of scalar values, in ascending order and with a gap between
neighbours. The constructor `CharSet.ofRanges` puts any list of ranges into this form, and every
operation goes through it, so two sets with the same characters are equal.
-/

namespace LineShell

/-- A set of characters: ranges of scalar values, both ends included. -/
structure CharSet where
  ranges : List (Nat × Nat)
  deriving DecidableEq, Repr

namespace CharSet

/-- The greatest scalar value. -/
def last : Nat := 0x10FFFF

/-- The code points that are no scalar values. -/
def surrogates : Nat × Nat := (0xD800, 0xDFFF)

/-- Joins ranges that meet; they come in the order of their lower ends and follow `(lo, hi)`. -/
def coalesceFrom (lo hi : Nat) : List (Nat × Nat) → List (Nat × Nat)
  | [] => [(lo, hi)]
  | (l, h) :: rest =>
    if l ≤ hi + 1 then coalesceFrom lo (max hi h) rest else (lo, hi) :: coalesceFrom l h rest

/-- Joins ranges that meet; they come in the order of their lower ends. -/
def coalesce : List (Nat × Nat) → List (Nat × Nat)
  | [] => []
  | (lo, hi) :: rest => coalesceFrom lo hi rest

/-- The set with the characters of the given ranges. -/
def ofRanges (ranges : List (Nat × Nat)) : CharSet :=
  ⟨coalesce (ranges.mergeSort fun a b ↦ decide (a.1 ≤ b.1))⟩

/-- The set without characters. -/
def empty : CharSet := ⟨[]⟩

/-- The set of one character. -/
def single (c : Char) : CharSet := ⟨[(c.toNat, c.toNat)]⟩

/-- The characters from `lo` to `hi`. -/
def range (lo hi : Char) : CharSet := ⟨[(lo.toNat, hi.toNat)]⟩

/-- Whether no character is in the set. -/
def isEmpty (s : CharSet) : Bool := s.ranges.isEmpty

/-- Whether one of the ranges holds the value; the search stops at a range above it. -/
def holds (n : Nat) : List (Nat × Nat) → Bool
  | [] => false
  | (lo, hi) :: rest => lo ≤ n && (n ≤ hi || holds n rest)

/-- Whether the set holds the character. -/
def contains (s : CharSet) (c : Char) : Bool := holds c.toNat s.ranges

/-- The characters of either set. -/
def union (s t : CharSet) : CharSet := ofRanges (s.ranges ++ t.ranges)

/-- The characters of any of the sets. -/
def unionAll (sets : List CharSet) : CharSet := ofRanges (sets.flatMap CharSet.ranges)

/-- What ascending ranges leave out, from `next` on. -/
def gapsFrom (next : Nat) : List (Nat × Nat) → List (Nat × Nat)
  | [] => if next ≤ last then [(next, last)] else []
  | (lo, hi) :: rest =>
    if next < lo then (next, lo - 1) :: gapsFrom (hi + 1) rest
    else gapsFrom (max next (hi + 1)) rest

/-- The characters that are not in the set. -/
def compl (s : CharSet) : CharSet := ⟨gapsFrom 0 (ofRanges (surrogates :: s.ranges)).ranges⟩

/-- The characters of both sets. -/
def inter (s t : CharSet) : CharSet := (s.compl.union t.compl).compl

/-- The characters of the first set that are not in the second. -/
def diff (s t : CharSet) : CharSet := s.inter t.compl

/-- The characters of exactly one of the sets. -/
def symmDiff (s t : CharSet) : CharSet := (s.diff t).union (t.diff s)

/-- All characters. -/
def univ : CharSet := empty.compl

/-- Whether every character of the set is in the ASCII range. -/
def isAscii (s : CharSet) : Bool := s.ranges.all fun r ↦ r.2 < 0x80

/-- The only character of the set, if it has exactly one. -/
def only? (s : CharSet) : Option Char :=
  match s.ranges with
  | [(lo, hi)] => if lo = hi then some (Char.ofNat lo) else none
  | _ => none

end CharSet

end LineShell
