import LineShell.Text.Basic

/-!
# Glob patterns

A **glob pattern** matches a whole name: `?` stands for any character, `*` for any run of
characters, `[…]` for one character of a set and `[!…]` for one that is not in it, and `**` between
slashes for any run of whole path components. A bracket that comes right after the opening one is
an element of the set.

A match is found by following all ways at once: every place of the name is marked to which some way
through the items so far leads. So the work is bounded by the length of the pattern times the length
of the name.
-/

namespace LineShell

/-- An item of a glob pattern. -/
inductive GlobItem where
  | char (c : Char)
  | anyChar
  | anySequence
  /-- Any run of whole path components. -/
  | anyPath
  /-- A character of one of the ranges. -/
  | oneOf (ranges : List (Char × Char))
  /-- A character of none of the ranges. -/
  | noneOf (ranges : List (Char × Char))
  deriving DecidableEq, Repr

/-- A glob pattern: its items in order. -/
structure Glob where
  items : List GlobItem
  deriving DecidableEq, Repr

/-- What can be wrong with a glob pattern. -/
inductive GlobFaultKind where
  /-- More than two stars in a row. -/
  | tooManyStars
  /-- Two stars beside something else in a path component. -/
  | notWholeComponent
  /-- A bracket that is not closed. -/
  | unclosedBracket
  deriving DecidableEq, Repr

/-- A fault of a glob pattern, with the number of characters in front of it. -/
structure GlobFault where
  kind : GlobFaultKind
  position : Nat
  deriving DecidableEq, Repr

/-- The description of a fault. -/
def GlobFaultKind.message : GlobFaultKind → Text
  | tooManyStars => "wildcards are either regular `*` or recursive `**`".toList
  | notWholeComponent => "recursive wildcards must form a single path component".toList
  | unclosedBracket => "invalid range pattern".toList

/-- The report of a fault. -/
def GlobFault.message (f : GlobFault) : Text :=
  "Pattern syntax error near position ".toList ++ Text.ofNat f.position ++ ": ".toList ++
    f.kind.message

/-! ### Matching -/

namespace GlobItem

/-- Whether one of the ranges holds the character. -/
def inRanges (ranges : List (Char × Char)) (c : Char) : Bool :=
  ranges.any fun r ↦ r.1 ≤ c && c ≤ r.2

/-- Whether the item stands for the one character. -/
def accepts : GlobItem → Char → Bool
  | char d, c => d == c
  | anyChar, _ => true
  | oneOf ranges, c => inRanges ranges c
  | noneOf ranges, c => !inRanges ranges c
  | anySequence, _ => false
  | anyPath, _ => false

/-- The marks behind a run of characters. The run can end where it begins, behind a character that
passes `stops`, and at the end of the name. `started` tells that a place before the present one is
marked, `stopped` that a run can end at the present one. -/
def runMarks (stops : Char → Bool) (started stopped : Bool) : Text → List Bool → List Bool
  | [], marks => [started || marks.headD false]
  | c :: rest, marks =>
    let here := marks.headD false
    (here || (started && stopped)) :: runMarks stops (started || here) (stops c) rest marks.tail

/-- The marks behind the item. The marks tell, place by place from the front of the name, whether
the items before can match what is in front of the place. -/
def step (item : GlobItem) (name : Text) (marks : List Bool) : List Bool :=
  match item with
  | anySequence => runMarks (fun _ ↦ true) false false name marks
  | anyPath => runMarks (· == '/') false false name marks
  | _ => false :: name.zipWith (fun c mark ↦ mark && item.accepts c) marks

end GlobItem

namespace Glob

/-- Whether the pattern matches the whole name. -/
def matchesName (g : Glob) (name : Text) : Bool :=
  let start := true :: name.map fun _ ↦ false
  (g.items.foldl (fun marks item ↦ item.step name marks) start).getLastD false

/-! ### Reading -/

/-- The ranges that the inside of a bracket lists. -/
def rangesOf : Text → List (Char × Char)
  | lo :: '-' :: hi :: rest => (lo, hi) :: rangesOf rest
  | c :: rest => (c, c) :: rangesOf rest
  | [] => []

/-- The item that a bracket writes and the number of its characters, given the text behind the
opening bracket. -/
def bracket? (t : Text) : Option (GlobItem × Nat) :=
  let negated := t.head? == some '!'
  match if negated then t.drop 1 else t with
  | [] => none
  | first :: rest =>
    let more := rest.takeWhile (· != ']')
    let ranges := rangesOf (first :: more)
    if more.length < rest.length then
      if negated then some (.noneOf ranges, more.length + 3)
      else some (.oneOf ranges, more.length + 2)
    else none

/-- Reads the items from a position on, behind the character `before`; `skip` counts the characters
that were read with the item before. -/
def itemsFrom : Nat → Nat → Option Char → Text → Except GlobFault (List GlobItem)
  | _, _, _, [] => .ok []
  | skip + 1, position, _, c :: rest => itemsFrom skip (position + 1) (some c) rest
  | 0, position, before, c :: rest =>
    let continueWith (item : GlobItem) (skip : Nat) : Except GlobFault (List GlobItem) :=
      (itemsFrom skip (position + 1) (some c) rest).map (item :: ·)
    if c = '?' then continueWith .anyChar 0
    else if c = '*' then
      match rest with
      | '*' :: '*' :: _ => .error ⟨.tooManyStars, position + 2⟩
      | '*' :: more =>
        if before.all (· == '/') then
          match more with
          | [] => continueWith .anyPath 1
          | '/' :: _ => continueWith .anyPath 2
          | _ => .error ⟨.notWholeComponent, position + 2⟩
        else .error ⟨.notWholeComponent, position - 1⟩
      | _ => continueWith .anySequence 0
    else if c = '[' then
      match bracket? rest with
      | some (item, count) => continueWith item count
      | none => .error ⟨.unclosedBracket, position⟩
    else continueWith (.char c) 0

/-- Reads a pattern. -/
def read (t : Text) : Except GlobFault Glob := (itemsFrom 0 0 none t).map Glob.mk

/-! ### Segments of paths -/

/-- The item that a character of a segment stands for: only the star is special. -/
def segmentItem (c : Char) : GlobItem := if c = '*' then .anySequence else .char c

/-- Whether two stars stand side by side. -/
def hasDoubleStar : Text → Bool
  | '*' :: '*' :: _ => true
  | _ :: rest => hasDoubleStar rest
  | [] => false

/-- The pattern of a segment of a path. The segment `**` matches every name; elsewhere two stars
side by side make no pattern. -/
def ofSegment? (segment : Text) : Option Glob :=
  if segment = ['*', '*'] then some ⟨[.anyPath]⟩
  else if hasDoubleStar segment then none
  else some ⟨segment.map segmentItem⟩

end Glob

end LineShell
