import LineShell.Regex.Program

/-!
# Searching

All ways through a program are followed side by side, character by character. A **thread** is one
such way: its address and the places it noted. Threads are kept in the order of preference; of two
that meet at one address of one place the later one is dropped, because whatever it finds the
earlier one finds too. So the work is bounded by the length of the text times the size of the
program, and the match found is the first in the order of preference among those that start
leftmost.
-/

namespace LineShell.Regex

/-- A place in a text: the number of characters before it, the last of them, and those behind it. -/
structure Place where
  index : Nat
  before : Option Char
  rest : Text
  deriving DecidableEq, Repr

namespace Place

/-- The place in front of a text. -/
def start (t : Text) : Place := ⟨0, none, t⟩

/-- The character behind the place. -/
def after (p : Place) : Option Char := p.rest.head?

/-- The place `count` characters further on, or at the end of the text. -/
def skip (p : Place) : Nat → Place
  | 0 => p
  | count + 1 =>
    match p.rest with
    | [] => p
    | c :: rest => skip ⟨p.index + 1, some c, rest⟩ count

end Place

/-! ### Tests of a place -/

/-- Whether a character belongs to a word. -/
def inWord (unicode : Bool) : Option Char → Bool
  | none => false
  | some c => if unicode then isWordChar c else c.isAlphanum || c == '_'

/-- Whether a place is an edge of a word, given whether there are characters of a word before and
behind it. -/
def WordEdge.holds : WordEdge → Bool → Bool → Bool
  | boundary, before, after => before != after
  | inside, before, after => before == after
  | start, before, after => !before && after
  | stop, before, after => before && !after
  | startHalf, before, _ => !before
  | stopHalf, _, after => !after

/-- Whether a test holds at a place. -/
def Look.holds (p : Place) : Look → Bool
  | textStart => p.before.isNone
  | textEnd => p.after.isNone
  | lineStart false => p.before.all (· == '\n')
  | lineEnd false => p.after.all (· == '\n')
  | lineStart true =>
    p.before.all fun c ↦ c == '\n' || (c == '\r' && p.after != some '\n')
  | lineEnd true =>
    p.after.all fun c ↦ c == '\r' || (c == '\n' && p.before != some '\r')
  | word edge unicode => edge.holds (inWord unicode p.before) (inWord unicode p.after)

/-! ### Threads -/

/-- The places that were noted, slot by slot. -/
abbrev Slots := List (Option Nat)

/-- A way through the program. -/
structure Thread where
  address : Nat
  slots : Slots
  deriving Repr

/-- The threads at a place. -/
structure Frontier where
  /-- The addresses that were reached. -/
  seen : Array Bool
  /-- The threads that take a character or accept, the least preferred first. -/
  threads : List Thread

/-- No threads of a program. -/
def Frontier.empty (program : Array Instruction) : Frontier :=
  ⟨Array.replicate program.size false, []⟩

/-- Adds the threads that an address leads to without taking a character. Every step reaches a new
address, so the size of the program bounds the depth. -/
def Frontier.reach (program : Array Instruction) (p : Place) :
    Nat → Nat → Slots → Frontier → Frontier
  | 0, _, _, f => f
  | depth + 1, address, slots, f =>
    if f.seen.getD address true then f
    else
      let f := { f with seen := f.seen.setIfInBounds address true }
      match program[address]? with
      | none => f
      | some (.take _) => { f with threads := ⟨address, slots⟩ :: f.threads }
      | some .accept => { f with threads := ⟨address, slots⟩ :: f.threads }
      | some (.look l) => if l.holds p then f.reach program p depth (address + 1) slots else f
      | some (.save slot) =>
        f.reach program p depth (address + 1) (slots.set slot (some p.index))
      | some (.split first second) =>
        (f.reach program p depth first slots).reach program p depth second slots
      | some (.jump target) => f.reach program p depth target slots

/-- Follows the threads over the next character, in the order of preference, up to the first that
accepts. Gives the threads behind the character and what was accepted. -/
def Frontier.follow (program : Array Instruction) (p : Place) :
    List Thread → Frontier → Frontier × Option Slots
  | [], f => (f, none)
  | t :: threads, f =>
    match program[t.address]?, p.after with
    | some .accept, _ => (f, some t.slots)
    | some (.take s), some c =>
      if s.contains c then
        follow program p threads (f.reach program (p.skip 1) program.size (t.address + 1) t.slots)
      else follow program p threads f
    | _, _ => follow program p threads f

/-! ### Matches -/

/-- Runs the threads to the end of the text `rest` behind a place. A new thread starts at every
place until a match is found; `found` is the best match so far. -/
def searchFrom (program : Array Instruction) (slots : Slots) (index : Nat) (before : Option Char)
    (found : Option Slots) (f : Frontier) (rest : Text) : Option Slots :=
  let p : Place := ⟨index, before, rest⟩
  let f := if found.isSome then f else f.reach program p program.size 0 slots
  let (next, accepted) := Frontier.follow program p f.threads.reverse (.empty program)
  let found := accepted.or found
  match rest with
  | [] => found
  | c :: rest =>
    if next.threads.isEmpty && found.isSome then found
    else searchFrom program slots (index + 1) (some c) found next rest

/-- A compiled regular expression. -/
structure Matcher where
  program : Array Instruction
  /-- How many capture groups there are, the whole match not counted. -/
  groups : Nat
  /-- The names of groups, with their numbers. -/
  names : List (Text × Nat)

namespace Matcher

/-- A match: for every group, the whole match first, where it starts and ends. -/
structure Match where
  slots : Slots
  deriving DecidableEq, Repr

/-- Where the group with the given number starts and ends, if it took part. -/
def Match.group? (m : Match) (index : Nat) : Option (Nat × Nat) :=
  match (m.slots[2 * index]?).join, (m.slots[2 * index + 1]?).join with
  | some first, some last => some (first, last)
  | _, _ => none

/-- Where the match starts. -/
def Match.first (m : Match) : Nat := ((m.group? 0).map Prod.fst).getD 0

/-- Where the match ends. -/
def Match.last (m : Match) : Nat := ((m.group? 0).map Prod.snd).getD 0

/-- The first match that starts at a place or behind it. -/
def find? (r : Matcher) (p : Place) : Option Match :=
  (searchFrom r.program (List.replicate (2 * (r.groups + 1)) none) p.index p.before none
    (.empty r.program) p.rest).map Match.mk

/-- Whether there is a match in a text. -/
def isMatch (r : Matcher) (t : Text) : Bool := (r.find? (.start t)).isSome

/-- The matches from a place on, at most `count` of them; `last` is where the match before ended.
An empty match is passed over when it stands at the end of the match before. -/
def matchesFrom (r : Matcher) : Nat → Option Nat → Place → List Match
  | 0, _, _ => []
  | count + 1, last, p =>
    match r.find? p with
    | none => []
    | some m =>
      if m.first = m.last ∧ last = some m.last then
        if p.rest.isEmpty then []
        else
          match r.find? (p.skip 1) with
          | none => []
          | some m => m :: matchesFrom r count (some m.last) (p.skip (m.last - p.index))
      else m :: matchesFrom r count (some m.last) (p.skip (m.last - p.index))

/-- All matches in a text, from left to right. No two of them end at the same place, which bounds
their number. -/
def allMatches (r : Matcher) (t : Text) : List Match := r.matchesFrom (t.length + 1) none (.start t)

end Matcher

end LineShell.Regex
