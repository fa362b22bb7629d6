import LineShell.Regex.Pattern
import LineShell.Text.Blank
import LineShell.Unicode.Letter

/-!
# Reading a pattern: characters

The reader of a pattern holds the characters that are left and the place in front of them. This
module has the steps that every part of the syntax uses: passing a character, passing blanks and
comments where the `x` flag is on, and reading numbers. A step that fails gives the fault with its
span.
-/

namespace LineShell.Regex

/-- The reader of a pattern. -/
structure Reader where
  /-- The characters that are left. -/
  rest : Text
  /-- The place in front of them. -/
  pos : Position
  /-- Whether blanks and comments mean nothing. -/
  loose : Bool
  /-- How many capture groups were opened. -/
  groups : Nat
  /-- The names of capture groups, with their numbers and where they are written. -/
  names : List (Text × Nat × Span)

/-- A step of reading. -/
abbrev Read := StateT Reader (Except Fault)

namespace Read

/-- The place in front of the characters that are left. -/
def pos : Read Position := do return (← get).pos

/-- The next character. -/
def peek? : Read (Option Char) := do return (← get).rest.head?

/-- Whether nothing is left. -/
def atEnd : Read Bool := do return (← get).rest.isEmpty

/-- Fails with a fault at a span. -/
def fault {α : Type} (kind : FaultKind) (span : Span) (earlier : Option Span) : Read α :=
  throw ⟨kind, span, earlier⟩

/-- Fails with a fault between two places. -/
def faultFrom {α : Type} (kind : FaultKind) (start stop : Position) : Read α :=
  fault kind ⟨start, stop⟩ none

/-- Fails with a fault at the present place. -/
def faultHere {α : Type} (kind : FaultKind) : Read α := do faultFrom kind (← pos) (← pos)

/-- The span of the next character. -/
def charSpan : Read Span := do
  let r ← get
  return match r.rest with
    | [] => ⟨r.pos, r.pos⟩
    | c :: _ => ⟨r.pos, r.pos.next c⟩

/-- Fails with a fault at the next character. -/
def faultAtChar {α : Type} (kind : FaultKind) : Read α := do fault kind (← charSpan) none

/-- Passes a character; says whether another one follows. -/
def bump : Read Bool := do
  let r ← get
  match r.rest with
  | [] => return false
  | c :: rest =>
    set { r with rest, pos := r.pos.next c }
    return !rest.isEmpty

/-- What is left behind blanks and comments; `comment` tells that a comment is being passed. -/
def skipFrom (comment : Bool) (pos : Position) : Text → Text × Position
  | [] => ([], pos)
  | c :: rest =>
    if comment then skipFrom (c != '\n') (pos.next c) rest
    else if isBlankChar c then skipFrom false (pos.next c) rest
    else if c = '#' then skipFrom true (pos.next c) rest
    else (c :: rest, pos)

/-- Passes blanks and comments, where they mean nothing. -/
def skipBlanks : Read Unit := do
  let r ← get
  if r.loose then
    let left := skipFrom false r.pos r.rest
    set { r with rest := left.1, pos := left.2 }

/-- Passes a character and the blanks after it; says whether another one follows. -/
def bumpOver : Read Bool := do
  if ← bump then
    skipBlanks
    return !(← atEnd)
  else return false

/-- Passes the given text if it comes next. -/
def bumpIf (t : Text) : Read Bool := do
  let r ← get
  if t.isPrefixOf r.rest then
    set { r with rest := r.rest.drop t.length, pos := t.foldl Position.next r.pos }
    return true
  else return false

/-- Passes the first of the given texts that comes next, and no other; says whether one does. -/
def bumpIfAny : List String → Read Bool
  | [] => return false
  | t :: rest => do if ← bumpIf t.toList then return true else bumpIfAny rest

/-- The first character of a text behind its blanks and one mark of a comment; the first character
of `all` when there is none. -/
def peekOverFrom (marked : Bool) (all : Text) : Text → Option Char
  | [] => all.head?
  | c :: rest =>
    if isBlankChar c then peekOverFrom marked all rest
    else if !marked && c == '#' then peekOverFrom true all rest
    else some c

/-- The character after the next one. Where blanks mean nothing they are passed over. -/
def peekOver? : Read (Option Char) := do
  let r ← get
  let after := r.rest.drop 1
  return if r.loose then peekOverFrom false after after else after.head?

/-- The character after the next one. -/
def peekSecond? : Read (Option Char) := do return ((← get).rest.drop 1).head?

/-- Passes the characters up to the first that fails `p`. -/
def skipWhile (p : Char → Bool) : Read Unit := do
  let r ← get
  let passed := r.rest.takeWhile p
  set { r with rest := r.rest.dropWhile p, pos := passed.foldl Position.next r.pos }

/-- The characters that pass `p`, blanks between them passed over. At most `fuel` characters are
read; there are never more than are left. -/
def collect (p : Char → Bool) : Nat → Read Text
  | 0 => return []
  | fuel + 1 => do
    match ← peek? with
    | some c =>
      if p c then
        let _ ← bumpOver
        return c :: (← collect p fuel)
      else return []
    | none => return []

/-- The greatest number that a repetition may count. -/
def maxCount : Nat := 4294967295

/-- A decimal number, or the fault that it makes; blanks around it mean nothing. -/
def decimal : Read (Except Fault Nat) := do
  skipWhile isBlankChar
  let start ← pos
  let digits ← collect (fun c ↦ (Text.digit? c).isSome) (← get).rest.length
  let span : Span := ⟨start, ← pos⟩
  skipWhile isBlankChar
  match Text.toNat? digits with
  | none => return .error ⟨.repetitionCountEmpty, span, none⟩
  | some n => return if n ≤ maxCount then .ok n else .error ⟨.decimalInvalid, span, none⟩

end Read

end LineShell.Regex
