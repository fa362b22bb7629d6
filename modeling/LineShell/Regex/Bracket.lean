import LineShell.Regex.Escape

/-!
# Reading a pattern: classes in brackets

A class in brackets is a union of characters, ranges, named classes and further classes in
brackets; `&&`, `--` and `~~` join two unions by a set operation and group to the left. The classes
that are open are kept on a stack. A `]` in front and a `-` in front stand for themselves, so there
is no empty class.
-/

namespace LineShell.Regex.Read

/-- A union being read: its span so far and its items, last one first. -/
structure Union where
  span : Span
  items : List ClassSet

namespace Union

/-- Adds an item to a union. -/
def push (u : Union) (item : ClassSet) : Union :=
  let start := if u.items.isEmpty then item.span.start else u.span.start
  ⟨⟨start, item.span.stop⟩, item :: u.items⟩

/-- The set of a union. -/
def toSet (u : Union) : ClassSet :=
  match u.items with
  | [] => .empty u.span
  | [item] => item
  | items => .union u.span items.reverse

end Union

/-- What is still open while a class is read. -/
inductive OpenClass where
  /-- A bracket, with the union that it stands in. -/
  | bracket (outer : Union) (span : Span) (negated : Bool)
  /-- A set operation, with its left side. -/
  | operation (op : SetOp) (left : ClassSet)

/-- The fault of a class that is not closed: the innermost open bracket. -/
def faultUnclosed {α : Type} : List OpenClass → Read α
  | [] => faultHere .classUnclosed
  | .bracket _ span _ :: _ => fault .classUnclosed span none
  | .operation _ _ :: outer => faultUnclosed outer

/-- Closes an open set operation over its right side. -/
def closeOperation (stack : List OpenClass) (right : ClassSet) : List OpenClass × ClassSet :=
  match stack with
  | .operation op left :: outer =>
    (outer, .operation ⟨left.span.start, right.span.stop⟩ op left right)
  | _ => (stack, right)

/-- Reads the `-` that stand for themselves in front of a class that opened at `start`; at most
`fuel` of them. -/
def leadingDashes (start : Position) : Nat → Union → Read Union
  | 0, u => return u
  | fuel + 1, u => do
    if (← peek?) = some '-' then
      let u := u.push (.literal ⟨← charSpan, '-', false⟩)
      if ← bumpOver then leadingDashes start fuel u else faultFrom .classUnclosed start start
    else return u

/-- Opens a class at the bracket that comes next. -/
def openBracket (outer : Union) : Read (OpenClass × Union) := do
  let start ← pos
  if !(← bumpOver) then faultFrom .classUnclosed start (← pos)
  let negated := decide ((← peek?) = some '^')
  if negated then
    if !(← bumpOver) then faultFrom .classUnclosed start (← pos)
  let here ← pos
  let mut u ← leadingDashes start (← get).rest.length ⟨⟨here, here⟩, []⟩
  if u.items.isEmpty && (← peek?) == some ']' then
    u := u.push (.literal ⟨← charSpan, ']', false⟩)
    if !(← bumpOver) then faultFrom .classUnclosed start (← pos)
  return (.bracket outer ⟨start, ← pos⟩ negated, u)

/-- A class written `[:name:]`, if one comes next. -/
def asciiClass? : Read (Option ClassSet) := do
  let before ← get
  let body := before.rest.drop 1
  if body.head? ≠ some ':' then return none
  let body := body.drop 1
  let negated := decide (body.head? = some '^')
  let body := if negated then body.drop 1 else body
  let name := body.takeWhile (· != ':')
  if !([':', ']'].isPrefixOf (body.drop name.length)) then return none
  match AsciiClass.ofName? name with
  | none => return none
  | some c =>
    let count := 2 + (if negated then 1 else 0) + name.length + 2
    let stop := (before.rest.take count).foldl Position.next before.pos
    set { before with rest := before.rest.drop count, pos := stop }
    return some (.ascii ⟨before.pos, stop⟩ negated c)

/-- One end of a range, or an item by itself. -/
def classItem : Read Pattern := do
  match ← peek? with
  | some '\\' => escape
  | some c =>
    let span ← charSpan
    let _ ← bump
    return .literal ⟨span, c, false⟩
  | none => faultHere .classUnclosed

/-- The item of a class that a piece of pattern stands for. -/
def itemOf : Pattern → Read ClassSet
  | .literal l => return .literal l
  | .property p => return .property p
  | .perl span negated c => return .perl span negated c
  | p => fault .classEscapeInvalid p.span none

/-- The end of a range that a piece of pattern stands for. -/
def rangeEndOf : Pattern → Read Literal
  | .literal l => return l
  | p => fault .classRangeLiteral p.span none

/-- An item of a class or a range. -/
def classRange (stack : List OpenClass) : Read ClassSet := do
  let first ← classItem
  skipBlanks
  if ← atEnd then faultUnclosed stack
  let second ← peekOver?
  if (← peek?) ≠ some '-' ∨ second = some ']' ∨ second = some '-' then itemOf first
  else
    if !(← bumpOver) then faultUnclosed stack
    let last ← classItem
    let span : Span := ⟨first.span.start, last.span.stop⟩
    let low ← rangeEndOf first
    let high ← rangeEndOf last
    if high.char < low.char then fault .classRangeInvalid span none
    return .range span low high

/-- The set operation that comes next. -/
def setOp? : Read (Option SetOp) := do
  match ← peek?, ← peekSecond? with
  | some '&', some '&' => return some .intersection
  | some '-', some '-' => return some .difference
  | some '~', some '~' => return some .symmetricDifference
  | _, _ => return none

/-- Reads a class to its closing bracket. Every turn passes a character, so the characters that are
left bound the turns. -/
def bracketLoop : Nat → List OpenClass → Union → Read Pattern
  | 0, stack, _ => faultUnclosed stack
  | fuel + 1, stack, u => do
    skipBlanks
    match ← peek?, ← setOp? with
    | none, _ => faultUnclosed stack
    | some '[', _ =>
      match ← (if stack.isEmpty then pure none else asciiClass?) with
      | some c => bracketLoop fuel stack (u.push c)
      | none =>
        let (opened, inner) ← openBracket u
        bracketLoop fuel (opened :: stack) inner
    | some ']', _ =>
      let _ ← bump
      match closeOperation stack u.toSet with
      | ([], set) => return .bracket set.span false set
      | (.bracket _ span negated :: [], set) =>
        return .bracket ⟨span.start, ← pos⟩ negated set
      | (.bracket outer span negated :: stack, set) =>
        bracketLoop fuel stack (outer.push (.bracketed ⟨span.start, ← pos⟩ negated set))
      | (.operation _ _ :: _, set) => return .bracket set.span false set
    | some _, some op =>
      let _ ← bump
      let _ ← bump
      let (stack, left) := closeOperation stack u.toSet
      let here ← pos
      bracketLoop fuel (.operation op left :: stack) ⟨⟨here, here⟩, []⟩
    | some _, none => bracketLoop fuel stack (u.push (← classRange stack))

/-- A class in brackets. -/
def bracket : Read Pattern := do
  let here ← pos
  bracketLoop ((← get).rest.length + 1) [] ⟨⟨here, here⟩, []⟩

end LineShell.Regex.Read
