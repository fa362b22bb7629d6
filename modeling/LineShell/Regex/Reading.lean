import LineShell.Regex.Bracket

/-!
# Reading a pattern

A pattern is read from left to right. What is open around the present place, groups and the
alternations in them, is kept on a stack; a repetition takes the last thing that was read. After
the whole pattern has been read it is checked that its groups and classes do not nest too deep.

Reading fails with the fault that is met first.
-/

namespace LineShell.Regex

namespace Read

/-! ### Groups and flags -/

/-- Reads a list of flags up to the `:` or `)` behind it; `items` holds the entries so far with
their spans, last one first. At most `fuel` entries are read. -/
def flagItems : Nat → List (FlagItem × Span) → Read (List FlagItem)
  | 0, items => return (items.map Prod.fst).reverse
  | fuel + 1, items => do
    match ← peek? with
    | none => faultHere .flagUnfinished
    | some c =>
      let span ← charSpan
      if c = ':' ∨ c = ')' then
        match items with
        | (.negation, last) :: _ => fault .flagDanglingNegation last none
        | _ => return (items.map Prod.fst).reverse
      else
        let item ← if c = '-' then pure FlagItem.negation else
          match Flag.ofChar? c with
          | some f => pure (.flag f)
          | none => fault .flagUnrecognized span none
        match items.find? (·.1 == item) with
        | some (_, earlier) =>
          fault (if item == .negation then .flagRepeatedNegation else .flagDuplicate) span
            (some earlier)
        | none =>
          if ← bump then flagItems fuel ((item, span) :: items) else faultHere .flagUnfinished

/-- Whether a character can stand in the name of a group. -/
def isNameChar (first : Bool) (c : Char) : Bool :=
  c == '_' || if first then isAlphabeticChar c else
    c == '.' || c == '[' || c == ']' || isAlphanumericChar c

/-- Reads the name of a group up to the `>` behind it; at most `fuel` characters are read. -/
def nameChars (first : Bool) : Nat → Read Text
  | 0 => return []
  | fuel + 1 => do
    match ← peek? with
    | none => return []
    | some c =>
      if c = '>' then return []
      else if !isNameChar first c then faultAtChar .groupNameInvalid
      else
        let _ ← bump
        return c :: (← nameChars false fuel)

/-- The number of the next capture group. -/
def nextGroup : Read Nat := do
  let r ← get
  set { r with groups := r.groups + 1 }
  return r.groups + 1

/-- The name of the capture group with the given number. -/
def groupName (index : Nat) : Read Unit := do
  if ← atEnd then faultHere .groupNameUnfinished
  let start ← pos
  let name ← nameChars true (← get).rest.length
  let stop ← pos
  if ← atEnd then faultHere .groupNameUnfinished
  let _ ← bump
  if name.isEmpty then faultFrom .groupNameEmpty start start
  let span : Span := ⟨start, stop⟩
  match (← get).names.find? (·.1 == name) with
  | some (_, _, earlier) => fault .groupNameDuplicate span (some earlier)
  | none => modify fun r ↦ { r with names := r.names ++ [(name, index, span)] }

/-- What an opening parenthesis begins. -/
inductive Opening where
  /-- A setting of flags, complete. -/
  | setting (span : Span) (items : List FlagItem)
  /-- A group; its span so far. -/
  | group (span : Span) (kind : GroupKind)

/-- What the opening parenthesis that comes next begins. -/
def opening : Read Opening := do
  let span ← charSpan
  let _ ← bump
  skipBlanks
  if ← bumpIfAny ["?=", "?!", "?<=", "?<!"] then faultFrom .lookAround span.start (← pos)
  let inner ← pos
  if ← bumpIfAny ["?P<", "?<"] then
    let index ← nextGroup
    groupName index
    return .group span (.capture index)
  else if ← bumpIf "?".toList then
    if ← atEnd then fault .groupUnclosed span none
    let items ← flagItems ((← get).rest.length + 1) []
    let close ← peek?
    let _ ← bump
    if close = some ')' then
      if items.isEmpty then faultFrom .repetitionMissing inner inner
      return .setting ⟨span.start, ← pos⟩ items
    else return .group span (.flags items)
  else return .group span (.capture (← nextGroup))

/-! ### Repetitions -/

/-- A concatenation being read: its span so far and its parts, last one first. -/
structure Sequence where
  span : Span
  parts : List Pattern

/-- The pattern of a concatenation. -/
def Sequence.toPattern (s : Sequence) : Pattern :=
  match s.parts with
  | [] => .empty s.span
  | [part] => part
  | parts => .concat s.span parts.reverse

/-- Takes off the part that a repetition applies to. -/
def repeated (s : Sequence) : Read (Pattern × Sequence) := do
  match s.parts with
  | [] => faultHere .repetitionMissing
  | .empty _ :: _ => faultHere .repetitionMissing
  | .flags _ _ :: _ => faultHere .repetitionMissing
  | part :: parts => return (part, { s with parts })

/-- Adds a repetition to a concatenation. -/
def Sequence.repeat (s : Sequence) (body : Pattern) (least : Nat) (most : Option Nat)
    (greedy : Bool) (stop : Position) : Sequence :=
  { s with parts := .repetition ⟨body.span.start, stop⟩ least most greedy body :: s.parts }

/-- A repetition written with one sign. -/
def signRepetition (s : Sequence) (least : Nat) (most : Option Nat) : Read Sequence := do
  let (body, s) ← repeated s
  let mut greedy := true
  if ← bump then
    if (← peek?) = some '?' then
      greedy := false
      let _ ← bump
  return s.repeat body least most greedy (← pos)

/-- The counts of a repetition in braces that opened at `start`. That the braces are not closed is
found before a fault of the first count. -/
def counts (start : Position) : Read (Nat × Option Nat) := do
  let least ← decimal
  if ← atEnd then faultFrom .repetitionCountUnclosed start (← pos)
  if (← peek?) = some ',' then
    if !(← bumpOver) then faultFrom .repetitionCountUnclosed start (← pos)
    let least ← MonadExcept.ofExcept least
    if (← peek?) = some '}' then return (least, none)
    let most ← MonadExcept.ofExcept (← decimal)
    return (least, some most)
  else
    let least ← MonadExcept.ofExcept least
    return (least, some least)

/-- A repetition written with counts in braces. -/
def countRepetition (s : Sequence) : Read Sequence := do
  let start ← pos
  let (body, s) ← repeated s
  if !(← bumpOver) then faultFrom .repetitionCountUnclosed start (← pos)
  let (least, most) ← counts start
  if (← peek?) ≠ some '}' then faultFrom .repetitionCountUnclosed start (← pos)
  let mut greedy := true
  if ← bumpOver then
    if (← peek?) = some '?' then
      greedy := false
      let _ ← bump
  let stop ← pos
  match most with
  | some most => if most < least then faultFrom .repetitionCountInvalid start stop
  | none => pure ()
  return s.repeat body least most greedy stop

/-! ### The whole pattern -/

/-- What is open around the present place. -/
inductive OpenGroup where
  /-- A group, with the concatenation that it stands in and whether blanks mean nothing there. -/
  | group (outer : Sequence) (span : Span) (kind : GroupKind) (loose : Bool)
  /-- The branches of an alternation before the present one, last one first. -/
  | alternation (start : Position) (branches : List Pattern)

/-- Ends a concatenation at the present place. -/
def Sequence.endAt (s : Sequence) (stop : Position) : Sequence :=
  { s with span := ⟨s.span.start, stop⟩ }

/-- Closes the alternation, if one is open, over its last branch. -/
def closeAlternation (stop : Position) (stack : List OpenGroup) (last : Pattern) :
    List OpenGroup × Pattern :=
  match stack with
  | .alternation start branches :: outer =>
    (outer, .alternation ⟨start, stop⟩ (last :: branches).reverse)
  | _ => (stack, last)

/-- Whether blanks and comments mean nothing. -/
def setLoose (loose : Bool) : Read Unit := modify fun r ↦ { r with loose }

/-- A piece of pattern of one character or escape. -/
def primitive (c : Char) : Read Pattern := do
  if c = '\\' then escape
  else
    let span ← charSpan
    let _ ← bump
    if c = '.' then return .dot span
    else if c = '^' then return .assertion span .lineStart
    else if c = '$' then return .assertion span .lineEnd
    else return .literal ⟨span, c, false⟩

/-- Reads to the end of the pattern. Every turn passes a character, so the characters that are left
bound the turns. -/
def patternLoop : Nat → List OpenGroup → Sequence → Read Pattern
  | 0, _, s => return s.toPattern
  | fuel + 1, stack, s => do
    skipBlanks
    match ← peek? with
    | none =>
      let stop ← pos
      match closeAlternation stop stack (s.endAt stop).toPattern with
      | ([], p) => return p
      | (.group _ span _ _ :: _, _) => fault .groupUnclosed span none
      | (.alternation _ _ :: _, p) => return p
    | some '(' =>
      match ← opening with
      | .setting span items =>
        match flagState items .ignoreBlanks with
        | some loose => setLoose loose
        | none => pure ()
        patternLoop fuel stack { s with parts := .flags span items :: s.parts }
      | .group span kind =>
        let outside := (← get).loose
        match kind with
        | .flags items => setLoose ((flagState items .ignoreBlanks).getD outside)
        | .capture _ => pure ()
        let here ← pos
        patternLoop fuel (.group s span kind outside :: stack) ⟨⟨here, here⟩, []⟩
    | some ')' =>
      let stop ← pos
      match closeAlternation stop stack (s.endAt stop).toPattern with
      | (.group outer span kind loose :: stack, body) =>
        setLoose loose
        let _ ← bump
        let group := Pattern.group ⟨span.start, ← pos⟩ kind body
        patternLoop fuel stack { outer with parts := group :: outer.parts }
      | _ => faultAtChar .groupUnopened
    | some '|' =>
      let branch := (s.endAt (← pos)).toPattern
      let _ ← bump
      let here ← pos
      let stack := match stack with
        | .alternation start branches :: outer => .alternation start (branch :: branches) :: outer
        | _ => .alternation s.span.start [branch] :: stack
      patternLoop fuel stack ⟨⟨here, here⟩, []⟩
    | some '[' =>
      let class' ← bracket
      patternLoop fuel stack { s with parts := class' :: s.parts }
    | some '?' => patternLoop fuel stack (← signRepetition s 0 (some 1))
    | some '*' => patternLoop fuel stack (← signRepetition s 0 none)
    | some '+' => patternLoop fuel stack (← signRepetition s 1 none)
    | some '{' => patternLoop fuel stack (← countRepetition s)
    | some c =>
      let part ← primitive c
      patternLoop fuel stack { s with parts := part :: s.parts }

end Read

/-! ### Nesting -/

/-- The first span in preorder that nests deeper than `room` levels, if there is one. -/
def tooDeep (room : Nat) (span : Span) (inner : Nat → Option Span) : Option Span :=
  match room with
  | 0 => some span
  | room + 1 => inner room

mutual

/-- The first part of a class that nests deeper than `room` levels. -/
def ClassSet.tooDeep? (room : Nat) : ClassSet → Option Span
  | .bracketed span _ set => tooDeep room span fun room ↦ set.tooDeep? room
  | .union span items => tooDeep room span fun room ↦ ClassSet.anyTooDeep? room items
  | .operation span _ left right =>
    tooDeep room span fun room ↦ left.tooDeep? room <|> right.tooDeep? room
  | .empty _ => none
  | .literal _ => none
  | .range _ _ _ => none
  | .ascii _ _ _ => none
  | .property _ => none
  | .perl _ _ _ => none

/-- The first item that nests deeper than `room` levels. -/
def ClassSet.anyTooDeep? (room : Nat) : List ClassSet → Option Span
  | [] => none
  | item :: items => item.tooDeep? room <|> ClassSet.anyTooDeep? room items

end

mutual

/-- The first part of a pattern that nests deeper than `room` levels. -/
def Pattern.tooDeep? (room : Nat) : Pattern → Option Span
  | .bracket span _ set => tooDeep room span fun room ↦ set.tooDeep? room
  | .repetition span _ _ _ body => tooDeep room span fun room ↦ body.tooDeep? room
  | .group span _ body => tooDeep room span fun room ↦ body.tooDeep? room
  | .alternation span branches => tooDeep room span fun room ↦ Pattern.anyTooDeep? room branches
  | .concat span parts => tooDeep room span fun room ↦ Pattern.anyTooDeep? room parts
  | .empty _ => none
  | .flags _ _ => none
  | .literal _ => none
  | .dot _ => none
  | .assertion _ _ => none
  | .property _ => none
  | .perl _ _ _ => none

/-- The first pattern of a list that nests deeper than `room` levels. -/
def Pattern.anyTooDeep? (room : Nat) : List Pattern → Option Span
  | [] => none
  | p :: ps => p.tooDeep? room <|> Pattern.anyTooDeep? room ps

end

/-- A pattern that was read, with the names of its capture groups and their numbers. -/
structure Pattern.Reading where
  pattern : Pattern
  groups : Nat
  names : List (Text × Nat)

/-- Reads a pattern. -/
def Pattern.read (t : Text) : Except Fault Pattern.Reading := do
  let start : Reader := ⟨t, .start, false, 0, []⟩
  let (p, r) ← (Read.patternLoop (t.length + 1) [] ⟨⟨.start, .start⟩, []⟩).run start
  match p.tooDeep? nestLimit with
  | some span => throw ⟨.nestedTooDeep, span, none⟩
  | none => return ⟨p, r.groups, r.names.map fun n ↦ (n.1, n.2.1)⟩

end LineShell.Regex
