import LineShell.Regex.Reader
import LineShell.Unicode.Table

/-!
# Reading a pattern: escapes

What a backslash and the characters after it mean: a character written by its number, a Unicode
class, a class of one letter, an assertion, or a character that would otherwise mean something
else. Only punctuation can be escaped for nothing; letters and digits are kept for meanings.
-/

namespace LineShell.Regex.Read

/-- The characters with a meaning in patterns. -/
def metaCharacters : Text := "\\.+*?()|[]\x7b\x7d^$#&-~".toList

/-- The characters that stand for themselves behind a backslash. -/
def isEscapable (c : Char) : Bool :=
  metaCharacters.contains c ||
    (c.toNat < 0x80 && !c.isAlphanum && c != '<' && c != '>')

/-- Whether a number is that of a character. -/
def isScalar (n : Nat) : Bool := n < 0xD800 || (0xDFFF < n && n ≤ 0x10FFFF)

/-- Reads `count` more hexadecimal digits; `first` tells that the next one is the first. -/
def hexDigits (first : Bool) : Nat → Read Text
  | 0 => return []
  | count + 1 => do
    if !first then
      if !(← bumpOver) then faultHere .escapeUnfinished
    match ← peek? with
    | some c =>
      if (Table.hexDigit? c).isNone then faultAtChar .escapeHexInvalidDigit
      return c :: (← hexDigits false count)
    | none => faultHere .escapeUnfinished

/-- The character of a number, with the span that it is written in. -/
def charOfHex (digits : Text) (start : Position) (span : Span) (isByte : Bool) : Read Pattern := do
  let n := Table.hexValue digits
  if isScalar n then return .literal ⟨⟨start, span.stop⟩, Char.ofNat n, isByte⟩
  else fault .escapeHexInvalid span none

/-- A character written with a fixed count of hexadecimal digits. -/
def hexFixed (start : Position) (count : Nat) (isByte : Bool) : Read Pattern := do
  let first ← pos
  let digits ← hexDigits true count
  let _ ← bumpOver
  charOfHex digits start ⟨first, ← pos⟩ isByte

/-- Reads hexadecimal digits up to the closing brace; at most `fuel` characters are read. -/
def bracedDigits : Nat → Read Text
  | 0 => return []
  | fuel + 1 => do
    if ← bumpOver then
      match ← peek? with
      | some c =>
        if c = '}' then return []
        else if (Table.hexDigit? c).isNone then faultAtChar .escapeHexInvalidDigit
        else return c :: (← bracedDigits fuel)
      | none => return []
    else return []

/-- A character written with hexadecimal digits in braces. -/
def hexBraced (start : Position) : Read Pattern := do
  let brace ← pos
  let first := (← charSpan).stop
  let digits ← bracedDigits (← get).rest.length
  if ← atEnd then faultFrom .escapeUnfinished brace (← pos)
  let last ← pos
  let _ ← bumpOver
  if digits.isEmpty then faultFrom .escapeHexEmpty brace (← pos)
  let n := Table.hexValue digits
  if isScalar n then return .literal ⟨⟨start, ← pos⟩, Char.ofNat n, false⟩
  else faultFrom .escapeHexInvalid first last

/-- A character written by its number; `x`, `u` and `U` take two, four and eight digits. -/
def hex (start : Position) (kind : Char) : Read Pattern := do
  if !(← bumpOver) then faultHere .escapeUnfinished
  if (← peek?) = some '{' then hexBraced start
  else hexFixed start (if kind = 'x' then 2 else if kind = 'u' then 4 else 8) (kind = 'x')

/-- What comes before and after the first occurrence of `sep`. -/
def cutAt? (sep : Text) : Text → Option (Text × Text)
  | [] => none
  | c :: rest =>
    if sep.isPrefixOf (c :: rest) then some ([], (c :: rest).drop sep.length)
    else (cutAt? sep rest).map fun cut ↦ (c :: cut.1, cut.2)

/-- The property that is named in braces; a value is put behind `!=`, `:` or `=`. -/
def propertyName (t : Text) : PropertyName :=
  match cutAt? ['!', '='] t, cutAt? [':'] t, cutAt? ['='] t with
  | some (name, value), _, _ => .valued name true value
  | none, some (name, value), _ => .valued name false value
  | none, none, some (name, value) => .valued name false value
  | none, none, none => .named t

/-- Reads characters up to the closing brace; at most `fuel` characters are read. -/
def bracedName : Nat → Read Text
  | 0 => return []
  | fuel + 1 => do
    if ← bumpOver then
      match ← peek? with
      | some c => if c = '}' then return [] else return c :: (← bracedName fuel)
      | none => return []
    else return []

/-- A Unicode class: the name of a property in braces, or a single letter. -/
def propertyClass (start : Position) (negated : Bool) : Read Pattern := do
  if !(← bumpOver) then faultHere .escapeUnfinished
  if (← peek?) = some '{' then
    let name ← bracedName (← get).rest.length
    if ← atEnd then faultHere .escapeUnfinished
    let _ ← bump
    return .property ⟨⟨start, ← pos⟩, negated, propertyName name⟩
  else
    match ← peek? with
    | some c =>
      if c = '\\' then faultAtChar .propertyUnnamed
      let _ ← bumpOver
      return .property ⟨⟨start, ← pos⟩, negated, .letter c⟩
    | none => faultHere .escapeUnfinished

/-- The edge of a word that has the given name. -/
def edgeOfName? (name : Text) : Option WordEdge :=
  ([("start", WordEdge.start), ("end", .stop), ("start-half", .startHalf),
    ("end-half", .stopHalf)].find? fun entry ↦ entry.1.toList == name).map Prod.snd

/-- The characters of the names of word edges. -/
def isEdgeChar (c : Char) : Bool := c.isAlpha || c == '-'

/-- The edge of a word that stands in braces behind `\b`, or nothing where the braces hold the
counts of a repetition. -/
def edgeInBraces? (start : Position) : Read (Option WordEdge) := do
  let before ← get
  if !(← bumpOver) then faultFrom .wordBoundaryUnfinished start (← pos)
  let first ← pos
  match ← peek? with
  | some c =>
    if !isEdgeChar c then
      set before
      return none
    let name ← collect isEdgeChar (← get).rest.length
    if (← peek?) ≠ some '}' then faultFrom .wordBoundaryUnclosed before.pos (← pos)
    let last ← pos
    let _ ← bump
    match edgeOfName? name with
    | some edge => return some edge
    | none => faultFrom .wordBoundaryUnrecognized first last
  | none => faultFrom .wordBoundaryUnfinished start (← pos)

/-- The characters that have a letter behind the backslash. -/
def controlOf? : Char → Option Char
  | 'a' => some '\x07'
  | 'f' => some '\x0c'
  | 't' => some '\t'
  | 'n' => some '\n'
  | 'r' => some '\r'
  | 'v' => some '\x0b'
  | _ => none

/-- The assertions that have a sign behind the backslash. -/
def assertionOf? : Char → Option Assertion
  | 'A' => some .textStart
  | 'z' => some .textEnd
  | 'b' => some (.word .boundary)
  | 'B' => some (.word .inside)
  | '<' => some (.word .start)
  | '>' => some (.word .stop)
  | _ => none

/-- The class of one letter, and whether it is negated. -/
def perlOf? : Char → Option (Bool × PerlClass)
  | 'd' => some (false, .digit)
  | 's' => some (false, .space)
  | 'w' => some (false, .word)
  | 'D' => some (true, .digit)
  | 'S' => some (true, .space)
  | 'W' => some (true, .word)
  | _ => none

/-- What is escaped by the backslash that comes next. -/
def escape : Read Pattern := do
  let start ← pos
  if !(← bump) then faultFrom .escapeUnfinished start (← pos)
  match ← peek? with
  | none => faultFrom .escapeUnfinished start (← pos)
  | some c =>
    if c.isDigit then fault .backreference ⟨start, (← charSpan).stop⟩ none
    else if c = 'x' ∨ c = 'u' ∨ c = 'U' then hex start c
    else if c = 'p' ∨ c = 'P' then propertyClass start (c = 'P')
    else
      let _ ← bump
      let span : Span := ⟨start, ← pos⟩
      match perlOf? c, controlOf? c, assertionOf? c with
      | some (negated, perl), _, _ => return .perl span negated perl
      | none, some control, _ => return .literal ⟨span, control, false⟩
      | none, none, some a =>
        if c = 'b' ∧ (← peek?) = some '{' then
          match ← edgeInBraces? start with
          | some edge => return .assertion ⟨start, ← pos⟩ (.word edge)
          | none => return .assertion span a
        else return .assertion span a
      | none, none, none =>
        if isEscapable c then return .literal ⟨span, c, false⟩
        else fault .escapeUnrecognized span none

end LineShell.Regex.Read
