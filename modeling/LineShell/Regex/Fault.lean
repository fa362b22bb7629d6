import LineShell.Text.Lines

/-!
# Faults of a regular expression

A **fault** is what makes a regular expression unacceptable: its kind and the span of the pattern
that it concerns, and for a name or flag that is given twice the span of its first use. The report
of a fault shows the pattern with a caret under each character of the spans. A pattern of several
lines is shown with line numbers between two rules.
-/

namespace LineShell.Regex

/-- A place in a pattern: characters before it, and its line and column, both from one. -/
structure Position where
  offset : Nat
  line : Nat
  column : Nat
  deriving DecidableEq, Repr

/-- The place before the first character. -/
def Position.start : Position := ⟨0, 1, 1⟩

/-- The place after the character `c`. -/
def Position.next (p : Position) (c : Char) : Position :=
  if c = '\n' then ⟨p.offset + 1, p.line + 1, 1⟩ else ⟨p.offset + 1, p.line, p.column + 1⟩

/-- The characters of a pattern from one place up to another. -/
structure Span where
  start : Position
  stop : Position
  deriving DecidableEq, Repr

/-- What can be wrong with a regular expression. -/
inductive FaultKind where
  | classEscapeInvalid
  | classRangeInvalid
  | classRangeLiteral
  | classUnclosed
  | decimalInvalid
  | escapeHexEmpty
  | escapeHexInvalid
  | escapeHexInvalidDigit
  | escapeUnfinished
  | escapeUnrecognized
  | flagDanglingNegation
  | flagDuplicate
  | flagRepeatedNegation
  | flagUnfinished
  | flagUnrecognized
  | groupNameDuplicate
  | groupNameEmpty
  | groupNameInvalid
  | groupNameUnfinished
  | groupUnclosed
  | groupUnopened
  | nestedTooDeep
  | repetitionCountInvalid
  | repetitionCountEmpty
  | repetitionCountUnclosed
  | repetitionMissing
  | wordBoundaryUnclosed
  | wordBoundaryUnrecognized
  | wordBoundaryUnfinished
  | propertyUnnamed
  | backreference
  | lookAround
  | unicodeNotAllowed
  | invalidUtf8
  | propertyNotFound
  | propertyValueNotFound
  deriving DecidableEq, Repr

/-- How deep groups and classes may nest. -/
def nestLimit : Nat := 250

/-- The description of a fault. -/
def FaultKind.message : FaultKind → Text
  | classEscapeInvalid => "invalid escape sequence found in character class".toList
  | classRangeInvalid =>
    "invalid character class range, the start must be <= the end".toList
  | classRangeLiteral => "invalid range boundary, must be a literal".toList
  | classUnclosed => "unclosed character class".toList
  | decimalInvalid => "decimal literal invalid".toList
  | escapeHexEmpty => "hexadecimal literal empty".toList
  | escapeHexInvalid => "hexadecimal literal is not a Unicode scalar value".toList
  | escapeHexInvalidDigit => "invalid hexadecimal digit".toList
  | escapeUnfinished => "incomplete escape sequence, reached end of pattern prematurely".toList
  | escapeUnrecognized => "unrecognized escape sequence".toList
  | flagDanglingNegation => "dangling flag negation operator".toList
  | flagDuplicate => "duplicate flag".toList
  | flagRepeatedNegation => "flag negation operator repeated".toList
  | flagUnfinished => "expected flag but got end of regex".toList
  | flagUnrecognized => "unrecognized flag".toList
  | groupNameDuplicate => "duplicate capture group name".toList
  | groupNameEmpty => "empty capture group name".toList
  | groupNameInvalid => "invalid capture group character".toList
  | groupNameUnfinished => "unclosed capture group name".toList
  | groupUnclosed => "unclosed group".toList
  | groupUnopened => "unopened group".toList
  | nestedTooDeep =>
    "exceed the maximum number of nested parentheses/brackets (".toList ++ Text.ofNat nestLimit ++
      [')']
  | repetitionCountInvalid =>
    "invalid repetition count range, the start must be <= the end".toList
  | repetitionCountEmpty => "repetition quantifier expects a valid decimal".toList
  | repetitionCountUnclosed => "unclosed counted repetition".toList
  | repetitionMissing => "repetition operator missing expression".toList
  | wordBoundaryUnclosed =>
    "special word boundary assertion is either unclosed or contains an invalid character".toList
  | wordBoundaryUnrecognized =>
    ("unrecognized special word boundary assertion, " ++
      "valid choices are: start, end, start-half or end-half").toList
  | wordBoundaryUnfinished =>
    ("found either the beginning of a special word boundary or a bounded repetition " ++
      "on a \\b with an opening brace, but no closing brace").toList
  | propertyUnnamed => "invalid Unicode character class".toList
  | backreference => "backreferences are not supported".toList
  | lookAround => "look-around, including look-ahead and look-behind, is not supported".toList
  | unicodeNotAllowed => "Unicode not allowed here".toList
  | invalidUtf8 => "pattern can match invalid UTF-8".toList
  | propertyNotFound => "Unicode property not found".toList
  | propertyValueNotFound => "Unicode property value not found".toList

/-- A fault of a pattern. -/
structure Fault where
  kind : FaultKind
  span : Span
  /-- The first use of a name or flag that is given twice. -/
  earlier : Option Span := none
  deriving DecidableEq, Repr

/-! ### Reporting -/

/-- Carets under the columns of the spans, which are in order; `column` is the next column. -/
def carets (column : Nat) : List Span → Text
  | [] => []
  | span :: rest =>
    let blanks := span.start.column - column
    let marks := max 1 (span.stop.column - span.start.column)
    List.replicate blanks ' ' ++ List.replicate marks '^' ++ carets (column + blanks + marks) rest

/-- The pattern with its lines numbered where there are several, and carets under the spans. -/
def annotate (pattern : Text) (spans : List Span) : Text :=
  let count := pattern.lines.length + if pattern.getLast? = some '\n' then 1 else 0
  let width := if count ≤ 1 then 0 else (Text.ofNat count).length
  let heading (n : Nat) : Text :=
    if width = 0 then List.replicate 4 ' '
    else List.replicate (width - (Text.ofNat n).length) ' ' ++ Text.ofNat n ++ ": ".toList
  let margin := if width = 0 then 4 else width + 2
  ((pattern.lines.zipIdx 1).flatMap fun p ↦
    let here := spans.filter (·.start.line == p.2)
    heading p.2 ++ p.1 ++ ['\n'] ++
      if here.isEmpty then [] else List.replicate margin ' ' ++ carets 1 here ++ ['\n'])

/-- Where a span of several lines lies. -/
def Span.describe (s : Span) : Text :=
  "on line ".toList ++ Text.ofNat s.start.line ++ " (column ".toList ++ Text.ofNat s.start.column ++
    ") through line ".toList ++ Text.ofNat s.stop.line ++ " (column ".toList ++
    Text.ofNat (s.stop.column - 1) ++ [')']

/-- The report of a fault of a pattern. -/
def Fault.report (pattern : Text) (f : Fault) : Text :=
  let before (a b : Span) : Bool :=
    a.start.offset < b.start.offset ||
      (a.start.offset == b.start.offset && a.stop.offset ≤ b.stop.offset)
  let spans := match f.earlier with
    | none => [f.span]
    | some e => if before f.span e then [f.span, e] else [e, f.span]
  let onOneLine := spans.filter fun s ↦ s.start.line == s.stop.line
  let onSeveral := spans.filter fun s ↦ s.start.line != s.stop.line
  let notated := annotate pattern onOneLine
  let rule := List.replicate 79 '~' ++ ['\n']
  "regex parse error:\n".toList ++
    (if '\n' ∈ pattern then
      rule ++ notated ++ rule ++
        if onSeveral.isEmpty then [] else Text.join ['\n'] (onSeveral.map Span.describe) ++ ['\n']
    else notated) ++
    "error: ".toList ++ f.kind.message

end LineShell.Regex
