import LineShell.Regex.Fault

/-!
# Patterns

The syntax tree of a regular expression, as it is written: every node has its span, because a fault
that shows later, when the pattern is given its meaning, points at it.
-/

namespace LineShell.Regex

/-- The flags that a pattern can set. -/
inductive Flag where
  /-- `i`: letters match in either case. -/
  | ignoreCase
  /-- `m`: `^` and `$` match at every line. -/
  | multiLine
  /-- `s`: `.` matches a line feed too. -/
  | dotMatchesNewLine
  /-- `U`: repetitions are lazy, and those marked `?` greedy. -/
  | swapGreed
  /-- `u`: classes are those of Unicode. -/
  | unicode
  /-- `R`: a carriage return and a line feed end a line together. -/
  | crlf
  /-- `x`: blanks and comments in the pattern mean nothing. -/
  | ignoreBlanks
  deriving DecidableEq, Repr

/-- The letter of a flag. -/
def Flag.ofChar? : Char → Option Flag
  | 'i' => some ignoreCase
  | 'm' => some multiLine
  | 's' => some dotMatchesNewLine
  | 'U' => some swapGreed
  | 'u' => some unicode
  | 'R' => some crlf
  | 'x' => some ignoreBlanks
  | _ => none

/-- An entry of a list of flags: a flag, or the `-` that turns off those after it. -/
inductive FlagItem where
  | flag (f : Flag)
  | negation
  deriving DecidableEq, Repr

/-- What a list of flags does to one flag, if it names it. -/
def flagState (items : List FlagItem) (f : Flag) : Option Bool :=
  match items.span (· != .flag f) with
  | (_, []) => none
  | (before, _ :: _) => some (!before.contains .negation)

/-- The classes that a single letter names. -/
inductive PerlClass where
  | digit
  | space
  | word
  deriving DecidableEq, Repr

/-- The classes that are written `[:name:]`. -/
inductive AsciiClass where
  | alnum | alpha | ascii | blank | cntrl | digit | graph | lower | print | punct | space | upper
  | word | xdigit
  deriving DecidableEq, Repr

/-- The class with the given name. -/
def AsciiClass.ofName? (name : Text) : Option AsciiClass :=
  ([("alnum", alnum), ("alpha", alpha), ("ascii", ascii), ("blank", blank), ("cntrl", cntrl),
    ("digit", digit), ("graph", graph), ("lower", lower), ("print", print), ("punct", punct),
    ("space", space), ("upper", upper), ("word", word), ("xdigit", xdigit)].find?
      fun entry ↦ entry.1.toList == name).map Prod.snd

/-- The name of a Unicode property, as `\p` gives it. -/
inductive PropertyName where
  /-- `\pL`. -/
  | letter (c : Char)
  /-- `\p{Greek}`. -/
  | named (name : Text)
  /-- `\p{Script=Greek}`; `unequal` when it is written with `!=`. -/
  | valued (name : Text) (unequal : Bool) (value : Text)
  deriving DecidableEq, Repr

/-- A Unicode class; `negated` when it is written `\P`. -/
structure PropertyClass where
  span : Span
  negated : Bool
  name : PropertyName
  deriving DecidableEq, Repr

/-- Whether the class holds the characters without the property: `\P` and `!=` undo each other. -/
def PropertyClass.isComplement (p : PropertyClass) : Bool :=
  match p.name with
  | .valued _ unequal _ => p.negated != unequal
  | _ => p.negated

/-- A character that stands for itself. -/
structure Literal where
  span : Span
  char : Char
  /-- Written with two hexadecimal digits, so that it can also stand for a byte. -/
  isByte : Bool
  deriving DecidableEq, Repr

/-- The set operations in brackets. -/
inductive SetOp where
  | intersection
  | difference
  | symmetricDifference
  deriving DecidableEq, Repr

/-- What stands in brackets. -/
inductive ClassSet where
  | empty (span : Span)
  | literal (l : Literal)
  | range (span : Span) (first last : Literal)
  | ascii (span : Span) (negated : Bool) (c : AsciiClass)
  | property (p : PropertyClass)
  | perl (span : Span) (negated : Bool) (c : PerlClass)
  | bracketed (span : Span) (negated : Bool) (set : ClassSet)
  | union (span : Span) (items : List ClassSet)
  | operation (span : Span) (op : SetOp) (left right : ClassSet)

/-- The edges of a word that an assertion can ask for. -/
inductive WordEdge where
  /-- Between a word character and another one. -/
  | boundary
  /-- Not at such a place. -/
  | inside
  /-- Before a word. -/
  | start
  /-- After a word. -/
  | stop
  /-- Not after a word character. -/
  | startHalf
  /-- Not before a word character. -/
  | stopHalf
  deriving DecidableEq, Repr

/-- The assertions. -/
inductive Assertion where
  | lineStart
  | lineEnd
  | textStart
  | textEnd
  | word (edge : WordEdge)
  deriving DecidableEq, Repr

/-- The kinds of groups. -/
inductive GroupKind where
  | capture (index : Nat)
  | flags (items : List FlagItem)
  deriving DecidableEq, Repr

/-- A regular expression as it is written. -/
inductive Pattern where
  | empty (span : Span)
  | flags (span : Span) (items : List FlagItem)
  | literal (l : Literal)
  | dot (span : Span)
  | assertion (span : Span) (a : Assertion)
  | property (p : PropertyClass)
  | perl (span : Span) (negated : Bool) (c : PerlClass)
  | bracket (span : Span) (negated : Bool) (set : ClassSet)
  | repetition (span : Span) (least : Nat) (most : Option Nat) (greedy : Bool) (body : Pattern)
  | group (span : Span) (kind : GroupKind) (body : Pattern)
  | alternation (span : Span) (branches : List Pattern)
  | concat (span : Span) (parts : List Pattern)

/-- The span of what stands in brackets. -/
def ClassSet.span : ClassSet → Span
  | .empty span => span
  | .literal l => l.span
  | .range span _ _ => span
  | .ascii span _ _ => span
  | .property p => p.span
  | .perl span _ _ => span
  | .bracketed span _ _ => span
  | .union span _ => span
  | .operation span _ _ _ => span

/-- The span of a pattern. -/
def Pattern.span : Pattern → Span
  | .empty span => span
  | .flags span _ => span
  | .literal l => l.span
  | .dot span => span
  | .assertion span _ => span
  | .property p => p.span
  | .perl span _ _ => span
  | .bracket span _ _ => span
  | .repetition span _ _ _ _ => span
  | .group span _ _ => span
  | .alternation span _ => span
  | .concat span _ => span

end LineShell.Regex
