import LineShell.Regex.Expr
import LineShell.Unicode.Named

/-!
# The meaning of a pattern

A pattern that was read is turned into an expression. Flags hold from where they are set to the end
of the group around them, across the bars of an alternation. A class is folded for case before it
is negated. Without the flag `u` classes hold bytes: only ASCII characters can stand in them, and a
class that would match part of a character is refused.
-/

namespace LineShell.Regex

/-- The flags that hold at a place of a pattern. -/
structure Flags where
  ignoreCase : Bool := false
  multiLine : Bool := false
  dotMatchesNewLine : Bool := false
  swapGreed : Bool := false
  unicode : Bool := true
  crlf : Bool := false
  deriving DecidableEq, Repr

namespace Flags

/-- The flags after a list of flags. -/
def update (f : Flags) (items : List FlagItem) : Flags where
  ignoreCase := (flagState items .ignoreCase).getD f.ignoreCase
  multiLine := (flagState items .multiLine).getD f.multiLine
  dotMatchesNewLine := (flagState items .dotMatchesNewLine).getD f.dotMatchesNewLine
  swapGreed := (flagState items .swapGreed).getD f.swapGreed
  unicode := (flagState items .unicode).getD f.unicode
  crlf := (flagState items .crlf).getD f.crlf

/-- The set with the other case of its letters, where case does not count. -/
def fold (f : Flags) (s : CharSet) : CharSet :=
  if !f.ignoreCase then s else if f.unicode then s.foldCase else s.foldAsciiCase

/-- The set, folded for case and then negated if it is to be. -/
def finish (f : Flags) (span : Span) (negated : Bool) (s : CharSet) : Except Fault CharSet :=
  let s := f.fold s
  if f.unicode then .ok (if negated then s.compl else s)
  else if negated || !s.isAscii then .error ⟨.invalidUtf8, span, none⟩
  else .ok s

end Flags

/-! ### Classes -/

/-- The characters of a class that is written `[:name:]`. -/
def AsciiClass.set : AsciiClass → CharSet
  | alnum => .ofRanges [(0x30, 0x39), (0x41, 0x5A), (0x61, 0x7A)]
  | alpha => .ofRanges [(0x41, 0x5A), (0x61, 0x7A)]
  | ascii => .ofRanges [(0, 0x7F)]
  | blank => .ofRanges [(0x09, 0x09), (0x20, 0x20)]
  | cntrl => .ofRanges [(0, 0x1F), (0x7F, 0x7F)]
  | digit => .ofRanges [(0x30, 0x39)]
  | graph => .ofRanges [(0x21, 0x7E)]
  | lower => .ofRanges [(0x61, 0x7A)]
  | print => .ofRanges [(0x20, 0x7E)]
  | punct => .ofRanges [(0x21, 0x2F), (0x3A, 0x40), (0x5B, 0x60), (0x7B, 0x7E)]
  | space => .ofRanges [(0x09, 0x0D), (0x20, 0x20)]
  | upper => .ofRanges [(0x41, 0x5A)]
  | word => .ofRanges [(0x30, 0x39), (0x41, 0x5A), (0x5F, 0x5F), (0x61, 0x7A)]
  | xdigit => .ofRanges [(0x30, 0x39), (0x41, 0x46), (0x61, 0x66)]

/-- The characters of a class of one letter, of all scripts or of ASCII. -/
def PerlClass.set (unicode : Bool) : PerlClass → CharSet
  | digit => if unicode then .decimalDigit else AsciiClass.digit.set
  | space => if unicode then .whiteSpace else AsciiClass.space.set
  | word => if unicode then .word else AsciiClass.word.set

/-- The characters of a class of one letter. -/
def perlSet (f : Flags) (span : Span) (negated : Bool) (c : PerlClass) : Except Fault CharSet :=
  ({ f with ignoreCase := false }).finish span negated (c.set f.unicode)

/-- The set that a property names. -/
def PropertyName.set : PropertyName → Except CharSet.NameFault CharSet
  | letter c => CharSet.ofName [c]
  | named name => CharSet.ofName name
  | valued name _ value => CharSet.ofValue name value

/-- The characters of a Unicode class. -/
def propertySet (f : Flags) (p : PropertyClass) : Except Fault CharSet :=
  if !f.unicode then .error ⟨.unicodeNotAllowed, p.span, none⟩
  else match p.name.set with
    | .ok s => f.finish p.span p.isComplement s
    | .error .noProperty => .error ⟨.propertyNotFound, p.span, none⟩
    | .error .noValue => .error ⟨.propertyValueNotFound, p.span, none⟩

/-- The character of a literal; a byte that is no ASCII character is refused where bytes count. -/
def literalChar (f : Flags) (l : Literal) : Except Fault Char :=
  if !f.unicode && l.isByte && 0x80 ≤ l.char.toNat then .error ⟨.invalidUtf8, l.span, none⟩
  else .ok l.char

/-- The character of a literal in a class. -/
def classChar (f : Flags) (l : Literal) : Except Fault Char := do
  let c ← literalChar f l
  if !f.unicode && 0x80 ≤ c.toNat then throw ⟨.unicodeNotAllowed, l.span, none⟩
  return c

/-- The set that a set operation gives. -/
def SetOp.apply : SetOp → CharSet → CharSet → CharSet
  | intersection, s, t => s.inter t
  | difference, s, t => s.diff t
  | symmetricDifference, s, t => s.symmDiff t

mutual

/-- The characters of what stands in brackets. -/
def ClassSet.toSet (f : Flags) : ClassSet → Except Fault CharSet
  | .empty _ => .ok .empty
  | .literal l => return .single (← classChar f l)
  | .range _ first last => do
    let lo ← classChar f first
    let hi ← classChar f last
    return .ofRanges [(lo.toNat, hi.toNat)]
  | .ascii span negated c => f.finish span negated c.set
  | .property p => propertySet f p
  | .perl span negated c => perlSet f span negated c
  | .bracketed span negated set => do f.finish span negated (← set.toSet f)
  | .union _ items => return .unionAll (← ClassSet.toSets f items)
  | .operation _ op left right => do
    let s ← left.toSet f
    let t ← right.toSet f
    return op.apply (f.fold s) (f.fold t)

/-- The characters of each of several items. -/
def ClassSet.toSets (f : Flags) : List ClassSet → Except Fault (List CharSet)
  | [] => .ok []
  | item :: items => do
    let s ← item.toSet f
    return s :: (← ClassSet.toSets f items)

end

/-! ### Patterns -/

/-- What `.` matches: every character but those that end a line. -/
def dotSet (f : Flags) : CharSet :=
  if f.dotMatchesNewLine then .univ
  else if f.crlf then (CharSet.ofRanges [(0x0A, 0x0A), (0x0D, 0x0D)]).compl
  else (CharSet.single '\n').compl

/-- The test that an assertion makes. -/
def Assertion.look (f : Flags) : Assertion → Look
  | lineStart => if f.multiLine then .lineStart f.crlf else .textStart
  | lineEnd => if f.multiLine then .lineEnd f.crlf else .textEnd
  | textStart => .textStart
  | textEnd => .textEnd
  | word edge => .word edge f.unicode

/-- Giving a meaning: the flags go from left to right. -/
abbrev Sense := StateT Flags (Except Fault)

/-- The expression of a class. -/
def setExpr (f : Flags) (s : CharSet) : Expr := .ofSet (!f.unicode) s

/-- The expression of a single character. -/
def charExpr (f : Flags) (c : Char) : Expr :=
  if f.ignoreCase && (f.unicode || c.toNat < 0x80) then setExpr f (f.fold (.single c))
  else .literal [c]

mutual

/-- The expression that a pattern stands for. -/
def Pattern.sense : Pattern → Sense Expr
  | .empty _ => return .empty
  | .flags _ items => do
    modify fun f ↦ f.update items
    return .empty
  | .literal l => do return charExpr (← get) (← literalChar (← get) l)
  | .dot span => do
    if !(← get).unicode then throw ⟨.invalidUtf8, span, none⟩
    return setExpr (← get) (dotSet (← get))
  | .assertion _ a => do return .look (a.look (← get))
  | .property p => do return setExpr (← get) (← propertySet (← get) p)
  | .perl span negated c => do return setExpr (← get) (← perlSet (← get) span negated c)
  | .bracket span negated set => do
    let f ← get
    return setExpr f (← f.finish span negated (← set.toSet f))
  | .repetition _ least most greedy body => do
    let e ← body.sense
    return e.times least most (greedy != (← get).swapGreed)
  | .group _ kind body => do
    let outside ← get
    match kind with
    | .flags items => modify fun f ↦ f.update items
    | .capture _ => pure ()
    let e ← body.sense
    set outside
    match kind with
    | .flags _ => return e
    | .capture index => return .capture index e
  | .alternation _ branches => do return .firstOf (← Pattern.senseEach branches)
  | .concat _ parts => do return .inOrder (← Pattern.senseEach parts)

/-- The expressions that several patterns stand for. -/
def Pattern.senseEach : List Pattern → Sense (List Expr)
  | [] => return []
  | p :: ps => do
    let e ← p.sense
    return e :: (← Pattern.senseEach ps)

end

end LineShell.Regex
