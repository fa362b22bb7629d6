import LineShell.Regex.Meaning
import LineShell.Regex.Reading
import LineShell.Regex.Search

/-!
# Compiling and replacing

A pattern is compiled to a matcher or refused with a fault. A **template** is what a match is
replaced by: text in which `$name`, `$1` and the same in braces stand for what a group matched and
`$$` for a dollar sign. A group that does not exist or took no part is empty; any other dollar sign
stands for itself.

It is assumed that a matcher may be of any size. Where its size is limited, a pattern that is
repeated very often can be refused for that, with an error of one line; here it is compiled.
-/

namespace LineShell.Regex

/-- The matcher of a pattern, of any size; `ignoreCase` as if the pattern began with the flag
`i`. -/
def Matcher.compile (ignoreCase : Bool) (pattern : Text) : Except Fault Matcher := do
  let reading ← Pattern.read pattern
  let (e, _) ← reading.pattern.sense.run { ignoreCase }
  return ⟨e.program, reading.groups, reading.names⟩

/-! ### Templates -/

/-- A piece of a template. -/
inductive TemplatePart where
  | char (c : Char)
  | group (index : Nat)
  | name (t : Text)
  deriving DecidableEq, Repr

namespace TemplatePart

/-- Whether a character can stand in a reference without braces. -/
def isReferenceChar (c : Char) : Bool := c.isAlphanum || c == '_'

/-- The group that a reference means; a number may have a plus sign in front. -/
def ofReference (t : Text) : TemplatePart :=
  match t with
  | '+' :: digits => (Text.toNat? digits).elim (name t) group
  | _ => (Text.toNat? t).elim (name t) group

/-- The parts of a template. A reference is read at the dollar sign in front of it; `skip` counts
the characters that were read with the part before. -/
def partsFrom : Nat → Text → List TemplatePart
  | _, [] => []
  | skip + 1, _ :: rest => partsFrom skip rest
  | 0, c :: rest =>
    if c = '$' then
      match rest with
      | '$' :: _ => char '$' :: partsFrom 1 rest
      | '{' :: braced =>
        let inner := braced.takeWhile (· != '}')
        if inner.length < braced.length then ofReference inner :: partsFrom (inner.length + 2) rest
        else char '$' :: partsFrom 0 rest
      | _ =>
        let reference := rest.takeWhile isReferenceChar
        if reference.isEmpty then char '$' :: partsFrom 0 rest
        else ofReference reference :: partsFrom reference.length rest
    else char c :: partsFrom 0 rest

end TemplatePart

/-- The parts of a template. -/
def templateParts (template : Text) : List TemplatePart := TemplatePart.partsFrom 0 template

namespace Matcher

/-- The characters of a text from one index up to another. -/
def between (t : Text) (first last : Nat) : Text := (t.drop first).take (last - first)

/-- What a group matched; `rest` is the line from the index `first` on, and the match is in it. -/
def groupText (first : Nat) (rest : Text) (m : Match) (index : Nat) : Text :=
  match m.group? index with
  | some (start, stop) => between rest (start - first) (stop - first)
  | none => []

/-- What a part of a template stands for. -/
def partText (r : Matcher) (first : Nat) (rest : Text) (m : Match) : TemplatePart → Text
  | .char c => [c]
  | .group index => groupText first rest m index
  | .name name =>
    match r.names.find? (·.1 == name) with
    | some (_, index) => groupText first rest m index
    | none => []

/-- The rest of a line with the matches replaced. The rest begins at the index `first`; the matches
are in order and in it. -/
def replaceFrom (r : Matcher) (template : List TemplatePart) (first : Nat) (rest : Text) :
    List Match → Text
  | [] => rest
  | m :: more =>
    rest.take (m.first - first) ++ template.flatMap (r.partText first rest m) ++
      replaceFrom r template m.last (rest.drop (m.last - first)) more

/-- The line with its first match replaced. -/
def replace (r : Matcher) (template line : Text) : Text :=
  r.replaceFrom (templateParts template) 0 line ((r.find? (.start line)).toList)

/-- The line with all its matches replaced. -/
def replaceAll (r : Matcher) (template line : Text) : Text :=
  r.replaceFrom (templateParts template) 0 line (r.allMatches line)

end Matcher

end LineShell.Regex
