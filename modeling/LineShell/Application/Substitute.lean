import LineShell.Application.Basic
import LineShell.Regex.Replacement

/-!
# Replacing on lines

`sed` replaces on each line the first match of a regular expression, or every match. The expression
is `s`, a delimiter, the pattern, the delimiter, the replacement, the delimiter, and `g` if every
match is to be replaced. Any character can be the delimiter that is no letter, no number, no blank
and no backslash; neither the pattern nor the replacement can hold it.
-/

namespace LineShell.Application

/-- The name of `sed`. -/
def sedName : Text := "sed".toList

/-- The usage of `sed`. -/
def sedUsage : Usage where
  purpose := ("Replace the first (or, with a trailing g, every) regex match on each line.").toList
  operands := [
    { name := "expression".toList, kind := .required
      purpose := ("substitution in the form s/REGEX/REPLACEMENT/ or s/REGEX/REPLACEMENT/g; " ++
        "any delimiter works.").toList },
    { name := "file".toList, kind := .optional
      purpose := "file to read; the input is used when omitted.".toList }]

/-- A substitution as it is written. -/
structure Substitution where
  pattern : Text
  replacement : Text
  /-- Whether every match is replaced. -/
  everywhere : Bool
  deriving DecidableEq, Repr

namespace Substitution

/-- Whether a character can be the delimiter. -/
def isDelimiter (c : Char) : Bool := !isAlphanumericChar c && !isBlankChar c && c != '\\'

/-- Reads a substitution. -/
def read? : Text → Option Substitution
  | 's' :: delimiter :: body =>
    if !isDelimiter delimiter then none
    else
      match Text.pieces delimiter body with
      | [pattern, replacement, flags] =>
        if pattern.isEmpty then none
        else if flags.isEmpty then some ⟨pattern, replacement, false⟩
        else if flags = ['g'] then some ⟨pattern, replacement, true⟩
        else none
      | _ => none
  | _ => none

/-- The line after the substitution, whose pattern is compiled to `r`. -/
def apply (s : Substitution) (r : Regex.Matcher) (line : Text) : Text :=
  if s.everywhere then r.replaceAll s.replacement line else r.replace s.replacement line

end Substitution

/-- Replaces matches on each line. -/
def sed : Application :=
  .ofUsage sedName sedUsage (fun _ ↦ some 0) fun given ↦ do
    match Substitution.read? (given.texts.head?.getD []) with
    | none => Act.failArgument sedName .invalidFirstArgument
    | some s =>
      match Regex.Matcher.compile false s.pattern with
      | .error f => throw (.pattern sedName (.regex s.pattern f))
      | .ok r =>
        let lines ← Act.linesOf sedName (given.texts.drop 1).head?
        Act.writeLines sedName (lines.map (s.apply r))

end LineShell.Application
