import LineShell.Application.Basic
import LineShell.Regex.Replacement

/-!
# Searching lines

`grep` shows the lines of files or of the input that a regular expression matches, and after each of
them as many lines as are asked for. Where lines are left out between two shown ones a separator
stands, if such context was asked for. With several files every line has the name of its file in
front.
-/

namespace LineShell.Application

/-- The name of `grep`. -/
def grepName : Text := "grep".toList

/-- The usage of `grep`. -/
def grepUsage : Usage where
  purpose := "print lines matching a pattern".toList
  options := [
    { short := 'w', long := "word-regexp".toList, kind := .switch
      purpose := "match only whole words (using non-word characters as boundaries)".toList },
    { short := 'i', long := "ignore-case".toList, kind := .switch
      purpose := "ignore case distinctions".toList },
    { short := 'A', long := "after-context".toList, kind := .count
      purpose := "print NUM lines of trailing context after matching lines".toList }]
  operands := [
    { name := "pattern".toList, kind := .required
      purpose := "the pattern to search for (a regular expression)".toList },
    { name := "files".toList, kind := .many
      purpose := "files to search. If none provided, reads from the input.".toList }]

/-- The index of the pattern among the arguments: the first argument that is neither an option nor
the count of one. -/
def grepPatternFrom (index : Nat) : List Text → Option Nat
  | [] => none
  | argument :: rest =>
    if argument = "-A".toList ∨ argument = "--after-context".toList then
      match rest with
      | [] => none
      | _ :: rest => grepPatternFrom (index + 2) rest
    else if argument.head? = some '-' ∧ 1 < argument.length then grepPatternFrom (index + 1) rest
    else some index

/-- The pattern that matches whole words only. -/
def wholeWords (pattern : Text) : Text := "\\b(".toList ++ pattern ++ ")\\b".toList

/-! ### Context -/

/-- Which lines are shown, given which of them match: a matching line and the `context` lines after
it. `left` is how many lines are still owed. -/
def shownFrom (context left : Nat) : List Bool → List Bool
  | [] => []
  | true :: rest => true :: shownFrom context context rest
  | false :: rest => (0 < left : Bool) :: shownFrom context (left - 1) rest

/-- The separator between groups of lines. -/
def groupMark : Text := ['-', '-']

/-- The shown lines. Where lines were left out since the last shown one, a separator comes first if
`separated` holds; `shown` tells whether a line was shown, `skipped` whether one was left out since
then. -/
def withMarks (separated shown skipped : Bool) : List (Text × Bool) → List Text
  | [] => []
  | (line, true) :: rest =>
    let mark := if separated && shown && skipped then [groupMark] else []
    mark ++ line :: withMarks separated true false rest
  | (_, false) :: rest => withMarks separated shown true rest

/-- What is shown of the lines of one file. -/
def matchingLines (r : Regex.Matcher) (context : Nat) (label : Text) (lines : List Text) :
    List Text :=
  let shown := shownFrom context 0 (lines.map r.isMatch)
  withMarks (0 < context) false false ((lines.map (label ++ ·)).zip shown)

/-! ### The application -/

/-- Shows the matching lines of files; each line is labelled if `labelled` holds. -/
def searchFiles (r : Regex.Matcher) (context : Nat) (labelled : Bool) : List Text → Act Unit
  | [] => pure ()
  | path :: rest => do
    let lines ← Act.fileLines grepName path
    let label := if labelled then path ++ [':'] else []
    Act.writeLines grepName (matchingLines r context label lines)
    searchFiles r context labelled rest

/-- Shows the lines that match a regular expression. -/
def grep : Application :=
  .ofUsage grepName grepUsage (grepPatternFrom 0) fun given ↦ do
    let operand := given.texts.head?.getD []
    let pattern := if given.has 'w' then wholeWords operand else operand
    let context := given.count 'A' 0
    match Regex.Matcher.compile (given.has 'i') pattern with
    | .error f => throw (.pattern grepName (.regex pattern f))
    | .ok r =>
      match given.texts.drop 1 with
      | [] =>
        Act.writeLines grepName
          (matchingLines r context [] (← Act.readInput grepName Source.readLines))
      | paths => searchFiles r context (1 < paths.length) paths

end LineShell.Application
