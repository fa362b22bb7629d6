import LineShell.Application.Basic

/-!
# Portions

`head` shows the first lines of a file or of the input, `tail` the last ones. A count of zero is
refused before anything is read.
-/

namespace LineShell.Application

/-- The name of `head`. -/
def headName : Text := "head".toList

/-- The name of `tail`. -/
def tailName : Text := "tail".toList

/-- How many lines are shown when no count is given. -/
def usualLines : Nat := 10

/-- The usage of a command that shows lines from one end. -/
def portionUsage (purpose counted : String) : Usage where
  purpose := purpose.toList
  options := [{ short := 'n', long := "lines".toList, kind := .count, purpose := counted.toList }]
  operands := [{
    name := "file".toList
    kind := .optional
    purpose := "file to read; the input is used when omitted.".toList }]

/-- The last `count` lines. -/
def lastLines (count : Nat) (lines : List Text) : List Text := lines.drop (lines.length - count)

/-- The application that shows the lines that `pick` takes. -/
def portion (name : Text) (usage : Usage) (pick : Nat → List Text → List Text) : Application :=
  .ofUsage name usage (fun _ ↦ none) fun given ↦ do
    let count := given.count 'n' usualLines
    if count = 0 then Act.failArgument name .zeroLines
    Act.writeLines name (pick count (← Act.linesOf name given.texts.head?))

/-- Shows the first lines. -/
def head : Application :=
  portion headName
    (portionUsage "Print the first lines of a file or of the input." "number of lines to print.")
    List.take

/-- Shows the last lines. -/
def tail : Application :=
  portion tailName
    (portionUsage "Print the last lines of a file or of the input." "number of lines to print.")
    lastLines

end LineShell.Application
