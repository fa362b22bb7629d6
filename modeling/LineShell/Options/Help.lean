import LineShell.Options.Usage
import LineShell.Text.Lines

/-!
# Help

The help of a command: a line with its usage, its purpose, its operands and its options. The purpose
of each operand and option stands in a column of its own and is wrapped at the margin; a name that
reaches into this column has it on the next line.
-/

namespace LineShell

namespace Help

/-- The column of the purposes. -/
def column : Nat := 20

/-- The width of a line. -/
def margin : Nat := 80

/-- Fills a line with blanks up to the column. -/
def padded (line : Text) : Text := line ++ List.replicate (column - line.length) ' '

/-- Puts the words of a purpose behind a line, on as many lines as they need. `fresh` tells that the
line holds no word yet. -/
def wrapFrom (line : Text) (fresh : Bool) : List Text → List Text
  | [] => [line]
  | word :: rest =>
    if fresh then wrapFrom (padded line ++ word) false rest
    else if margin < line.length + word.length + 1 then
      line :: wrapFrom (padded [] ++ word) false rest
    else wrapFrom (line ++ ' ' :: word) false rest

/-- The lines of an entry with its name and purpose. -/
def entry (name purpose : Text) : List Text :=
  let line := ' ' :: ' ' :: name
  let words := Text.pieces ' ' purpose
  if line.length < column then wrapFrom line true words else line :: wrapFrom [] true words

/-- The entry of an option. -/
def optionEntry (o : OptionSpec) : List Text :=
  entry (o.shortName ++ ", ".toList ++ o.longName) o.purpose

/-- An option as the usage shows it. -/
def optionUsage (o : OptionSpec) : Text :=
  let value := if o.kind = .switch then [] else " <".toList ++ o.long ++ ['>']
  " [".toList ++ o.shortName ++ value ++ [']']

/-- An operand as the usage shows it. -/
def operandUsage (place : OperandSpec) : Text :=
  match place.kind with
  | .required => " <".toList ++ place.name ++ ['>']
  | .optional => " [<".toList ++ place.name ++ ">]".toList
  | .many => " [".toList ++ place.name ++ "...]".toList

end Help

open Help in
/-- The help of the command with the given name. -/
def Usage.help (u : Usage) (name : Text) : Text :=
  let listed := u.operands.filter (·.kind != .many)
  let usage := "Usage: ".toList ++ name ++ u.options.flatMap optionUsage ++
    (if listed.isEmpty then [] else " [--]".toList) ++ u.operands.flatMap operandUsage
  let operands := if listed.isEmpty then [] else
    "Positional Arguments:".toList ::
      listed.flatMap (fun place ↦ entry place.name place.purpose) ++ [[]]
  let options := "Options:".toList :: u.options.flatMap optionEntry ++
    entry "--help, help".toList "display usage information".toList
  Text.unlines ([usage, [], u.purpose, []] ++ operands ++ options)

end LineShell
