import LineShell.Application.Basic

/-!
# Showing texts and files

`echo` shows its arguments, `cat` shows files line by line, and `history` shows the lines that were
entered before.
-/

namespace LineShell.Application

/-- The name of `echo`. -/
def echoName : Text := "echo".toList

/-- Shows its arguments, with a blank between them. It takes no options. -/
def echo : Application where
  name := echoName
  run := fun arguments ↦ Act.writeLine echoName (Text.join [' '] arguments)

/-! ### Files -/

/-- The name of `cat`. -/
def catName : Text := "cat".toList

/-- The usage of `cat`. -/
def catUsage : Usage where
  purpose := "Print files (or the input when none are given) line by line.".toList
  operands := [{ name := "files".toList, kind := .many, purpose := "files to concatenate.".toList }]

/-- Shows files one after the other; a file that cannot be read is not shown at all. -/
def showFiles : List Text → Act Unit
  | [] => pure ()
  | path :: rest => do
    Act.writeLines catName (← Act.fileLines catName path)
    showFiles rest

/-- Shows files, or the input. -/
def cat : Application :=
  .ofUsage catName catUsage (fun _ ↦ none) fun given ↦ do
    match given.texts with
    | [] => Act.writeLines catName (← Act.readInput catName Source.readLines)
    | paths => showFiles paths

/-! ### History -/

/-- The name of `history`. -/
def historyName : Text := "history".toList

/-- The usage of `history`. -/
def historyUsage : Usage where
  purpose := "Print previously entered command lines, numbered from the first one.".toList
  operands := [{
    name := "count".toList
    kind := .optional
    isNumber := true
    purpose := ("how many of the most recent lines to print; all of them (up to 500) " ++
      "when omitted.").toList }]

/-- A line of the history with its position. -/
def historyLine (entry : Nat × Text) : Text := Text.ofNat entry.1 ++ ". ".toList ++ entry.2

/-- Shows the last lines of the history. -/
def history : Application :=
  .ofUsage historyName historyUsage (fun _ ↦ none) fun given ↦ do
    let env := (← get).env
    match given.operands with
    | .integer (.negSucc _) :: _ => Act.failArgument historyName .invalidOption
    | .integer (.ofNat count) :: _ =>
      Act.writeLines historyName ((env.recent (some count)).map historyLine)
    | _ => Act.writeLines historyName ((env.recent none).map historyLine)

end LineShell.Application
