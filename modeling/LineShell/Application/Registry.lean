import LineShell.Application.Basic
import LineShell.Unicode.Letter

/-!
# The registry

A registry knows applications by their names. The first word of a call names an application in any
letter case; with an underscore in front it asks that a failure be reported and then passed over. Of
two applications with the same name the one that was registered last is found.
-/

namespace LineShell

/-- What becomes of the failure of an application. -/
inductive FailurePolicy where
  /-- It ends the line. -/
  | endLine
  /-- It is reported on the error channel, and the line goes on. -/
  | report
  deriving DecidableEq, Repr

/-- The mark of a call whose failure is reported only. -/
def reportMark : Char := '_'

/-- The failure policy and the name of an application that a command word means. -/
def readCommandWord (word : Text) : FailurePolicy × Text :=
  match word.lower with
  | [] => (.endLine, [])
  | c :: rest => if c = reportMark then (.report, rest) else (.endLine, c :: rest)

/-- Applications under their names, none of them twice. -/
structure Registry where
  applications : List Application := []

namespace Registry

/-- Adds an application in the place of one with the same name. -/
def register (r : Registry) (app : Application) : Registry :=
  ⟨r.applications.filter (·.name != app.name) ++ [app]⟩

/-- The registry of the applications of a list. -/
def ofList (apps : List Application) : Registry := apps.foldl register {}

/-- The application with the given name. -/
def find? (r : Registry) (name : Text) : Option Application :=
  r.applications.find? (·.name == name)

/-- An application that was just registered is found under its name. -/
theorem find?_register_self (r : Registry) (app : Application) :
    (r.register app).find? app.name = some app := by
  have gone : (r.applications.filter (·.name != app.name)).find? (·.name == app.name) = none := by
    simp [List.find?_eq_none]
  rw [register, find?, List.find?_append, gone]
  simp

/-- Registering an application changes nothing for other names. -/
theorem find?_register_of_ne (r : Registry) {app : Application} {name : Text}
    (h : app.name ≠ name) : (r.register app).find? name = r.find? name := by
  simp [register, find?, List.find?_append, List.find?_filter, h]
  congr 1
  funext a
  grind

/-- The application that a command word means, and what becomes of its failure. -/
def resolve (r : Registry) (word : Text) : Except ShellError (Application × FailurePolicy) :=
  let (policy, name) := readCommandWord word
  match r.find? name with
  | some app => .ok (app, policy)
  | none => .error (.unknownApplication name)

/-- The names of the applications. -/
def names (r : Registry) : List Text := r.applications.map Application.name

/-! ### Building a registry -/

/-- An operation that builds a registry. -/
inductive Operation where
  /-- The applications of a list are collected into a registry of their own. -/
  | collect (apps : List Application)
  /-- An application is added to the registry. -/
  | register (app : Application)
  /-- The registry is handed on with one application more. -/
  | extend (app : Application)

/-- The registry behind an operation. -/
def perform (r : Registry) : Operation → Registry
  | .collect apps => .ofList apps
  | .register app => r.register app
  | .extend app => r.register app

/-- The registry that operations build, one after the other, from an empty one. -/
def built (ops : List Operation) : Registry := ops.foldl perform {}

end Registry

end LineShell
