import LineShell.Options.Number

/-!
# Usage

The **usage** of a command says which options and operands it takes. An option has a short and a
long name; a switch stands by itself, other options take the argument after them. Operands fill
their places in order; a place for many takes all that is left.

Arguments are read from left to right. `--` ends the options, and so does the first operand of a
place for many. `--help` and `help` ask for help: reading goes on, but no option may follow.
-/

namespace LineShell

/-- What an option takes. -/
inductive OptionKind where
  | switch
  | text
  | count
  deriving DecidableEq, Repr

/-- An option of a command. -/
structure OptionSpec where
  short : Char
  long : Text
  kind : OptionKind
  purpose : Text
  deriving DecidableEq, Repr

namespace OptionSpec

/-- The short name as it is written. -/
def shortName (o : OptionSpec) : Text := ['-', o.short]

/-- The long name as it is written. -/
def longName (o : OptionSpec) : Text := '-' :: '-' :: o.long

end OptionSpec

/-- How many operands a place takes. -/
inductive OperandKind where
  | required
  | optional
  | many
  deriving DecidableEq, Repr

/-- A place for operands of a command. -/
structure OperandSpec where
  name : Text
  kind : OperandKind
  /-- Whether the operand is a signed number. -/
  isNumber : Bool := false
  purpose : Text
  deriving DecidableEq, Repr

/-- The options and operands of a command. -/
structure Usage where
  purpose : Text
  options : List OptionSpec := []
  operands : List OperandSpec := []
  deriving DecidableEq, Repr

/-- The value of an option or operand. -/
inductive ArgumentValue where
  | text (t : Text)
  | count (n : Nat)
  | integer (i : Int)
  deriving DecidableEq, Repr

/-- The options, by their short names, and the operands that were given. -/
structure Given where
  options : List (Char × Option ArgumentValue) := []
  operands : List ArgumentValue := []
  deriving DecidableEq, Repr

namespace Given

/-- Whether the option was given. -/
def has (g : Given) (short : Char) : Bool := g.options.any (·.1 == short)

/-- The value of the option, if it was given. -/
def value? (g : Given) (short : Char) : Option ArgumentValue :=
  (g.options.find? (·.1 == short)).bind Prod.snd

/-- The count of the option, or the one that holds when it is not given. -/
def count (g : Given) (short : Char) (otherwise : Nat) : Nat :=
  match g.value? short with
  | some (.count n) => n
  | _ => otherwise

/-- The text of the option, if it was given. -/
def text? (g : Given) (short : Char) : Option Text :=
  match g.value? short with
  | some (.text t) => some t
  | _ => none

/-- The operands that are texts, in order. -/
def texts (g : Given) : List Text :=
  g.operands.filterMap fun
    | .text t => some t
    | _ => none

end Given

/-- What a list of arguments asks for. -/
inductive Request where
  | help
  | run (given : Given)
  deriving DecidableEq, Repr

/-- Why the value of an option is refused. -/
inductive ValueFault where
  | number (f : NumberFault)
  | duplicate
  deriving DecidableEq, Repr

/-- Why arguments are refused. -/
inductive UsageFault where
  | behindHelp
  | unrecognized (argument : Text)
  | noValue (option : Text)
  | badOption (option value : Text) (why : ValueFault)
  | badOperand (name value : Text) (why : NumberFault)
  | missing (names : List Text)
  deriving DecidableEq, Repr

/-- The text of the fault. -/
def ValueFault.message : ValueFault → Text
  | number f => f.message
  | duplicate => "duplicate values provided".toList

/-- The text of the fault. -/
def UsageFault.message : UsageFault → Text
  | behindHelp => "Trailing arguments are not allowed after `help`.".toList
  | unrecognized argument => "Unrecognized argument: ".toList ++ argument ++ ['\n']
  | noValue option => "No value provided for option '".toList ++ option ++ "'.\n".toList
  | badOption option value why =>
    "Error parsing option '".toList ++ option ++ "' with value '".toList ++ value ++
      "': ".toList ++ why.message ++ ['\n']
  | badOperand name value why =>
    "Error parsing positional argument '".toList ++ name ++ "' with value '".toList ++ value ++
      "': ".toList ++ why.message ++ ['\n']
  | missing names =>
    "Required positional arguments not provided:".toList ++
      names.flatMap (fun name ↦ "\n    ".toList ++ name) ++ ['\n']

namespace Usage

/-- How far the arguments are read. -/
structure Progress where
  help : Bool := false
  /-- Whether every further argument is an operand. -/
  ended : Bool := false
  /-- The option that takes the next argument, with its name as it was written. -/
  awaiting : Option (OptionSpec × Text) := none
  given : Given := {}
  deriving Repr

/-- The option that has the given name. -/
def option? (u : Usage) (name : Text) : Option OptionSpec :=
  u.options.find? fun o ↦ o.shortName == name || o.longName == name

/-- The place of the operand behind `count` others. -/
def place? (u : Usage) (count : Nat) : Option OperandSpec :=
  match u.operands[count]? with
  | some place => some place
  | none => u.operands.getLast?.filter (·.kind == .many)

/-- Reads the value of an option. -/
def readValue (o : OptionSpec) (name value : Text) (p : Progress) : Except UsageFault Progress :=
  if p.given.has o.short then .error (.badOption name value .duplicate)
  else
    let store (v : ArgumentValue) : Progress :=
      { p with
        awaiting := none
        given := { p.given with options := (o.short, some v) :: p.given.options } }
    match o.kind with
    | .count =>
      match Text.readCount value with
      | .ok n => .ok (store (.count n))
      | .error f => .error (.badOption name value (.number f))
    | _ => .ok (store (.text value))

/-- Reads the name of an option. -/
def readOption (u : Usage) (name : Text) (p : Progress) : Except UsageFault Progress :=
  match u.option? name with
  | none => .error (.unrecognized name)
  | some o =>
    match o.kind with
    | .switch =>
      .ok { p with given := { p.given with options := (o.short, none) :: p.given.options } }
    | _ => .ok { p with awaiting := some (o, name) }

/-- Reads an operand. -/
def readOperand (u : Usage) (argument : Text) (p : Progress) : Except UsageFault Progress :=
  match u.place? p.given.operands.length with
  | none => .error (.unrecognized argument)
  | some place =>
    let store (v : ArgumentValue) : Progress :=
      { p with
        ended := p.ended || place.kind == .many
        given := { p.given with operands := p.given.operands ++ [v] } }
    if place.isNumber then
      match Text.readInteger argument with
      | .ok i => .ok (store (.integer i))
      | .error f => .error (.badOperand place.name argument f)
    else .ok (store (.text argument))

/-- The arguments that ask for help. -/
def helpNames : List Text := ["--help".toList, "help".toList]

/-- Reads one argument. -/
def readArgument (u : Usage) (p : Progress) (argument : Text) : Except UsageFault Progress :=
  match p.awaiting with
  | some (o, name) => readValue o name argument p
  | none =>
    if p.ended then u.readOperand argument p
    else if argument ∈ helpNames then .ok { p with help := true }
    else if argument.head? ≠ some '-' then u.readOperand argument p
    else if argument = ['-', '-'] then .ok { p with ended := true }
    else if p.help then .error .behindHelp
    else u.readOption argument p

/-- The names of the required operands that were not given. -/
def missing (u : Usage) (given : Given) : List Text :=
  ((u.operands.drop given.operands.length).filter (·.kind == .required)).map OperandSpec.name

/-- Reads the arguments of a command. -/
def read (u : Usage) (arguments : List Text) : Except UsageFault Request := do
  let p ← arguments.foldlM u.readArgument {}
  match p.awaiting with
  | some (_, name) => throw (.noValue name)
  | none =>
    if p.help then return .help
    match u.missing p.given with
    | [] => return .run p.given
    | names => throw (.missing names)

end Usage

end LineShell
