import LineShell.Unicode.Table

/-!
# Properties with values

A property that gives every code point one of several values. It is written as runs of codes; a code
stands for one value, which has names and may be named by the code too. Names are compared in a
loose form: without blanks, dashes and underscores, in lower case, and without an `is` in front.
-/

namespace LineShell

/-- The loose form of a character of a name, if it counts. -/
def looseChar? (c : Char) : Option Char :=
  if c = ' ' ∨ c = '_' ∨ c = '-' ∨ 0x80 ≤ c.toNat then none else some c.toLower

/-- The form in which the names of properties and values are compared. The name `isc` keeps its
`is`, because `c` alone is another name. -/
def looseName : Text → Text
  | i :: s :: rest =>
    if i.toLower = 'i' ∧ s.toLower = 's' then
      let name := rest.filterMap looseChar?
      if name = ['c'] then ['i', 's', 'c'] else name
    else (i :: s :: rest).filterMap looseChar?
  | t => t.filterMap looseChar?

/-- A property that gives every code point one value. -/
structure Partition where
  /-- The names of the property, in their loose form. -/
  names : List String
  /-- The codes of the values, each with the names of the value. -/
  values : List (String × List String)
  /-- The codes that can be named but stand for no set of characters. -/
  unlisted : List String
  /-- The codes of the code points, in runs. -/
  lines : List String

namespace Partition

/-- The code of the value that has the given loose name. -/
def code? (p : Partition) (name : Text) : Option Text :=
  (p.values.find? fun v ↦ v.2.any fun n ↦ looseName n.toList == name).map (·.1.toList)

/-- The values with their codes among their names. -/
def namedByCode (values : List (String × List String)) : List (String × List String) :=
  values.map fun v ↦ (v.1, v.1 :: v.2)

/-- Whether the value of a code stands for a set of characters. -/
def isListed (p : Partition) (code : Text) : Bool := !(p.unlisted.any fun c ↦ c.toList == code)

/-- The runs of code points with one value. -/
def runs (p : Partition) : List (Table.Run Text) := Table.runs some p.lines

/-- The characters whose value has the given code. -/
def set (p : Partition) (code : Text) : CharSet := Table.select (· == code) p.runs

end Partition

end LineShell
