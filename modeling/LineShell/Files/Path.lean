import LineShell.Text.Utf8

/-!
# Paths

A **path** is the byte string that names a file. `/` separates its components and, in front, makes
it absolute. A relative path is resolved against a directory by writing it behind the directory's
path; nothing is tidied up, so `.`, `..` and links keep the meaning they have when the path is
followed. A **location** is the list of names that leads from the root to an entry without any of
them.
-/

namespace LineShell

/-- The name of a directory entry. -/
abbrev Name := Bytes

/-- A path as it is written. -/
abbrev Path := Bytes

/-- The names that lead from the root to an entry, with no `.`, no `..` and no link on the way. -/
abbrev Location := List Name

namespace Path

/-- The byte of `/`. -/
def slash : UInt8 := 0x2F

/-- The component that stands for the directory itself, `.`. -/
def here : Name := [0x2E]

/-- The component that stands for the parent directory, `..`. -/
def parent : Name := [0x2E, 0x2E]

/-- A path that starts at the root. -/
def isAbsolute (p : Path) : Bool := p.head? == some slash

/-- Puts a slash behind a path, unless it is empty or has one there. -/
def withSlash (p : Path) : Path :=
  if p = [] ∨ p.getLast? = some slash then p else p ++ [slash]

/-- The path `p` seen from the directory `base`: `p` itself when it is absolute. -/
def resolve (base p : Path) : Path := if isAbsolute p then p else withSlash base ++ p

/-- The components of a path that follow a name in progress. Empty components are dropped, but for
one at the end: a path with a slash at its end asks for a directory. -/
def componentsFrom (name : Name) : Path → List Name
  | [] => [name]
  | b :: rest =>
    if b = slash then
      if name = [] then componentsFrom [] rest else name :: componentsFrom [] rest
    else componentsFrom (name ++ [b]) rest

/-- The components of a path: its names in order, and an empty one at the end when it ends in a
slash or is empty. -/
def components (p : Path) : List Name := componentsFrom [] p

/-- The canonical path of a location. -/
def ofLocation : Location → Path
  | [] => [slash]
  | names => names.flatMap (slash :: ·)

/-- The path that a text writes. -/
def ofText (t : Text) : Path := t.encode

/-- The path for reading; bytes that are no characters show as the replacement character. -/
def toText (p : Path) : Text := Utf8.decodeLossy p

end Path

end LineShell
