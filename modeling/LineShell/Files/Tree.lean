import LineShell.Files.Path

/-!
# Directory trees

A file system is one tree: an entry is a regular file with its bytes, a symbolic link with its
target, or a directory with named entries. The entries of a directory are kept in ascending order
of their names, which is the order in which they are enumerated.

`Node.at?` reads the entry at a location and `Node.put` writes one; `Node.descendants` lists
everything under a directory in preorder, links not followed.
-/

namespace LineShell

mutual

/-- An entry of the file system. -/
inductive Node where
  /-- A regular file. -/
  | file (content : Bytes)
  /-- A symbolic link. -/
  | link (target : Path)
  /-- A directory. -/
  | dir (entries : Entries)

/-- The named entries of a directory, in order. -/
inductive Entries where
  | nil
  | cons (name : Name) (node : Node) (rest : Entries)

end

namespace Entries

/-- The names and entries as a list. -/
def toList : Entries → List (Name × Node)
  | .nil => []
  | .cons name node rest => (name, node) :: rest.toList

/-- The names in order. -/
def names (es : Entries) : List Name := es.toList.map Prod.fst

/-- The entry of the given name. -/
def find? (name : Name) : Entries → Option Node
  | .nil => none
  | .cons n node rest => if n = name then some node else rest.find? name

/-- Puts an entry in the place that its name has in the order, or in the place of the entry that
has the name already. -/
def insert (name : Name) (node : Node) : Entries → Entries
  | .nil => .cons name node .nil
  | .cons n old rest =>
    if n = name then .cons n node rest
    else if name < n then .cons name node (.cons n old rest)
    else .cons n old (rest.insert name node)

theorem find?_insert_self (name : Name) (node : Node) (es : Entries) :
    (es.insert name node).find? name = some node := by
  induction es using Entries.rec (motive_1 := fun _ ↦ True) with
  | nil => simp [insert, find?]
  | cons n old rest _ ih =>
    by_cases h : n = name
    · simp [insert, find?, h]
    · by_cases hlt : name < n <;> simp [insert, find?, h, hlt, ih]
  | _ => trivial

theorem find?_insert_of_ne {name other : Name} (node : Node) (es : Entries) (h : other ≠ name) :
    (es.insert name node).find? other = es.find? other := by
  induction es using Entries.rec (motive_1 := fun _ ↦ True) with
  | nil => simp [insert, find?, h.symm]
  | cons n old rest _ ih =>
    by_cases hn : n = name
    · subst hn
      simp [insert, find?, h.symm]
    · by_cases hlt : name < n
      · simp [insert, find?, hn, hlt, h.symm]
      · simp only [insert, if_neg hn, if_neg hlt, find?, ih]
  | _ => trivial

end Entries

mutual

/-- Everything below a directory in preorder, with its location; `loc` is the location of the
directory. Below anything else there is nothing. -/
def Node.descendantsFrom (loc : Location) : Node → List (Location × Node)
  | .dir entries => entries.descendantsFrom loc
  | .file _ => []
  | .link _ => []

/-- Each entry, followed by what is below it. -/
def Entries.descendantsFrom (loc : Location) : Entries → List (Location × Node)
  | .nil => []
  | .cons name node rest =>
    (loc ++ [name], node) :: (node.descendantsFrom (loc ++ [name]) ++ rest.descendantsFrom loc)

end

namespace Node

/-- Everything below a directory in preorder: the names that lead there, and the entry. -/
def descendants (n : Node) : List (Location × Node) := n.descendantsFrom []

/-- The entry at a location, seen from `n`. -/
def at? : Location → Node → Option Node
  | [], n => some n
  | name :: rest, .dir entries => (entries.find? name).bind (at? rest)
  | _ :: _, .file _ => none
  | _ :: _, .link _ => none

/-- Writes `new` at a location: in the place of the entry that is there, or as a new entry of a
directory that exists. Any other location leaves the tree as it was. -/
def put (new : Node) : Location → Node → Node
  | [], _ => new
  | name :: rest, .dir entries =>
    match entries.find? name, rest with
    | some child, _ => .dir (entries.insert name (put new rest child))
    | none, [] => .dir (entries.insert name new)
    | none, _ :: _ => .dir entries
  | _ :: _, .file content => .file content
  | _ :: _, .link target => .link target

end Node

end LineShell
