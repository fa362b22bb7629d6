import LineShell.Files.Tree

/-!
# Following paths

A path is followed from the root, component by component. A symbolic link puts the components of
its target in its own place; after forty links the search is given up. `Files.locate` ends at the
location of an entry, or at the place where an entry of the last name could be made.

The failures are those of the operating system. When a path has several, the one met first on the
way counts: a path that is too long or holds a zero byte is refused before it is followed at all,
and a component is looked up only in a directory.
-/

namespace LineShell

/-- Why the operating system refuses an access. -/
inductive OsError where
  | notFound
  | notDirectory
  | isDirectory
  | nameTooLong
  | tooManyLinks
  /-- A path cannot hold the byte zero. -/
  | zeroByte
  deriving DecidableEq, Repr

/-- The text of the failure. -/
def OsError.message : OsError → Text
  | notFound => "No such file or directory (os error 2)".toList
  | notDirectory => "Not a directory (os error 20)".toList
  | isDirectory => "Is a directory (os error 21)".toList
  | nameTooLong => "File name too long (os error 36)".toList
  | tooManyLinks => "Too many levels of symbolic links (os error 40)".toList
  | zeroByte => "file name contained an unexpected NUL byte".toList

/-- A file system: the entry at its root. -/
structure Files where
  root : Node

namespace Files

/-- Where following a path ends. -/
inductive Place where
  /-- At an entry that exists. -/
  | entry (loc : Location)
  /-- In a directory that has no entry of this name. -/
  | vacant (dir : Location) (name : Name)
  deriving DecidableEq, Repr

/-- Why a path is followed: to reach an entry that exists, or to write a file, which is made if it
does not. -/
inductive Purpose where
  | reach
  | write
  deriving DecidableEq, Repr

/-- The greatest length of a name. -/
def maxName : Nat := 255

/-- The greatest length of a path. -/
def maxPath : Nat := 4095

/-- How many links may be followed on one path. -/
def maxLinks : Nat := 40

/-- Follows the components from the directory at `loc`. At a link, `jump` goes on from the directory
where the target starts with the components that are then left. -/
def followWith (jump : Location → List Name → Except OsError Place) (files : Files)
    (purpose : Purpose) (loc : Location) : List Name → Except OsError Place
  | [] => .ok (.entry loc)
  | name :: rest =>
    match files.root.at? loc with
    | some (.dir entries) =>
      if name = [] ∨ name = Path.here then followWith jump files purpose loc rest
      else if name = Path.parent then followWith jump files purpose loc.dropLast rest
      else if purpose = .write ∧ rest = [[]] then .error .isDirectory
      else if maxName < name.length then .error .nameTooLong
      else
        match entries.find? name with
        | some (.link target) =>
          jump (if Path.isAbsolute target then [] else loc) (Path.components target ++ rest)
        | some _ => followWith jump files purpose (loc ++ [name]) rest
        | none => if rest = [] then .ok (.vacant loc name) else .error .notFound
    | some _ => .error .notDirectory
    | none => .error .notFound

/-- Follows the components from the directory at `loc`, over at most `links` links. -/
def follow (files : Files) (purpose : Purpose) :
    Nat → Location → List Name → Except OsError Place
  | 0 => followWith (fun _ _ ↦ .error .tooManyLinks) files purpose
  | links + 1 => followWith (follow files purpose links) files purpose

/-- The place that a path leads to. -/
def locate (files : Files) (purpose : Purpose) (p : Path) : Except OsError Place :=
  if 0 ∈ p then .error .zeroByte
  else if p = [] then .error .notFound
  else if maxPath < p.length then .error .nameTooLong
  else follow files purpose maxLinks [] (Path.components p)

/-- The location of the entry that a path leads to. -/
def find (files : Files) (p : Path) : Except OsError Location :=
  match files.locate .reach p with
  | .ok (.entry loc) => .ok loc
  | .ok (.vacant _ _) => .error .notFound
  | .error e => .error e

/-- The entry that a path leads to; it is never a link. -/
def read (files : Files) (p : Path) : Except OsError Node :=
  match files.find p with
  | .ok loc => (files.root.at? loc).elim (.error .notFound) .ok
  | .error e => .error e

/-- Whether a path leads to a directory; a path that leads nowhere does not. -/
def isDirectory (files : Files) (p : Path) : Bool :=
  match files.read p with
  | .ok (.dir _) => true
  | _ => false

/-- The canonical path of the entry that a path leads to. -/
def canonical (files : Files) (p : Path) : Except OsError Path :=
  (files.find p).map Path.ofLocation

/-- The entries of the directory that a path leads to. -/
def entries (files : Files) (p : Path) : Except OsError Entries :=
  match files.read p with
  | .ok (.dir entries) => .ok entries
  | .ok _ => .error .notDirectory
  | .error e => .error e

/-- Writes an entry at a location. -/
def put (files : Files) (loc : Location) (node : Node) : Files := ⟨Node.put node loc files.root⟩

/-- Makes an empty file, or empties the file that a path leads to, and gives its location. -/
def create (files : Files) (p : Path) : Except OsError (Files × Location) :=
  match files.locate .write p with
  | .ok (.entry loc) =>
    match files.root.at? loc with
    | some (.file _) => .ok (files.put loc (.file []), loc)
    | some _ => .error .isDirectory
    | none => .error .notFound
  | .ok (.vacant dir name) => .ok (files.put (dir ++ [name]) (.file []), dir ++ [name])
  | .error e => .error e

/-- Writes bytes at the end of the file at a location; without a file there, nothing changes. -/
def append (files : Files) (loc : Location) (chunk : Bytes) : Files :=
  match files.root.at? loc with
  | some (.file content) => files.put loc (.file (content ++ chunk))
  | _ => files

/-! ### Building a tree -/

/-- A file system with an empty root. -/
def empty : Files := ⟨.dir .nil⟩

/-- Makes a directory at a path where nothing is yet. -/
def makeDirectory (files : Files) (p : Path) : Files :=
  match files.locate .reach p with
  | .ok (.vacant dir name) => files.put (dir ++ [name]) (.dir .nil)
  | _ => files

/-- Makes a link at a path where nothing is yet. -/
def makeLink (files : Files) (p target : Path) : Files :=
  match files.locate .reach p with
  | .ok (.vacant dir name) => files.put (dir ++ [name]) (.link target)
  | _ => files

/-- Writes a whole file. -/
def writeFile (files : Files) (p : Path) (content : Bytes) : Files :=
  match files.create p with
  | .ok (made, loc) => made.append loc content
  | .error _ => files

end Files

end LineShell
