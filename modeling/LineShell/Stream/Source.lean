import LineShell.Files.Access
import LineShell.Text.Lines

/-!
# Sources

A **source** is what a call reads: bytes that are left, or a thing that refuses to be read. Reading
takes from the source. Lines are taken in blocks, so a line that is no text leaves only whole blocks
behind it. What is read as one text is taken to the end before it is looked at.
-/

namespace LineShell

/-- Why reading or writing fails. -/
inductive StreamFault where
  | readRefused
  | writeRefused
  | notUtf8
  | os (e : OsError)
  deriving DecidableEq, Repr

/-- The text of the failure. -/
def StreamFault.message : StreamFault → Text
  | readRefused => "read refused".toList
  | writeRefused => "write refused".toList
  | notUtf8 => "stream did not contain valid UTF-8".toList
  | os e => e.message

/-- What a call reads. -/
inductive Source where
  /-- The bytes that are left. -/
  | bytes (rest : Bytes)
  /-- Every reading fails. -/
  | refusing (fault : StreamFault)
  deriving DecidableEq, Repr

namespace Source

/-- Takes at most `count` bytes. -/
def read (count : Nat) : Source → Except StreamFault Bytes × Source
  | bytes rest => (.ok (rest.take count), bytes (rest.drop count))
  | refusing fault => (.error fault, refusing fault)

/-- How many bytes are taken at a time when lines are read. -/
def blockSize : Nat := 8192

/-- The byte of the line feed. -/
def lineFeed : UInt8 := 0x0A

/-- The number of bytes up to the end of the first line that is no text; `line` holds the bytes of
the present line, last one first. -/
def badLineEnd (passed : Nat) (line : Bytes) : Bytes → Nat
  | [] => passed
  | b :: rest =>
    if b = lineFeed then
      if (Utf8.decode? line.reverse).isNone then passed + 1 else badLineEnd (passed + 1) [] rest
    else badLineEnd (passed + 1) (b :: line) rest

/-- Takes all lines. -/
def readLines : Source → Except StreamFault (List Text) × Source
  | bytes rest =>
    match Utf8.decode? rest with
    | some t => (.ok t.lines, bytes [])
    | none =>
      let blocks := (badLineEnd 0 [] rest + blockSize - 1) / blockSize
      (.error .notUtf8, bytes (rest.drop (blocks * blockSize)))
  | refusing fault => (.error fault, refusing fault)

/-- Takes all that is left, as one text. -/
def readText : Source → Except StreamFault Text × Source
  | bytes rest =>
    match Utf8.decode? rest with
    | some t => (.ok t, bytes [])
    | none => (.error .notUtf8, bytes [])
  | refusing fault => (.error fault, refusing fault)

end Source

end LineShell
