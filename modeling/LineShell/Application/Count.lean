import LineShell.Application.Basic

/-!
# Counting

`wc` counts the lines, words and characters of files or of the input and shows the totals. Every
argument that is a dash and letters of `lwm` selects counts, wherever it stands.
-/

namespace LineShell.Application

/-- The name of `wc`. -/
def wcName : Text := "wc".toList

/-- The number of lines, words and characters. -/
structure Counts where
  lines : Nat := 0
  words : Nat := 0
  chars : Nat := 0
  deriving DecidableEq, Repr

namespace Counts

/-- The counts of a text. -/
def ofText (t : Text) : Counts := ⟨t.count Text.newline, t.words.length, t.length⟩

/-- The counts of two texts together. -/
def add (a b : Counts) : Counts := ⟨a.lines + b.lines, a.words + b.words, a.chars + b.chars⟩

end Counts

/-- The letters that select counts, in the order in which the counts are shown. -/
def countLetters : List (Char × (Counts → Nat)) :=
  [('l', Counts.lines), ('w', Counts.words), ('m', Counts.chars)]

/-- Whether an argument selects counts. -/
def isCountFlag : Text → Bool
  | '-' :: letters => !letters.isEmpty && letters.all fun c ↦ countLetters.any (·.1 == c)
  | _ => false

/-- The counts that the flags select; without flags it is all of them. -/
def selectCounts (flags : List Text) (total : Counts) : List Nat :=
  let selected := countLetters.filter fun l ↦ flags.isEmpty || flags.any (·.contains l.1)
  selected.map fun l ↦ l.2 total

/-- The counts of the files together. -/
def countFiles : List Text → Act Counts
  | [] => pure {}
  | path :: rest => do
    let t ← Act.ofReading wcName (← Act.openFile wcName path).readText.1
    return (Counts.ofText t).add (← countFiles rest)

/-- Counts lines, words and characters. -/
def wc : Application where
  name := wcName
  run := fun arguments ↦ do
    let (flags, files) := arguments.partition isCountFlag
    let total ←
      if files.isEmpty then Counts.ofText <$> Act.readInput wcName Source.readText
      else countFiles files
    Act.writeLine wcName (Text.join [' '] ((selectCounts flags total).map Text.ofNat))

end LineShell.Application
