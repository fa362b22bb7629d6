import LineShell.Text.Basic

/-!
# Blank characters

The characters with the Unicode property `White_Space`: they separate words, are dropped around
them, and make a line that holds nothing else a **blank** line. Besides the ASCII blanks these are
the next-line control, the no-break space and the typographic spaces and separators.
-/

namespace LineShell

/-- The Unicode property `White_Space`. -/
def isBlankChar (c : Char) : Bool :=
  let n := c.toNat
  (9 ≤ n && n ≤ 13) || n == 0x20 || n == 0x85 || n == 0xA0 || n == 0x1680 ||
    (0x2000 ≤ n && n ≤ 0x200A) || n == 0x2028 || n == 0x2029 || n == 0x202F || n == 0x205F ||
    n == 0x3000

namespace Text

/-- A text of blank characters only; the empty text is one. -/
def isBlank (t : Text) : Bool := t.all isBlankChar

/-- The maximal runs of characters that are not blank. `run` holds the run being read, last
character first. -/
def wordsFrom (run : Text) : Text → List Text
  | [] => if run.isEmpty then [] else [run.reverse]
  | c :: rest =>
    if isBlankChar c then
      if run.isEmpty then wordsFrom [] rest else run.reverse :: wordsFrom [] rest
    else wordsFrom (c :: run) rest

/-- The words of a text: its maximal runs of characters that are not blank. -/
def words (t : Text) : List Text := wordsFrom [] t

end Text

end LineShell
