import LineShell.Unicode.Case

/-!
# Letters and numbers

What the shell takes for a letter or a number, and how it lower-cases a text. The shell goes by
Unicode 17; the classes that a pattern can name are those of Unicode 16. So the tables here hold
what version 17 adds to version 16: its new characters, and one letter that lost its case.

**Lower-casing** a text maps each character by itself, with two exceptions: the capital I with a dot
becomes two characters, and a capital sigma at the end of a word becomes the final sigma.
-/

namespace LineShell

namespace CharSet

/-- The alphabetic characters that Unicode 17 adds. -/
def addedAlphabetic : CharSet := .ofRanges (Table.ranges
  ["88F C5C CDC A7CE-A7CF A7D2 A7D4 A7F1 10940-10959 10EC5-10EC7 10EFA-10EFB 11B60-11B67",
    "11DB0-11DDB 16EA0-16EB8 16EBB-16ED3 16FF2-16FF6 187F8-187FF 18D09-18D1E 18D80-18DF2",
    "1E6C0-1E6DE 1E6E0-1E6F5 1E6FE-1E6FF 2B73A-2B73F 2CEA2-2CEAD 323B0-33479"])

/-- The numbers that Unicode 17 adds. -/
def addedNumbers : CharSet := .ofRanges (Table.ranges ["11DE0-11DE9 16FF4-16FF6"])

/-- The characters with a case that Unicode 17 adds. -/
def addedCased : CharSet := .ofRanges (Table.ranges
  ["A7CE-A7CF A7D2 A7D4 A7F1 16EA0-16EB8 16EBB-16ED3"])

/-- The letters that have a case in Unicode 16 and none in Unicode 17. -/
def uncased : CharSet := .ofRanges (Table.ranges ["295"])

/-- The case-ignorable characters that Unicode 17 adds. -/
def addedCaseIgnorable : CharSet := .ofRanges (Table.ranges
  ["1ACF-1ADD 1AE0-1AEB A7F1 10EC5 10EFA-10EFB 11B60 11B62-11B64 11B66 11DD9 16FF2-16FF3 1E6E3",
    "1E6E6 1E6EE-1E6EF 1E6F5 1E6FF"])

/-- The numbers of all scripts in Unicode 16. -/
def numeric : CharSet := Category.set Category.numbers

end CharSet

/-- Whether the character is alphabetic. -/
def isAlphabeticChar (c : Char) : Bool :=
  if c.toNat < 0x80 then c.isAlpha
  else CharSet.alphabetic.contains c || CharSet.addedAlphabetic.contains c

/-- Whether the character is a number of any script. -/
def isNumericChar (c : Char) : Bool :=
  if c.toNat < 0x80 then c.isDigit
  else CharSet.numeric.contains c || CharSet.addedNumbers.contains c

/-- Whether the character is alphabetic or a number. -/
def isAlphanumericChar (c : Char) : Bool := isAlphabeticChar c || isNumericChar c

/-- Whether the character has a case. -/
def isCasedChar (c : Char) : Bool :=
  if c.toNat < 0x80 then c.isAlpha
  else (CharSet.cased.contains c && !CharSet.uncased.contains c) || CharSet.addedCased.contains c

/-- Whether the character is passed over when a final sigma is looked for. -/
def isCaseIgnorableChar (c : Char) : Bool :=
  CharSet.caseIgnorable.contains c || CharSet.addedCaseIgnorable.contains c

/-! ### Lower-casing -/

/-- The lower-case forms of the single characters that Unicode 17 adds. -/
def addedLowerRules : List CaseRule :=
  [⟨0xA7CE, 0xA7CE, 1, 1⟩, ⟨0xA7D2, 0xA7D4, 2, 1⟩, ⟨0x16EA0, 0x16EB8, 1, 27⟩]

namespace Text

/-- The capital sigma, whose lower-case form depends on its place. -/
def capitalSigma : Char := 'Σ'

/-- The lower-case form of a character that stands for itself. -/
def lowerChar (c : Char) : Text :=
  if c = 'İ' then ['i', '\u0307']
  else [Char.ofNat (CaseRule.apply (lowerRules ++ addedLowerRules) c.toNat)]

/-- Whether a cased character comes first, case-ignorable ones passed over. -/
def meetsCased (t : Text) : Bool := (t.dropWhile isCaseIgnorableChar).head?.any isCasedChar

/-- The lower-case form of the rest of a text; `before` holds the characters before it, last one
first. A capital sigma is final when a cased character comes before it and none after. -/
def lowerFrom (before : Text) : Text → Text
  | [] => []
  | c :: rest =>
    (if c = capitalSigma then
      if meetsCased before && !meetsCased rest then ['ς'] else ['σ']
    else lowerChar c) ++ lowerFrom (c :: before) rest

/-- The lower-case form of a text. -/
def lower (t : Text) : Text := lowerFrom [] t

end Text

end LineShell
