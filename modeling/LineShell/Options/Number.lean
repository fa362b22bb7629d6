import LineShell.Text.Basic

/-!
# Numbers in arguments

A count is written with decimal digits, a plus sign in front being allowed, and is less than
`2 ^ 64`. A signed number may have a minus sign instead and has 64 bits with its sign. Digits are
read from left to right, so a number that is already out of range is not looked at further.
-/

namespace LineShell

/-- Why a text is no number. -/
inductive NumberFault where
  | empty
  | invalidDigit
  | tooLarge
  | tooSmall
  deriving DecidableEq, Repr

/-- The text of the fault. -/
def NumberFault.message : NumberFault → Text
  | empty => "cannot parse integer from empty string".toList
  | invalidDigit => "invalid digit found in string".toList
  | tooLarge => "number too large to fit in target type".toList
  | tooSmall => "number too small to fit in target type".toList

namespace Text

/-- Reads digits behind the digits of `n`; a number above `most` gives the fault `beyond`. -/
def readDigits (most : Nat) (beyond : NumberFault) (n : Nat) : Text → Except NumberFault Nat
  | [] => .ok n
  | c :: rest =>
    match digit? c with
    | none => .error .invalidDigit
    | some d =>
      if most < 10 * n + d then .error beyond else readDigits most beyond (10 * n + d) rest

/-- Reads at least one digit. -/
def readNumber (most : Nat) (beyond : NumberFault) (t : Text) : Except NumberFault Nat :=
  if t.isEmpty then .error .invalidDigit else readDigits most beyond 0 t

/-- The greatest count, the last before `2 ^ 64`. -/
def maxCount : Nat := 18446744073709551615

/-- The greatest signed number, the last before `2 ^ 63`. -/
def maxInteger : Nat := 9223372036854775807

/-- Reads a count. -/
def readCount : Text → Except NumberFault Nat
  | [] => .error .empty
  | '+' :: digits => readNumber maxCount .tooLarge digits
  | t => readNumber maxCount .tooLarge t

/-- Reads a signed number. -/
def readInteger : Text → Except NumberFault Int
  | [] => .error .empty
  | '+' :: digits => (readNumber maxInteger .tooLarge digits).map Int.ofNat
  | '-' :: digits => (readNumber (maxInteger + 1) .tooSmall digits).map fun n ↦ -(n : Int)
  | t => (readNumber maxInteger .tooLarge t).map Int.ofNat

end Text

end LineShell
