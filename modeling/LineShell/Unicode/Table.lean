import LineShell.Unicode.CharSet

/-!
# Written tables

The tables of character properties are written as text. A **list of ranges** has entries between
blanks: `41` is one code point, `41-5A` a range, and `100-12E/2` every second code point of a range,
all hexadecimal. A **list of runs** cuts the code points from zero on into runs of one value each:
the code of the value, which begins with a capital letter, and the length of the run in decimal
where it is not one.
-/

namespace LineShell

namespace Table

/-- The value of a hexadecimal digit. -/
def hexDigit? (c : Char) : Option Nat :=
  if '0' ≤ c ∧ c ≤ '9' then some (c.toNat - '0'.toNat)
  else if 'A' ≤ c ∧ c ≤ 'F' then some (c.toNat - 'A'.toNat + 10)
  else if 'a' ≤ c ∧ c ≤ 'f' then some (c.toNat - 'a'.toNat + 10)
  else none

/-- The value of a run of hexadecimal digits; other characters count as zero. -/
def hexValue (t : Text) : Nat := t.foldl (fun n c ↦ 16 * n + (hexDigit? c).getD 0) 0

/-- The code points of one entry of a list of ranges, as ranges. -/
def entry (t : Text) : List (Nat × Nat) :=
  match (t.pieces '/').map (·.pieces '-') with
  | [[lo]] => [(hexValue lo, hexValue lo)]
  | [[lo, hi]] => [(hexValue lo, hexValue hi)]
  | [[lo, hi], [step]] =>
    let step := hexValue step
    (List.range ((hexValue hi - hexValue lo) / step + 1)).map fun i ↦
      (hexValue lo + step * i, hexValue lo + step * i)
  | _ => []

/-- The ranges of a list of ranges. -/
def ranges (lines : List String) : List (Nat × Nat) :=
  lines.flatMap fun line ↦ (Text.pieces ' ' line.toList).flatMap entry

/-- A run of code points with one value. -/
structure Run (α : Type) where
  value : α
  first : Nat
  length : Nat

/-- The runs of a list of runs: codes are read by `value?`, and a run whose code it does not know is
left out. `first` is the code point that comes next, `code` the code being read, last character
first, and `digits` the length being read. -/
def runsFrom {α : Type} (value? : Text → Option α) (first : Nat) (code : Text)
    (digits : Option Nat) : Text → List (Run α)
  | [] =>
    match value? code.reverse with
    | some value => [⟨value, first, digits.getD 1⟩]
    | none => []
  | c :: rest =>
    match Text.digit? c with
    | some d => runsFrom value? first code (some (10 * digits.getD 0 + d)) rest
    | none =>
      if c.isUpper && !code.isEmpty then
        let more := runsFrom value? (first + digits.getD 1) [c] none rest
        match value? code.reverse with
        | some value => ⟨value, first, digits.getD 1⟩ :: more
        | none => more
      else runsFrom value? first (c :: code) digits rest

/-- The runs of a list of runs. -/
def runs {α : Type} (value? : Text → Option α) (lines : List String) : List (Run α) :=
  runsFrom value? 0 [] none (lines.flatMap String.toList)

/-- The code points of the runs whose value passes `p`. -/
def select {α : Type} (p : α → Bool) (runs : List (Run α)) : CharSet :=
  .ofRanges (runs.filterMap fun run ↦
    if p run.value then some (run.first, run.first + run.length - 1) else none)

end Table

end LineShell
