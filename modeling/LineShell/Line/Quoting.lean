import LineShell.Text.Basic

/-!
# Quoting

Three marks quote: `'`, `"` and the back-quote. A single-quoted region and a back-quoted one hold
any other characters; a double-quoted region may hold whole back-quoted regions. Which region the
end of a text stands in is found by one pass over it (`Quoting.after`): a text is **balanced** when
it ends outside every region.
-/

namespace LineShell

/-- The marks that open and close a quoted region. -/
inductive Delimiter where
  | single
  | double
  | back
  deriving DecidableEq, Repr

/-- The mark as it is written. -/
def Delimiter.mark : Delimiter → Char
  | single => '\''
  | double => '"'
  | back => '`'

/-- The innermost quoted region around a place of a text. -/
inductive Quoting where
  /-- Outside every region. -/
  | plain
  /-- In a single-quoted region. -/
  | single
  /-- In a double-quoted region. -/
  | double
  /-- In a back-quoted region. -/
  | back
  /-- In a back-quoted region inside a double-quoted one. -/
  | doubleBack
  deriving DecidableEq, Repr

namespace Quoting

/-- The region after one more character. -/
def step : Quoting → Char → Quoting
  | plain, c =>
    if c = '\'' then single else if c = '"' then double else if c = '`' then back else plain
  | single, c => if c = '\'' then plain else single
  | double, c => if c = '"' then plain else if c = '`' then doubleBack else double
  | back, c => if c = '`' then plain else back
  | doubleBack, c => if c = '`' then double else doubleBack

/-- The region at the end of a text that begins in the region `q`. -/
def after (q : Quoting) (t : Text) : Quoting := t.foldl step q

/-- The mark that would close the innermost open region. -/
def openMark : Quoting → Option Delimiter
  | plain => none
  | single => some .single
  | double => some .double
  | back => some .back
  | doubleBack => some .back

@[simp]
theorem after_nil (q : Quoting) : q.after [] = q := rfl

@[simp]
theorem after_cons (q : Quoting) (c : Char) (t : Text) : q.after (c :: t) = (q.step c).after t :=
  rfl

@[simp]
theorem after_append (q : Quoting) (s t : Text) : q.after (s ++ t) = (q.after s).after t :=
  List.foldl_append

theorem openMark_eq_none_iff {q : Quoting} : q.openMark = none ↔ q = plain := by
  cases q <;> simp [openMark]

end Quoting

/-- A text in which every quoted region is closed. -/
def Balanced (t : Text) : Prop := Quoting.plain.after t = .plain

instance (t : Text) : Decidable (Balanced t) :=
  inferInstanceAs (Decidable (Quoting.plain.after t = .plain))

end LineShell
