import LineShell.Proofs.Shell.Reports

/-!
# Symmetries of the machine

Evaluation reads the world, the error channel and the depth of a machine, the depth only to compare
it with the limit, and it puts notes in front of the log without looking at it. A change of machines
that leaves all this as it is, and can be made before or after each single step, can be made before
or after a whole evaluation (`Symmetry`, `compositional_equivariant`).

Two such changes are used. A log may stand in front of older notes (`Machine.behind`), so an
evaluation adds the same notes whatever has been noted before. And where every command in
back-quotes is refused, a machine may be put one level deeper, its notes with it
(`Machine.deeper`). Where commands are entered that is no symmetry: one more of them is refused.
-/

namespace LineShell.Eval

/-- A change of machines that evaluation does not notice. -/
structure Symmetry (limit : Nat) (φ : Machine → Machine) : Prop where
  world_eq : ∀ m, (φ m).world = m.world
  errors_eq : ∀ m, (φ m).errors = m.errors
  limit_le_iff : ∀ m, limit ≤ (φ m).depth ↔ limit ≤ m.depth
  withWorld : ∀ m w, φ (m.withWorld w) = (φ m).withWorld w
  withErrors : ∀ m s, φ (m.withErrors s) = (φ m).withErrors s
  noted : ∀ m e, φ (m.noted e) = (φ m).noted e
  /-- Commands are entered and left alike, if any are. -/
  entered : 0 < limit → ∀ m c, φ (m.entered c) = (φ m).entered c
  left : 0 < limit → ∀ m, φ m.left = (φ m).left

/-- The step may be taken before or after the change. -/
def Equivariant (φ : Machine → Machine) {α : Type} (x : Eval α) : Prop :=
  ∀ m, runOn x (φ m) = ((runOn x m).1, φ (runOn x m).2)

variable {α β : Type} {φ : Machine → Machine} {x : Eval α} {limit : Nat}

namespace Equivariant

protected theorem bind {f : α → Eval β} (hx : Equivariant φ x) (hf : ∀ a, Equivariant φ (f a)) :
    Equivariant φ (x >>= f) := by
  intro m
  have hm := hx m
  rcases hrun : runOn x m with ⟨e | a, m'⟩ <;> rw [hrun] at hm
  · rw [runOn_bind_of_error hm, runOn_bind_of_error hrun]
  · rw [runOn_bind_of_ok hm, runOn_bind_of_ok hrun]
    exact hf a m'

variable (hφ : Symmetry limit φ)

include hφ

/-- A step that looks at the machine, but at nothing that is changed. -/
protected theorem get {f : Machine → Eval β} (hf : ∀ m m', m.world = m'.world → f m = f m')
    (h : ∀ m, Equivariant φ (f m)) : Equivariant φ (get >>= f) := by
  intro m
  rw [runOn_bind_of_ok (runOn_get _), runOn_bind_of_ok (runOn_get _), hf _ _ (hφ.world_eq m)]
  exact h m m

protected theorem note (e : Event) : Equivariant φ (note e) := by
  intro m
  rw [runOn_note, runOn_note, hφ.noted]

protected theorem report (app : Text) (e : ShellError) : Equivariant φ (report app e) := by
  intro m
  rw [runOn_report, runOn_report, hφ.errors_eq, ← hφ.noted]
  cases m.errors.write (e.message ++ [Text.newline]).encode with
  | error f => rfl
  | ok errors => exact congrArg (Prod.mk _) (hφ.withErrors _ errors).symm

/-- An application is run alike in the same world. -/
protected theorem ofAct (act : Act α) : Equivariant φ (attempt (ofAct act)) := by
  intro m
  simp only [runOn_attempt, runOn_ofAct]
  rw [hφ.world_eq, hφ.withWorld]

protected theorem openOutput (target : Text) : Equivariant φ (openOutput target) := by
  intro m
  rw [runOn_openOutput, runOn_openOutput, hφ.world_eq]
  cases m.world.files.create (m.world.env.resolve target) with
  | error e => rfl
  | ok created => exact congrArg (Prod.mk _) (hφ.withWorld m _).symm

/-! ### Streams and commands -/

theorem withInput_eq (m : Machine) (input : Option Source) :
    φ (m.withInput input) = (φ m).withInput input := by
  rw [Machine.withInput, Machine.withInput, hφ.withWorld, hφ.world_eq]

theorem withOutput_eq (m : Machine) (output : Output) :
    φ (m.withOutput output) = (φ m).withOutput output := by
  rw [Machine.withOutput, Machine.withOutput, hφ.withWorld, hφ.world_eq]

protected theorem fedBy (source : Option Source) (hx : Equivariant φ x) :
    Equivariant φ (fedBy source x) := by
  intro m
  rw [runOn_fedBy, runOn_fedBy, ← withInput_eq hφ, hx, hφ.world_eq, withInput_eq hφ]

protected theorem writingTo {x : Eval Unit} (output : Output) (hx : Equivariant φ x) :
    Equivariant φ (writingTo output x) := by
  intro m
  rw [runOn_writingTo, runOn_writingTo, ← withOutput_eq hφ, hx, hφ.world_eq, hφ.world_eq,
    withOutput_eq hφ]

protected theorem nested {line : Text → Eval Unit} {c : Text} (h : Equivariant φ (line c)) :
    Equivariant φ (nested limit line c) := by
  intro m
  rw [runOn_nested, runOn_nested]
  by_cases hle : limit ≤ m.depth
  · rw [if_pos hle, if_pos ((hφ.limit_le_iff m).2 hle)]
  · have hpos : 0 < limit := Nat.zero_lt_of_lt (Nat.lt_of_not_le hle)
    rw [if_neg hle, if_neg (hle ∘ (hφ.limit_le_iff m).1), ← hφ.entered hpos, h, hφ.left hpos]

end Equivariant

/-- **What can be changed before each step can be changed before a whole evaluation.** -/
theorem compositional_equivariant (registry : Registry) (hφ : Symmetry limit φ) :
    Compositional registry limit (Equivariant φ) :=
  Elementary.compositional
    { pure := fun _ _ ↦ rfl
      throw := fun _ _ ↦ rfl
      bind := .bind
      get := .get hφ
      note := .note hφ
      report := .report hφ
      applied := fun _ _ _ ↦ .ofAct hφ _
      openOutput := .openOutput hφ
      fedBy := .fedBy hφ
      writingTo := .writingTo hφ
      nested := .nested hφ }

end LineShell.Eval

namespace LineShell

open Eval

/-! ### Older notes -/

/-- The machine with its log in front of older notes. -/
def Machine.behind (base : List Note) (m : Machine) : Machine := { m with log := m.log ++ base }

/-- The machine with nothing in its log. -/
def Machine.unlogged (m : Machine) : Machine := { m with log := [] }

theorem symmetry_behind (limit : Nat) (base : List Note) :
    Symmetry limit (Machine.behind base) where
  world_eq _ := rfl
  errors_eq _ := rfl
  limit_le_iff _ := Iff.rfl
  withWorld _ _ := rfl
  withErrors _ _ := rfl
  noted _ _ := rfl
  entered _ _ _ := rfl
  left _ _ := rfl

/-! ### Greater depth -/

/-- The note one level deeper. -/
def Note.deeper (n : Note) : Note := { n with depth := n.depth + 1 }

/-- The machine one level deeper, with the notes that it has. -/
def Machine.deeper (m : Machine) : Machine :=
  { m with depth := m.depth + 1, log := m.log.map Note.deeper }

/-- Where every command is refused, one level more makes no difference. -/
theorem symmetry_deeper : Symmetry 0 Machine.deeper where
  world_eq _ := rfl
  errors_eq _ := rfl
  limit_le_iff _ := iff_of_true (Nat.zero_le _) (Nat.zero_le _)
  withWorld _ _ := rfl
  withErrors _ _ := rfl
  noted _ _ := rfl
  entered h := absurd h (Nat.lt_irrefl 0)
  left h := absurd h (Nat.lt_irrefl 0)

end LineShell
