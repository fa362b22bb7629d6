import LineShell.Shell.History
import Mathlib.Data.List.Induction

/-!
# The last lines of the history

A history has the lines that were recorded since it was last cleared (`Environment.SinceClear`), and
what is shown of it is its end: consecutive positions, of which the last one is the length of the
history, and behind each the line that stands there.

The positions count from one, the indices of a list from zero; the line at the position `p` has the
index `p - 1`. Finding the lines by the index of the first one comes to the same
(`Environment.recentSliced?_eq`): what is shown is never longer than the history, so the difference
is one, and the slice begins in the list or at its end.
-/

namespace LineShell.Environment

variable {env : Environment} {changes : List Change} {lines : List Text} {count : Option Nat}

/-! ### Changes -/

/-- The lines are those that the changes record behind the last clearing. -/
def SinceClear (changes : List Change) (lines : List Text) : Prop :=
  ∃ before, changes = before ++ lines.map .push ∧ (before = [] ∨ before.getLast? = some .clear)

theorem exists_sinceClear (changes : List Change) : ∃ lines, SinceClear changes lines := by
  induction changes using List.reverseRecOn with
  | nil => exact ⟨[], [], rfl, .inl rfl⟩
  | append_singleton changes change ih =>
    cases change with
    | push line =>
      obtain ⟨lines, before, rfl, hbefore⟩ := ih
      exact ⟨lines ++ [line], before, by simp, hbefore⟩
    | clear => exact ⟨[], changes ++ [.clear], by simp, .inr List.getLast?_concat⟩

theorem after_append (env : Environment) (changes more : List Change) :
    env.after (changes ++ more) = (env.after changes).after more := List.foldl_append

theorem history_after_pushes (env : Environment) (lines : List Text) :
    (env.after (lines.map .push)).history = env.history ++ lines := by
  induction lines generalizing env with
  | nil => exact (List.append_nil _).symm
  | cons line lines ih =>
    refine (ih (env.push line)).trans ?_
    rw [push, List.append_assoc, List.singleton_append]

/-- **The history has the lines since the last clearing.** -/
theorem history_after (hempty : env.history = []) (h : SinceClear changes lines) :
    (env.after changes).history = lines := by
  obtain ⟨before, rfl, hbefore⟩ := h
  have hcleared : (env.after before).history = [] := by
    rcases hbefore with rfl | hlast
    · exact hempty
    · obtain ⟨init, rfl⟩ := List.getLast?_eq_some_iff.1 hlast
      rw [after_append]
      rfl
  rw [after_append, history_after_pushes, hcleared, List.nil_append]

/-! ### What is shown -/

/-- How many lines are shown of a history of the given length. -/
def shownOf (count : Option Nat) (length : Nat) : Nat :=
  min (min (count.getD length) length) shownLines

/-- The index of the first line that is shown. -/
def firstShown (count : Option Nat) (length : Nat) : Nat := length - shownOf count length

theorem shownOf_le (count : Option Nat) (length : Nat) : shownOf count length ≤ length :=
  Nat.le_trans (Nat.min_le_left _ _) (Nat.min_le_right _ _)

theorem firstShown_add (count : Option Nat) (length : Nat) :
    firstShown count length + shownOf count length = length :=
  Nat.sub_add_cancel (shownOf_le count length)

theorem drop_zipIdx {α : Type} (l : List α) (i k : Nat) :
    (l.zipIdx i).drop k = (l.drop k).zipIdx (i + k) := by
  refine List.ext_getElem? fun j ↦ ?_
  rw [List.getElem?_drop, List.getElem?_zipIdx, List.getElem?_zipIdx, List.getElem?_drop,
    Nat.add_assoc]

/-- What is shown is the slice behind the first index, numbered from the position there. -/
theorem recent_eq (env : Environment) (count : Option Nat) :
    env.recent count = ((env.history.drop (firstShown count env.history.length)).zipIdx
      (1 + firstShown count env.history.length)).map Prod.swap := by
  rw [← drop_zipIdx]
  rfl

/-- What is shown is the end of the history. -/
theorem map_snd_recent (env : Environment) (count : Option Nat) :
    (env.recent count).map Prod.snd = env.history.drop (firstShown count env.history.length) := by
  rw [recent_eq, List.map_map]
  exact List.zipIdx_map_fst _ _

/-- The positions are consecutive. -/
theorem map_fst_recent (env : Environment) (count : Option Nat) :
    (env.recent count).map Prod.fst =
      List.range' (1 + firstShown count env.history.length) (shownOf count env.history.length) := by
  have hlength : (env.history.drop (firstShown count env.history.length)).length =
      shownOf count env.history.length := by
    rw [List.length_drop, firstShown, Nat.sub_sub_self (shownOf_le _ _)]
  rw [recent_eq, List.map_map, ← hlength]
  exact List.zipIdx_map_snd _ _

theorem length_recent (env : Environment) (count : Option Nat) :
    (env.recent count).length = shownOf count env.history.length := by
  rw [← List.length_map (f := Prod.fst), map_fst_recent, List.length_range']

/-- The last position is the length of the history. -/
theorem getLast?_recent (hne : env.recent count ≠ []) :
    ((env.recent count).map Prod.fst).getLast? = some env.history.length := by
  have hpos : shownOf count env.history.length ≠ 0 := by
    rwa [← length_recent, Ne, List.length_eq_zero_iff]
  have hadd := firstShown_add count env.history.length
  rw [map_fst_recent, List.getLast?_range', if_neg hpos]
  congr 1
  omega

/-- A line is shown with its true position. -/
theorem getElem?_of_mem_recent {entry : Nat × Text} (h : entry ∈ env.recent count) :
    0 < entry.1 ∧ env.history[entry.1 - 1]? = some entry.2 := by
  rw [recent_eq] at h
  obtain ⟨numbered, hnumbered, rfl⟩ := List.mem_map.1 h
  obtain ⟨hle, hlt, hline⟩ := List.mem_zipIdx hnumbered
  show 0 < numbered.2 ∧ env.history[numbered.2 - 1]? = some numbered.1
  refine ⟨by omega, ?_⟩
  have hindex : firstShown count env.history.length +
      (numbered.2 - (1 + firstShown count env.history.length)) = numbered.2 - 1 := by omega
  have hlt : numbered.2 - 1 < env.history.length := by
    rw [List.length_drop] at hlt
    omega
  simp only [hline, List.getElem_drop, hindex, List.getElem?_eq_getElem hlt]

/-- The entries are the end of a history, at most `count` lines of it and no more than are shown,
oldest first and with their positions. -/
structure NumberedEnd (lines : List Text) (count : Option Nat) (entries : List (Nat × Text)) :
    Prop where
  lines_eq : entries.map Prod.snd = lines.drop (lines.length - shownOf count lines.length)
  positions_eq : entries.map Prod.fst =
    List.range' (lines.length - shownOf count lines.length + 1) (shownOf count lines.length)
  placed : ∀ entry ∈ entries, 0 < entry.1 ∧ lines[entry.1 - 1]? = some entry.2
  ends : entries ≠ [] → (entries.map Prod.fst).getLast? = some lines.length

/-- **What is shown is the end of the history, numbered.** -/
theorem numberedEnd_recent (env : Environment) (count : Option Nat) :
    NumberedEnd env.history count (env.recent count) where
  lines_eq := map_snd_recent env count
  positions_eq := by
    rw [map_fst_recent, Nat.add_comm 1]
    rfl
  placed := fun _ ↦ getElem?_of_mem_recent
  ends := getLast?_recent

/-! ### By indices -/

theorem positioned?_eq {start : Nat} {numbered : Text × Nat}
    (h : start + numbered.2 + 1 ≤ Text.maxCount) :
    positioned? start numbered = some (start + numbered.2 + 1, numbered.1) := by
  simp only [positioned?, Application.Windows.add?, bind, Option.bind, if_pos h,
    if_pos (Nat.le_of_succ_le h)]
  rfl

theorem mapM_positioned? {start i : Nat} (h : start + i + lines.length ≤ Text.maxCount) :
    (lines.zipIdx i).mapM (positioned? start) =
      some ((lines.zipIdx (start + i + 1)).map Prod.swap) := by
  induction lines generalizing i with
  | nil => rfl
  | cons line lines ih =>
    rw [List.length_cons] at h
    rw [List.zipIdx_cons, List.mapM_cons, positioned?_eq (by omega), ih (by omega)]
    rfl

/-- **The indices are never at fault**: found by the index of the first one, the last lines are the
same. -/
theorem recentSliced?_eq (h : env.history.length ≤ Text.maxCount) (count : Option Nat) :
    env.recentSliced? count = some (env.recent count) := by
  let start := firstShown count env.history.length
  have hadd := firstShown_add count env.history.length
  have hstart : subtract? env.history.length (shownOf count env.history.length) = some start :=
    if_pos (shownOf_le _ _)
  have hslice : sliceFrom? env.history start = some (env.history.drop start) :=
    if_pos (Nat.sub_le _ _)
  have hlength : start + 0 + (env.history.drop start).length ≤ Text.maxCount := by
    rw [List.length_drop]
    omega
  have hpositions := mapM_positioned? hlength
  calc env.recentSliced? count
      = (subtract? env.history.length (shownOf count env.history.length) >>= fun start ↦
          sliceFrom? env.history start >>= fun slice ↦
            slice.zipIdx.mapM (positioned? start)) := rfl
    _ = (env.history.drop start).zipIdx.mapM (positioned? start) := by
      rw [hstart, Option.bind_eq_bind, Option.bind_some, hslice]
      rfl
    _ = some (env.recent count) := by
      rw [hpositions, recent_eq, Nat.add_zero, Nat.add_comm start 1]

end LineShell.Environment
