import Mathlib.Data.Set.Card
import LineShell.Text.Blank

/-!
# Words are maximal runs

A **maximal run** of a text goes from one index to another: there is no blank in it, and it cannot
be made longer on either side. The words of a text are what stands in its maximal runs, each run
taken once (`Text.exists_runs`), so there are as many words as maximal runs
(`Text.ncard_maximalRun`).

Two maximal runs that overlap are the same (`Text.MaximalRun.eq_of_overlap`). So when a word ends at
a blank or at the end of the text, its run is the only one that begins in it.
-/

namespace LineShell.Text

variable {t before word behind : Text} {i j s e : Nat}

/-- A blank stands at the index. -/
def BlankAt (t : Text) (k : Nat) : Prop := ∃ c, t[k]? = some c ∧ isBlankChar c = true

/-- Characters that are not blank stand from the index `i` up to the index `j`, and no other ones
stand next to them. -/
structure MaximalRun (t : Text) (i j : Nat) : Prop where
  lt : i < j
  le : j ≤ t.length
  filled : ∀ k, i ≤ k → k < j → ¬ t.BlankAt k
  first : i = 0 ∨ t.BlankAt (i - 1)
  last : j = t.length ∨ t.BlankAt j

/-- Two maximal runs that overlap are the same. -/
theorem MaximalRun.eq_of_overlap (h : t.MaximalRun s e) (h' : t.MaximalRun i j) (hfirst : s ≤ i)
    (hlast : i < e) : s = i ∧ e = j := by
  have hstart : s = i := by
    rcases h'.first with rfl | hblank
    · omega
    · by_contra hne
      exact h.filled (i - 1) (by omega) (by omega) hblank
  refine ⟨hstart, ?_⟩
  subst hstart
  rcases Nat.lt_trichotomy e j with hlt | heq | hgt
  · rcases h.last with rfl | hblank
    · exact absurd h'.le (by omega)
    · exact absurd hblank (h'.filled e (by omega) hlt)
  · exact heq
  · rcases h'.last with rfl | hblank
    · exact absurd h.le (by omega)
    · exact absurd hblank (h.filled j (by have := h'.lt; omega) hgt)

/-- A piece without blanks, between blanks or the ends of the text, is a maximal run. -/
theorem maximalRun_of_cut (hword : word ≠ []) (hfilled : ∀ c ∈ word, isBlankChar c = false)
    (hbefore : before = [] ∨ BlankAt (before ++ word ++ behind) (before.length - 1))
    (hbehind : ∀ c, behind.head? = some c → isBlankChar c = true) :
    MaximalRun (before ++ word ++ behind) before.length (before.length + word.length) where
  lt := by
    have := List.length_pos_iff.2 hword
    omega
  le := by simp
  filled k hk hlt := by
    rintro ⟨c, hc, hblank⟩
    rw [List.append_assoc, List.getElem?_append_right hk,
      List.getElem?_append_left (by omega)] at hc
    rw [hfilled c (List.mem_of_getElem? hc)] at hblank
    cases hblank
  first := hbefore.imp_left fun h ↦ List.length_eq_zero_iff.2 h
  last := by
    cases behind with
    | nil => exact .inl (by simp)
    | cons c behind =>
      refine .inr ⟨c, ?_, hbehind c rfl⟩
      rw [List.getElem?_append_right (by simp)]
      simp

/-- A maximal run does not begin at a blank. -/
theorem MaximalRun.ne_of_blankAt (h : t.MaximalRun i j) (hblank : t.BlankAt s) : s ≠ i := by
  rintro rfl
  exact h.filled s (Nat.le_refl s) h.lt hblank

/-- What a maximal run holds. -/
def runText (t : Text) (r : Nat × Nat) : Text := (t.drop r.1).take (r.2 - r.1)

section Reading

variable {run rest : Text} (ht : t = before ++ run.reverse ++ rest)
    (hbefore : before = [] ∨ t.BlankAt (before.length - 1))
    (hrun : ∀ c ∈ run, isBlankChar c = false)

include ht hbefore hrun

/-- A run that was read and cannot go on is maximal, and the only one that begins in it. -/
theorem exists_runs_of_ended (hbehind : ∀ c, rest.head? = some c → isBlankChar c = true)
    {later : List (Nat × Nat)} (hnodup : later.Nodup)
    (hlater : ∀ r, r ∈ later ↔ before.length + run.length ≤ r.1 ∧ t.MaximalRun r.1 r.2) :
    ∃ runs : List (Nat × Nat), runs.Nodup ∧
      (∀ r, r ∈ runs ↔ before.length ≤ r.1 ∧ t.MaximalRun r.1 r.2) ∧
      runs.map t.runText =
        if run.isEmpty then later.map t.runText else run.reverse :: later.map t.runText := by
  by_cases hne : run = []
  · subst hne
    exact ⟨later, hnodup, hlater, rfl⟩
  have hmaximal : t.MaximalRun before.length (before.length + run.length) := by
    have hlength : run.reverse.length = run.length := List.length_reverse
    rw [ht, ← hlength]
    rw [ht] at hbefore
    exact maximalRun_of_cut (List.reverse_ne_nil_iff.2 hne)
      (fun c hc ↦ hrun c (List.mem_reverse.1 hc)) hbefore hbehind
  have htext : t.runText (before.length, before.length + run.length) = run.reverse := by
    rw [runText, ht, List.append_assoc, List.drop_left, Nat.add_sub_cancel_left,
      ← List.length_reverse, List.take_left]
  have hlength := List.length_pos_iff.2 hne
  refine ⟨(before.length, before.length + run.length) :: later, ?_, fun r ↦ ?_, ?_⟩
  · refine List.nodup_cons.2 ⟨fun hmem ↦ ?_, hnodup⟩
    have := ((hlater _).1 hmem).1
    omega
  · rw [List.mem_cons, hlater]
    constructor
    · rintro (rfl | ⟨hle, hr⟩)
      · exact ⟨Nat.le_refl _, hmaximal⟩
      · exact ⟨by omega, hr⟩
    · rintro ⟨hle, hr⟩
      by_cases hlt : r.1 < before.length + run.length
      · obtain ⟨hfirst, hlast⟩ := hmaximal.eq_of_overlap hr hle hlt
        exact .inl (Prod.ext hfirst.symm hlast.symm)
      · exact .inr ⟨Nat.not_lt.1 hlt, hr⟩
  · rw [List.map_cons, htext, if_neg (by simpa using hne)]

/-- **The words of a text are its maximal runs.** Of the text `before` and `run` have been read. -/
theorem exists_runs_wordsFrom :
    ∃ runs : List (Nat × Nat), runs.Nodup ∧
      (∀ r, r ∈ runs ↔ before.length ≤ r.1 ∧ t.MaximalRun r.1 r.2) ∧
      wordsFrom run rest = runs.map t.runText := by
  induction rest generalizing before run with
  | nil =>
    have hlater (r : Nat × Nat) : r ∈ ([] : List (Nat × Nat)) ↔
        before.length + run.length ≤ r.1 ∧ t.MaximalRun r.1 r.2 := by
      refine iff_of_false List.not_mem_nil fun h ↦ ?_
      obtain ⟨hle, hr⟩ := h
      have hlength : t.length = before.length + run.length := by simp [ht]
      have := hr.lt
      have := hr.le
      omega
    obtain ⟨runs, hnodup, hmem, hmap⟩ :=
      exists_runs_of_ended ht hbefore hrun (fun c hc ↦ by cases hc) List.nodup_nil hlater
    exact ⟨runs, hnodup, hmem, hmap.symm⟩
  | cons c rest ih =>
    -- The induction is on what is left to read; a blank ends the run, anything else is put to it.
    rw [wordsFrom]
    cases hc : isBlankChar c with
    | false =>
      have hread : t = before ++ (c :: run).reverse ++ rest := by simp [ht]
      exact ih hread hbefore (List.forall_mem_cons.2 ⟨hc, hrun⟩)
    | true =>
      have hblank : t.BlankAt (before.length + run.length) := ⟨c, by simp [ht], hc⟩
      have hread : t = (before ++ run.reverse ++ [c]) ++ ([] : Text).reverse ++ rest := by simp [ht]
      obtain ⟨later, hnodup, hlater, hwords⟩ :=
        ih hread (.inr (by simpa using hblank)) (List.forall_mem_nil _)
      have hskip (r : Nat × Nat) : r ∈ later ↔
          before.length + run.length ≤ r.1 ∧ t.MaximalRun r.1 r.2 := by
        rw [hlater]
        refine and_congr_left fun hr ↦ ?_
        have hne := hr.ne_of_blankAt hblank
        simp only [List.length_append, List.length_reverse, List.length_singleton]
        omega
      obtain ⟨runs, hnodup', hmem, hmap⟩ := exists_runs_of_ended ht hbefore hrun
        (fun c' hc' ↦ Option.some.inj hc' ▸ hc) hnodup hskip
      exact ⟨runs, hnodup', hmem, by rw [hmap, hwords]; rfl⟩

end Reading

/-- **The words of a text are what its maximal runs hold**, every run once. -/
theorem exists_runs (t : Text) : ∃ runs : List (Nat × Nat), runs.Nodup ∧
    (∀ r, r ∈ runs ↔ t.MaximalRun r.1 r.2) ∧ t.words = runs.map t.runText := by
  have hnone : t = [] ++ ([] : Text).reverse ++ t := rfl
  obtain ⟨runs, hnodup, hmem, hwords⟩ :=
    exists_runs_wordsFrom hnone (.inl rfl) (List.forall_mem_nil _)
  exact ⟨runs, hnodup, fun r ↦ (hmem r).trans (and_iff_right (Nat.zero_le _)), hwords⟩

/-- **There are as many words as maximal runs.** -/
theorem ncard_maximalRun (t : Text) :
    {r : Nat × Nat | t.MaximalRun r.1 r.2}.ncard = t.words.length := by
  obtain ⟨runs, hnodup, hmem, hwords⟩ := exists_runs t
  have hset : {r : Nat × Nat | t.MaximalRun r.1 r.2} = ↑runs.toFinset := by
    ext r
    rw [List.coe_toFinset]
    exact (hmem r).symm
  rw [hset, Set.ncard_coe_finset, List.toFinset_card_of_nodup hnodup, hwords, List.length_map]

end LineShell.Text
