import LineShell.Line.Tree

/-!
# Cutting a text at a separator

A character is **bare** at a place of a text when the place lies outside every quoted region. The
laws of `Tree.cut` rest on one fact: a separator that is no quoting mark leaves the region it stands
in unchanged, so what follows a bare separator is read as a text of its own.

The cut is described by its **last** bare separator, because the trees of a line fold to the left:
a text without one is a single piece (`cut_of_not_bare`), and a text in front of one contributes its
own pieces (`cut_append_cons`). Every text is reached by these two clauses (`bareInduction`).
-/

namespace LineShell

/-- The character stands outside every quoted region of the text, which begins in the region
`q`. -/
def BareFrom (q : Quoting) (c : Char) (t : Text) : Prop :=
  ∃ before after, t = before ++ c :: after ∧ q.after before = .plain

/-- The character stands outside every quoted region of the text. -/
def Bare (c : Char) (t : Text) : Prop := BareFrom .plain c t

variable {q : Quoting} {c d sep : Char} {s t u : Text}

/-! ### Bare characters -/

@[simp]
theorem not_bareFrom_nil : ¬ BareFrom q c [] := by
  rintro ⟨before, after, h, -⟩
  simp at h

/-- A bare character is the first one or stands behind it. -/
theorem bareFrom_cons : BareFrom q c (d :: t) ↔ (q = .plain ∧ d = c) ∨ BareFrom (q.step d) c t := by
  constructor
  · rintro ⟨before, after, h, hq⟩
    cases before with
    | nil =>
      obtain ⟨rfl, rfl⟩ := List.cons.inj h
      exact Or.inl ⟨hq, rfl⟩
    | cons e before =>
      obtain ⟨rfl, rfl⟩ := List.cons.inj h
      exact Or.inr ⟨before, after, rfl, hq⟩
  · rintro (⟨rfl, rfl⟩ | ⟨before, after, rfl, hq⟩)
    · exact ⟨[], t, rfl, rfl⟩
    · exact ⟨d :: before, after, rfl, hq⟩

/-- A bare character of two texts in a row is bare in one of them. -/
theorem bareFrom_append : BareFrom q c (s ++ t) ↔ BareFrom q c s ∨ BareFrom (q.after s) c t := by
  induction s generalizing q with
  | nil => simp
  | cons d s ih =>
    rw [List.cons_append, bareFrom_cons, bareFrom_cons, ih, or_assoc, Quoting.after_cons]

/-- Behind a balanced text, bare means bare in what follows. -/
theorem Balanced.bare_append (hs : Balanced s) : Bare c (s ++ t) ↔ Bare c s ∨ Bare c t := by
  rw [Bare, bareFrom_append, show Quoting.plain.after s = .plain from hs]
  rfl

/-- Behind a balanced text, balanced means balanced in what follows. -/
theorem Balanced.append_iff (hs : Balanced s) : Balanced (s ++ t) ↔ Balanced t := by
  rw [Balanced, Quoting.after_append, show Quoting.plain.after s = .plain from hs]
  rfl

/-! ### Separators -/

/-- A separator is a character that is no quoting mark. -/
def IsSeparator (sep : Char) : Prop := Quoting.plain.step sep = .plain

theorem isSeparator_semicolon : IsSeparator ';' := rfl

theorem isSeparator_bar : IsSeparator '|' := rfl

/-- A separator in front of a text changes nothing about its balance. -/
theorem IsSeparator.balanced_cons (hsep : IsSeparator sep) : Balanced (sep :: t) ↔ Balanced t := by
  rw [Balanced, Quoting.after_cons, hsep]
  rfl

/-- A bare character behind a separator is bare without it. -/
theorem IsSeparator.bare_cons (hsep : IsSeparator sep) :
    Bare c (sep :: t) ↔ sep = c ∨ Bare c t := by
  rw [Bare, bareFrom_cons, hsep]
  simp [Bare]

/-- A text that holds a bare separator holds a last one. -/
theorem exists_last_bare (hsep : IsSeparator sep) (h : Bare sep t) :
    ∃ s u, t = s ++ sep :: u ∧ Balanced s ∧ ¬ Bare sep u := by
  induction hn : t.length using Nat.strongRecOn generalizing t with
  | ind n ih =>
    obtain ⟨before, after, rfl, hbefore⟩ := h
    -- Either what stands behind this one holds a later one, or this one is the last.
    by_cases hafter : Bare sep after
    · have hlt : after.length < n := by
        simp only [List.length_append, List.length_cons] at hn
        omega
      obtain ⟨s, u, rfl, hs, hu⟩ := ih _ hlt hafter rfl
      refine ⟨before ++ sep :: s, u, by simp, ?_, hu⟩
      exact (Balanced.append_iff hbefore).2 (hsep.balanced_cons.2 hs)
    · exact ⟨before, after, rfl, hbefore, hafter⟩

/-- **Induction on the last bare separator.** -/
theorem bareInduction {motive : Text → Prop} (hsep : IsSeparator sep)
    (piece : ∀ t, ¬ Bare sep t → motive t)
    (append : ∀ s u, Balanced s → ¬ Bare sep u → motive s → motive (s ++ sep :: u)) (t : Text) :
    motive t := by
  induction hn : t.length using Nat.strongRecOn generalizing t with
  | ind n ih =>
    by_cases h : Bare sep t
    · obtain ⟨s, u, rfl, hs, hu⟩ := exists_last_bare hsep h
      have hlt : s.length < n := by
        simp only [List.length_append, List.length_cons] at hn
        omega
      exact append s u hs hu (ih _ hlt s rfl)
    · exact piece t h

/-! ### The cut -/

namespace Tree

theorem cutFrom_of_not_bareFrom (h : ¬ BareFrom q sep t) : cutFrom sep q t = (t, []) := by
  induction t generalizing q with
  | nil => rfl
  | cons d t ih =>
    rw [bareFrom_cons, not_or] at h
    rw [cutFrom, if_neg h.1, ih h.2]

theorem cutFrom_append_cons (hsep : IsSeparator sep) (hs : q.after s = .plain) :
    cutFrom sep q (s ++ sep :: t) =
      ((cutFrom sep q s).1, (cutFrom sep q s).2 ++ (cut sep t).1 :: (cut sep t).2) := by
  induction s generalizing q with
  | nil =>
    obtain rfl : q = .plain := hs
    simp only [List.nil_append, cutFrom, cut, and_self, if_true]
  | cons d s ih =>
    rw [Quoting.after_cons] at hs
    simp only [List.cons_append, cutFrom]
    split
    · next h =>
      -- A bare separator inside `s`: the region behind it is plain again.
      obtain ⟨rfl, rfl⟩ := h
      rw [hsep] at hs
      rw [ih hs, List.cons_append]
    · rw [ih hs]

/-- **A text without a bare separator is one piece.** -/
theorem cut_of_not_bare (h : ¬ Bare sep t) : cut sep t = (t, []) := cutFrom_of_not_bareFrom h

/-- **In front of a bare separator a text is cut as it is alone, and what is behind the last one is
one piece more.** -/
theorem cut_append_cons (hsep : IsSeparator sep) (hs : Balanced s) (hu : ¬ Bare sep u) :
    cut sep (s ++ sep :: u) = ((cut sep s).1, (cut sep s).2 ++ [u]) := by
  rw [cut, cutFrom_append_cons hsep hs, cut_of_not_bare hu]
  rfl

end Tree

end LineShell
