import LineShell.Options.Number
import LineShell.Text.Lines

/-!
# Lines of a text

What a text is cut into stays in it: a line has no characters but those of the text, and no line
feed. So lines of a text without carriage returns are read back when they are written
(`Text.lines_unlines_of_subset`), which is what makes reading lines and writing them inverse along a
pipe.

The second part is about counts in arguments: a number that is written in decimal is read as itself
(`Text.readCount_ofNat`).
-/

namespace LineShell.Text

variable {t line : Text} {ps : List Text}

/-! ### Cutting -/

theorem mem_of_mem_stripReturn {c : Char} (h : c ∈ stripReturn line) : c ∈ line := by
  rw [stripReturn] at h
  split at h
  · exact List.dropLast_subset line h
  · exact h

theorem mem_of_mem_pieces {sep c : Char} (hpiece : line ∈ pieces sep t) (h : c ∈ line) : c ∈ t := by
  induction t generalizing line with
  | nil => rwa [List.mem_singleton.1 hpiece] at h
  | cons d rest ih =>
    obtain ⟨first, more, hrest⟩ := List.exists_cons_of_ne_nil (pieces_ne_nil sep rest)
    have hmem : ∀ {piece}, piece ∈ first :: more → c ∈ piece → c ∈ d :: rest :=
      fun hpiece hc ↦ List.mem_cons_of_mem d (ih (hrest ▸ hpiece) hc)
    simp only [pieces, hrest] at hpiece
    split at hpiece
    · rcases List.mem_cons.1 hpiece with rfl | hpiece
      · cases h
      · exact hmem hpiece h
    · rcases List.mem_cons.1 hpiece with rfl | hpiece
      · rcases List.mem_cons.1 h with rfl | h
        · exact List.mem_cons_self
        · exact hmem List.mem_cons_self h
      · exact hmem (List.mem_cons_of_mem first hpiece) h

/-- A line is a piece, perhaps without its carriage return. -/
theorem exists_of_mem_closeLines (h : line ∈ closeLines ps) :
    ∃ piece ∈ ps, ∀ c ∈ line, c ∈ piece := by
  fun_induction closeLines ps with
  | case1 => cases h
  | case2 => cases h
  | case3 last => exact ⟨last, List.mem_cons_self, fun c hc ↦ List.mem_singleton.1 h ▸ hc⟩
  | case4 first rest _ ih =>
    rcases List.mem_cons.1 h with rfl | h
    · exact ⟨first, List.mem_cons_self, fun c ↦ mem_of_mem_stripReturn⟩
    · obtain ⟨piece, hpiece, hsub⟩ := ih h
      exact ⟨piece, List.mem_cons_of_mem first hpiece, hsub⟩

/-- **The characters of a line are characters of the text**, and none is a line feed. -/
theorem mem_of_mem_lines (h : line ∈ t.lines) {c : Char} (hc : c ∈ line) : c ∈ t ∧ c ≠ newline := by
  obtain ⟨piece, hpiece, hsub⟩ := exists_of_mem_closeLines h
  refine ⟨mem_of_mem_pieces hpiece (hsub c hc), ?_⟩
  rintro rfl
  exact not_mem_of_mem_pieces hpiece (hsub _ hc)

/-- **Lines of a text without carriage returns are read back.** -/
theorem lines_unlines_of_subset (ht : '\r' ∉ t) {ls : List Text} (hls : ls ⊆ t.lines) :
    lines (unlines ls) = ls := by
  refine lines_unlines fun line hline ↦ ⟨fun hmem ↦ ?_, fun hlast ↦ ?_⟩
  · exact (mem_of_mem_lines (hls hline) hmem).2 rfl
  · exact ht (mem_of_mem_lines (hls hline) (List.mem_of_getLast? hlast)).1

theorem unlines_append (ls more : List Text) : unlines (ls ++ more) = unlines ls ++ unlines more :=
  List.flatMap_append

/-! ### Counts -/

variable {most n k : Nat} {beyond : NumberFault} {c : Char}

theorem readDigits_append (most : Nat) (beyond : NumberFault) (n : Nat) (front back : Text) :
    readDigits most beyond n (front ++ back) = (do
      readDigits most beyond (← readDigits most beyond n front) back) := by
  induction front generalizing n with
  | nil => rfl
  | cons c front ih =>
    rw [List.cons_append, readDigits, readDigits]
    cases digit? c with
    | none => rfl
    | some d =>
      dsimp only
      split
      · rfl
      · exact ih _

theorem digit?_digitChar (h : n < 10) : digit? n.digitChar = some n := by
  revert n
  decide

/-- **A number in decimal is read as itself**, if it is in range. -/
theorem readDigits_ofNat (h : n ≤ most) : readDigits most beyond 0 (ofNat n) = .ok n := by
  induction n using Nat.strongRecOn with
  | ind n ih =>
    by_cases hsmall : n < 10
    · rw [ofNat, Nat.toDigits_of_lt_base hsmall, readDigits, digit?_digitChar hsmall]
      simp [readDigits, Nat.not_lt.2 h]
    · have hlast : n % 10 < 10 := Nat.mod_lt n (by decide)
      have hcut : ofNat n = ofNat (n / 10) ++ [(n % 10).digitChar] := by
        have happend := Nat.toDigits_append_toDigits (b := 10) (n := n / 10) (d := n % 10)
          (by decide) (by omega) hlast
        rw [Nat.toDigits_of_lt_base hlast, Nat.div_add_mod] at happend
        exact happend.symm
      rw [hcut, readDigits_append, ih (n / 10) (by omega) (by omega)]
      show readDigits most beyond (n / 10) [(n % 10).digitChar] = .ok n
      rw [readDigits, digit?_digitChar hlast]
      simp [readDigits, Nat.div_add_mod, Nat.not_lt.2 h]

theorem isDigit_of_mem_ofNat (h : c ∈ ofNat n) : c.isDigit :=
  Nat.isDigit_of_mem_toDigits (by decide) (by decide) h

/-- A number in decimal begins with a digit. -/
theorem exists_cons_ofNat (n : Nat) : ∃ c rest, ofNat n = c :: rest ∧ c.isDigit := by
  obtain ⟨c, rest, hn⟩ := List.exists_cons_of_ne_nil
    (show ofNat n ≠ [] from Nat.toDigits_ne_nil)
  exact ⟨c, rest, hn, isDigit_of_mem_ofNat (hn ▸ List.mem_cons_self)⟩

theorem readNumber_ofNat (h : n ≤ most) : readNumber most beyond (ofNat n) = .ok n := by
  obtain ⟨c, rest, hn, -⟩ := exists_cons_ofNat n
  rw [readNumber, hn, List.isEmpty_cons, if_neg (by decide), ← hn]
  exact readDigits_ofNat h

theorem readCount_ofNat (h : n ≤ maxCount) : readCount (ofNat n) = .ok n := by
  obtain ⟨c, rest, hn, hdigit⟩ := exists_cons_ofNat n
  have hread : readNumber maxCount .tooLarge (ofNat n) = .ok n := readNumber_ofNat h
  rw [hn] at hread ⊢
  rw [readCount]
  · exact hread
  · nofun
  · rintro digits heq
    obtain ⟨rfl, -⟩ := List.cons.inj heq
    exact absurd hdigit (by decide)

/-- What is read as a number has digits only. -/
theorem digit?_of_readDigits (h : readDigits most beyond k t = .ok n) (hc : c ∈ t) :
    (digit? c).isSome := by
  induction t generalizing k with
  | nil => cases hc
  | cons d rest ih =>
    rw [readDigits] at h
    cases hd : digit? d with
    | none =>
      rw [hd] at h
      cases h
    | some value =>
      rw [hd] at h
      dsimp only at h
      split at h
      · cases h
      · rcases List.mem_cons.1 hc with rfl | hc
        · rw [hd]
          rfl
        · exact ih h hc

/-- A count has no character but digits and a plus sign. -/
theorem digit?_of_readCount (h : readCount t = .ok n) (hc : c ∈ t) :
    c = '+' ∨ (digit? c).isSome := by
  have hnumber : ∀ {u : Text}, readNumber maxCount .tooLarge u = .ok n → c ∈ u →
      (digit? c).isSome := by
    intro u hu hmem
    rw [readNumber] at hu
    split at hu
    · cases hu
    · exact digit?_of_readDigits hu hmem
  rw [readCount.eq_def] at h
  split at h
  · cases hc
  · rcases List.mem_cons.1 hc with rfl | hc
    · exact .inl rfl
    · exact .inr (hnumber h hc)
  · exact .inr (hnumber h hc)

end LineShell.Text
