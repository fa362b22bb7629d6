import LineShell.Proofs.Text.Lines

/-!
# Signed numbers

A signed number of 64 bits is read from its decimal spelling (`Text.readInteger_ofInteger`), and
whatever is read as a signed number has 64 bits (`Text.isInteger_of_readInteger`).
-/

namespace LineShell

/-- The number has 64 bits with its sign. -/
def IsInteger (i : Int) : Prop := -(Text.maxInteger + 1) ≤ i ∧ i ≤ Text.maxInteger

instance (i : Int) : Decidable (IsInteger i) := inferInstanceAs (Decidable (_ ∧ _))

namespace Text

variable {most n k : Nat} {beyond : NumberFault} {t : Text} {i : Int}

/-- A signed number in decimal. -/
def ofInteger : Int → Text
  | .ofNat n => ofNat n
  | .negSucc n => '-' :: ofNat (n + 1)

theorem head?_ofInteger_of_nonneg (h : 0 ≤ i) : (ofInteger i).head? ≠ some '-' := by
  obtain ⟨n, rfl⟩ := Int.eq_ofNat_of_zero_le h
  intro hhead
  have hdigit := isDigit_of_mem_ofNat (List.mem_of_mem_head? hhead)
  exact absurd hdigit (by decide)

/-- **A signed number in decimal is read as itself.** -/
theorem readInteger_ofInteger (h : IsInteger i) : readInteger (ofInteger i) = .ok i := by
  obtain ⟨hleast, hgreatest⟩ := h
  cases i with
  | ofNat n =>
    obtain ⟨c, rest, hn, hdigit⟩ := exists_cons_ofNat n
    have hread : readNumber maxInteger .tooLarge (ofNat n) = .ok n :=
      readNumber_ofNat (Int.ofNat_le.1 hgreatest)
    show readInteger (ofNat n) = _
    rw [hn] at hread ⊢
    rw [readInteger]
    · rw [hread]
      rfl
    · nofun
    · rintro digits heq
      obtain ⟨rfl, -⟩ := List.cons.inj heq
      exact absurd hdigit (by decide)
    · rintro digits heq
      obtain ⟨rfl, -⟩ := List.cons.inj heq
      exact absurd hdigit (by decide)
  | negSucc n =>
    have hread : readNumber (maxInteger + 1) .tooSmall (ofNat (n + 1)) = .ok (n + 1) :=
      readNumber_ofNat (by omega)
    rw [ofInteger, readInteger, hread]
    rfl

/-! ### Bounds -/

theorem le_of_readDigits (hk : k ≤ most) (h : readDigits most beyond k t = .ok n) : n ≤ most := by
  induction t generalizing k with
  | nil => exact Except.ok.inj h ▸ hk
  | cons c rest ih =>
    rw [readDigits] at h
    cases hc : digit? c with
    | none =>
      rw [hc] at h
      cases h
    | some d =>
      rw [hc] at h
      dsimp only at h
      split at h
      · cases h
      · next hle => exact ih (Nat.not_lt.1 hle) h

theorem le_of_readNumber (h : readNumber most beyond t = .ok n) : n ≤ most := by
  rw [readNumber] at h
  split at h
  · cases h
  · exact le_of_readDigits (Nat.zero_le _) h

/-- **What is read as a signed number has 64 bits.** -/
theorem isInteger_of_readInteger (h : readInteger t = .ok i) : IsInteger i := by
  have hplain : ∀ {u : Text}, (readNumber maxInteger .tooLarge u).map Int.ofNat = .ok i →
      IsInteger i := by
    intro u hread
    cases hu : readNumber maxInteger .tooLarge u with
    | error f =>
      rw [hu] at hread
      cases hread
    | ok n =>
      rw [hu] at hread
      obtain rfl : (n : Int) = i := Except.ok.inj hread
      have hn := le_of_readNumber hu
      exact ⟨by omega, by omega⟩
  rw [readInteger.eq_def] at h
  split at h
  · cases h
  · exact hplain h
  · next digits =>
    cases hu : readNumber (maxInteger + 1) .tooSmall digits with
    | error f =>
      rw [hu] at h
      cases h
    | ok n =>
      rw [hu] at h
      obtain rfl : -(n : Int) = i := Except.ok.inj h
      have hn := le_of_readNumber hu
      exact ⟨by omega, by omega⟩
  · exact hplain h

end Text

end LineShell
