import LineShell.Unicode.Letter

/-!
# Lower case

Lower-casing a second time changes nothing (`Text.lower_lower`). What a character becomes is a fact
about the table of rules: no rule moves what a rule has moved. Rules are compared by their ranges
(`CaseRule.misses`), so the table is checked rule by rule and not character by character. Where a
rule reaches into the range of another one, that one moves every second character, and the rule
reaches only the characters between them.

What stands around a capital sigma decides its form, so the lower-case form of a part need not be
that part of the lower-case form of the whole. A text in lower case has no capital sigma, and there
the surroundings do not matter (`Text.lowerFrom_of_isLower`). Neither does a character without a
case in front of a text, since it is never what decides (`Text.lower_cons`).
-/

namespace LineShell

/-! ### Characters that are treated apart -/

/-- What the capital I with a dot and the capital sigma become is in lower case. -/
theorem Text.lowerChar_apart : ∀ c ∈ ['i', '\u0307', 'ς', 'σ'], lowerChar c = [c] := by
  simp only [List.forall_mem_cons]
  refine ⟨?_, ?_, ?_, ?_, nofun⟩ <;> decide +kernel

theorem Text.lowerChar_capitalSigma : lowerChar capitalSigma ≠ [capitalSigma] := by
  decide +kernel

namespace CaseRule

variable {r s : CaseRule} {n : Nat}

/-! ### Rules that miss each other -/

/-- By its range, the rule takes every code point that it moves to a character. -/
def lands (r : CaseRule) : Bool :=
  -r.first ≤ r.shift &&
    (r.target r.last < 0xD800 || (0xDFFF < r.target r.first && r.target r.last < 0x110000))

/-- By its range, the rule takes no code point to where the rule `s` moves it on. -/
def misses (r s : CaseRule) : Bool :=
  Nat.blt (r.target r.last) s.first || Nat.blt s.last (r.target r.first) ||
    (s.step == 2 && (r.step == 2 || r.first == r.last) && (r.target r.first + s.first) % 2 == 1)

theorem target_le (hn : r.moves n = true) :
    r.target r.first ≤ r.target n ∧ r.target n ≤ r.target r.last := by
  simp only [moves, Bool.and_eq_true, decide_eq_true_eq] at hn
  simp only [target]
  omega

theorem isValidChar_target (h : r.lands = true) (hn : r.moves n = true) :
    (r.target n).isValidChar := by
  obtain ⟨hleast, hgreatest⟩ := target_le hn
  simp only [lands, Bool.and_eq_true, Bool.or_eq_true, decide_eq_true_eq] at h
  exact h.2.imp (by omega) (by omega)

/-- What a rule has moved is not moved by a rule that it misses. -/
theorem moves_target_eq_false (hlands : r.lands = true) (h : r.misses s = true)
    (hn : r.moves n = true) : s.moves (r.target n) = false := by
  obtain ⟨hleast, hgreatest⟩ := target_le hn
  simp only [lands, Bool.and_eq_true, decide_eq_true_eq] at hlands
  simp only [misses, Nat.blt_eq, Bool.or_eq_true, Bool.and_eq_true, beq_iff_eq] at h
  simp only [moves, Bool.and_eq_true, decide_eq_true_eq, beq_iff_eq] at hn
  refine Bool.eq_false_iff.2 fun hmoved ↦ ?_
  simp only [moves, Bool.and_eq_true, decide_eq_true_eq, beq_iff_eq] at hmoved
  rcases h with (hbelow | habove) | ⟨⟨hstep, hspaced⟩, hodd⟩
  · omega
  · omega
  · rw [hstep] at hmoved
    have heven : (n - r.first) % 2 = 0 := by
      rcases hspaced with hr | hr
      · rw [← hr]
        exact hn.2
      · omega
    simp only [target] at hmoved hodd
    omega

/-! ### The table -/

/-- The rule that would move the capital I with a dot, whose lower-case form has two characters. -/
def dotted : CaseRule := ⟨0x130, 0x130, 1, 0⟩

theorem table_separate : ((lowerRules ++ addedLowerRules).all fun r ↦
    r.lands && (dotted :: (lowerRules ++ addedLowerRules)).all r.misses) = true := by
  decide +kernel

theorem lands_of_mem (hr : r ∈ lowerRules ++ addedLowerRules) : r.lands = true :=
  (Bool.and_eq_true_iff.1 (List.all_eq_true.1 table_separate r hr)).1

theorem misses_of_mem (hr : r ∈ lowerRules ++ addedLowerRules)
    (hs : s ∈ dotted :: (lowerRules ++ addedLowerRules)) : r.misses s = true :=
  List.all_eq_true.1 (Bool.and_eq_true_iff.1 (List.all_eq_true.1 table_separate r hr)).2 s hs

/-- **No rule moves what a rule has moved.** -/
theorem apply_target (hr : r ∈ lowerRules ++ addedLowerRules) (hn : r.moves n = true) :
    apply (lowerRules ++ addedLowerRules) (r.target n) = r.target n := by
  have hnone : (lowerRules ++ addedLowerRules).find? (·.moves (r.target n)) = none := by
    refine List.find?_eq_none.2 fun s hs ↦ ?_
    rw [moves_target_eq_false (lands_of_mem hr) (misses_of_mem hr (List.mem_cons_of_mem _ hs)) hn]
    exact Bool.false_ne_true
  rw [apply, hnone]

theorem target_ne_dotted (hr : r ∈ lowerRules ++ addedLowerRules) (hn : r.moves n = true) :
    r.target n ≠ 0x130 := by
  intro heq
  have hfalse := moves_target_eq_false (lands_of_mem hr) (misses_of_mem hr List.mem_cons_self) hn
  rw [heq] at hfalse
  exact absurd hfalse (by decide)

end CaseRule

namespace Text

variable {c d : Char} {t : Text}

/-! ### Characters -/

/-- What a character becomes stays as it is. -/
theorem lowerChar_of_mem (h : d ∈ lowerChar c) : lowerChar d = [d] := by
  rw [lowerChar] at h
  split at h
  · obtain rfl | hd := List.mem_cons.1 h
    · exact lowerChar_apart 'i' (by simp)
    · obtain rfl := List.mem_singleton.1 hd
      exact lowerChar_apart '\u0307' (by simp)
  next hdot =>
  obtain rfl := List.mem_singleton.1 h
  rw [CaseRule.apply]
  cases hfind : (lowerRules ++ addedLowerRules).find? (·.moves c.toNat) with
  | none =>
    dsimp only
    rw [Char.ofNat_toNat, lowerChar, if_neg hdot, CaseRule.apply, hfind]
    exact congrArg (fun c ↦ [c]) (Char.ofNat_toNat c)
  | some r =>
    have hr := List.mem_of_find?_eq_some hfind
    have hmoves := List.find?_some hfind
    have hvalid := CaseRule.isValidChar_target (CaseRule.lands_of_mem hr) hmoves
    have hchar : (Char.ofNat (r.target c.toNat)).toNat = r.target c.toNat := by
      rw [Char.ofNat, dif_pos hvalid]
      rfl
    dsimp only
    rw [lowerChar, if_neg, hchar, CaseRule.apply_target hr hmoves]
    intro heq
    rw [heq] at hchar
    exact CaseRule.target_ne_dotted hr hmoves hchar.symm

/-! ### Texts -/

/-- Every character is its own lower-case form. -/
def IsLower (t : Text) : Prop := ∀ c ∈ t, lowerChar c = [c]

theorem isLower_lowerFrom (before t : Text) : IsLower (lowerFrom before t) := by
  induction t generalizing before with
  | nil => exact nofun
  | cons c t ih =>
    intro d hd
    rw [lowerFrom] at hd
    rcases List.mem_append.1 hd with hd | hd
    · split at hd
      · split at hd <;>
        · obtain rfl := List.mem_singleton.1 hd
          exact lowerChar_apart _ (by simp)
      · exact lowerChar_of_mem hd
    · exact ih (c :: before) d hd

/-- A text in lower case stays as it is, whatever stands before it. -/
theorem lowerFrom_of_isLower (h : IsLower t) (before : Text) : lowerFrom before t = t := by
  induction t generalizing before with
  | nil => rfl
  | cons c t ih =>
    obtain ⟨hc, ht⟩ := List.forall_mem_cons.1 h
    have hsigma : c ≠ capitalSigma := by
      rintro rfl
      exact lowerChar_capitalSigma hc
    rw [lowerFrom, if_neg hsigma, hc, ih ht]
    rfl

/-- **Lower-casing a second time changes nothing.** -/
@[simp]
theorem lower_lower (t : Text) : t.lower.lower = t.lower :=
  lowerFrom_of_isLower (isLower_lowerFrom [] t) []

/-! ### A character in front -/

/-- A character without a case at the far end is not the cased character that is looked for. -/
theorem meetsCased_concat {c : Char} (hc : isCasedChar c = false) (t : Text) :
    meetsCased (t ++ [c]) = meetsCased t := by
  induction t with
  | nil => cases h : isCaseIgnorableChar c <;> simp [meetsCased, h, hc]
  | cons d t ih =>
    cases h : isCaseIgnorableChar d with
    | true => simpa [meetsCased, h] using ih
    | false => simp [meetsCased, h]

theorem lowerFrom_concat {c : Char} (hc : isCasedChar c = false) (before t : Text) :
    lowerFrom (before ++ [c]) t = lowerFrom before t := by
  induction t generalizing before with
  | nil => rfl
  | cons d t ih => rw [lowerFrom, lowerFrom, meetsCased_concat hc, ← ih (d :: before),
      List.cons_append]

/-- **Behind a character without a case a text is lower-cased as it is alone.** -/
theorem lower_cons {c : Char} (hc : isCasedChar c = false) (hsigma : c ≠ capitalSigma) (t : Text) :
    lower (c :: t) = lowerChar c ++ lower t := by
  rw [lower, lowerFrom, if_neg hsigma, ← List.nil_append [c], lowerFrom_concat hc, lower]

end Text

end LineShell
