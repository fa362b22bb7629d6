import LineShell.Files.Path
import LineShell.Proofs.Text.Decoding
import LineShell.Text.Blank
import LineShell.Unicode.Letter

/-!
# Texts without a line break

A text is **unbroken** if no line feed stands in it, so that with one behind it it is one line.
Texts stay unbroken when they are put together, cut into words, lower-cased, written as bytes and
read from bytes: a line feed is a blank, no other character has it for its lower-case form, and its
byte is the byte of no other character.
-/

namespace LineShell

namespace Text

/-- No line feed stands in the text. -/
def Unbroken (t : Text) : Prop := newline ∉ t

instance (t : Text) : Decidable t.Unbroken := inferInstanceAs (Decidable (newline ∉ t))

variable {t u : Text}

@[simp]
theorem unbroken_nil : Unbroken [] := List.not_mem_nil

@[simp]
theorem unbroken_cons {c : Char} : Unbroken (c :: t) ↔ c ≠ newline ∧ t.Unbroken := by
  simp [Unbroken, eq_comm]

@[simp]
theorem unbroken_append : Unbroken (t ++ u) ↔ t.Unbroken ∧ u.Unbroken := by simp [Unbroken]

/-- A fixed text is its characters, so that only they are compared. -/
theorem unbroken_literal {chars : Text} (h : chars.Unbroken) :
    Unbroken (String.ofList chars).toList := by
  rwa [String.toList_ofList]

/-- A text is unbroken if its characters stand in one that is. -/
theorem Unbroken.of_subset (h : u.Unbroken) (hsub : ∀ c ∈ t, c ∈ u) : t.Unbroken :=
  fun hmem ↦ h (hsub _ hmem)

theorem unbroken_join_iff {sep : Text} {texts : List Text} (hsep : sep.Unbroken) :
    (join sep texts).Unbroken ↔ ∀ t ∈ texts, t.Unbroken := by
  fun_induction join sep texts with
  | case1 => exact iff_of_true unbroken_nil nofun
  | case2 t => exact (List.forall_mem_singleton (p := Unbroken)).symm
  | case3 t rest _ ih =>
    rw [unbroken_append, unbroken_append, ih, List.forall_mem_cons, and_iff_left hsep]

theorem Unbroken.of_mem_pieces {sep : Char} (h : u.Unbroken) (ht : t ∈ pieces sep u) :
    t.Unbroken := by
  by_cases hsep : sep = newline
  · subst hsep
    exact not_mem_of_mem_pieces ht
  · rw [← join_pieces sep u] at h
    exact (unbroken_join_iff (unbroken_cons.2 ⟨hsep, unbroken_nil⟩)).1 h t ht

/-- A line feed is a blank, so no word holds one. -/
theorem unbroken_of_mem_words {word : Text} (h : word ∈ t.words) : word.Unbroken := by
  have hrun : ∀ run : Text, run.Unbroken → ∀ word ∈ wordsFrom run t, word.Unbroken := by
    clear h
    induction t with
    | nil =>
      intro run hrun word hword
      rw [wordsFrom] at hword
      split at hword
      · cases hword
      · rw [List.mem_singleton.1 hword]
        exact hrun.of_subset fun _ ↦ List.mem_reverse.1
    | cons c rest ih =>
      intro run hrun word hword
      rw [wordsFrom] at hword
      split at hword
      · split at hword
        · exact ih [] unbroken_nil word hword
        · rcases List.mem_cons.1 hword with rfl | hword
          · exact hrun.of_subset fun _ ↦ List.mem_reverse.1
          · exact ih [] unbroken_nil word hword
      · next hblank =>
        refine ih (c :: run) (unbroken_cons.2 ⟨?_, hrun⟩) word hword
        rintro rfl
        exact hblank (by decide)
  exact hrun [] unbroken_nil word h

theorem unbroken_ofNat (n : Nat) : (ofNat n).Unbroken := by
  intro hmem
  have hdigit := Nat.isDigit_of_mem_toDigits (by decide) (by decide) hmem
  exact absurd hdigit (by decide)

/-! ### Lower case -/

/-- No rule leads to a line feed. -/
theorem le_apply_of_rules {rules : List CaseRule} {n least : Nat}
    (h : ∀ r ∈ rules, (least : Int) ≤ r.first + r.shift) :
    CaseRule.apply rules n = n ∨ least ≤ CaseRule.apply rules n := by
  rw [CaseRule.apply]
  split
  · next r hfind =>
    have hmoves := List.find?_some hfind
    have hleast := h r (List.mem_of_find?_eq_some hfind)
    simp only [CaseRule.moves, Bool.and_eq_true, decide_eq_true_eq] at hmoves
    refine Or.inr ?_
    rw [CaseRule.target]
    omega
  · exact Or.inl rfl

theorem eq_newline_of_mem_lowerChar {c : Char} (h : newline ∈ lowerChar c) : c = newline := by
  rw [lowerChar] at h
  split at h
  · exact absurd h (by decide)
  · rw [List.mem_singleton] at h
    have hrules : ∀ r ∈ lowerRules ++ addedLowerRules, ((32 : Nat) : Int) ≤ r.first + r.shift := by
      decide +kernel
    rcases le_apply_of_rules (n := c.toNat) hrules with hsame | hleast
    · rw [hsame, Char.ofNat_toNat] at h
      exact h.symm
    · -- What is moved is moved to 32 or above, and a number that is no character becomes zero.
      generalize CaseRule.apply (lowerRules ++ addedLowerRules) c.toNat = n at h hleast
      by_cases hvalid : n.isValidChar
      · rw [Char.ofNat, dif_pos hvalid] at h
        have hnat : 10 = n := congrArg Char.toNat h
        omega
      · rw [Char.ofNat, dif_neg hvalid] at h
        exact absurd h (by decide)

theorem Unbroken.lower (h : t.Unbroken) : t.lower.Unbroken := by
  have hfrom : ∀ before : Text, (lowerFrom before t).Unbroken := by
    induction t with
    | nil => exact fun _ ↦ unbroken_nil
    | cons c rest ih =>
      intro before
      obtain ⟨hc, hrest⟩ := unbroken_cons.1 h
      rw [lowerFrom, unbroken_append]
      refine ⟨?_, ih hrest _⟩
      split
      · split <;> decide
      · exact fun hmem ↦ hc (eq_newline_of_mem_lowerChar hmem)
  exact hfrom []

end Text

/-! ### Bytes -/

namespace Path

/-- No byte of the path is a line feed. -/
def Unbroken (p : Path) : Prop := 0x0A ∉ p

instance (p : Path) : Decidable p.Unbroken := inferInstanceAs (Decidable (0x0A ∉ p))

variable {p q : Path}

theorem unbroken_append : Unbroken (p ++ q) ↔ p.Unbroken ∧ q.Unbroken := by simp [Unbroken]

/-- The byte of a line feed is written for a line feed only. -/
theorem unbroken_ofText {t : Text} (h : t.Unbroken) : (ofText t).Unbroken := by
  intro hmem
  obtain ⟨c, hc, hbyte⟩ := List.mem_flatMap.1 hmem
  have hnat : c.toNat = 10 := Utf8.toNat_eq_of_mem_encodeChar hbyte (by decide)
  obtain rfl : c = Text.newline := Char.toNat_inj.1 hnat
  exact h hc

theorem unbroken_of_ofText {t : Text} (h : (ofText t).Unbroken) : t.Unbroken :=
  fun hmem ↦ h (List.mem_flatMap.2 ⟨Text.newline, hmem, by decide⟩)

end Path

/-- What is read of an unbroken path is unbroken. -/
theorem Path.unbroken_toText {p : Path} (h : p.Unbroken) : p.toText.Unbroken := by
  intro hmem
  obtain ⟨u, hu, hread⟩ := List.mem_map.1 hmem
  cases u with
  | none => exact absurd (show Utf8.replacement = Text.newline from hread) (by decide)
  | some c =>
    obtain rfl : c = Text.newline := hread
    exact h ((Utf8.mem_of_mem_unitsFrom (by decide) p).1 hu)

end LineShell
