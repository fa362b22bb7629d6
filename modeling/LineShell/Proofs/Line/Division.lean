import LineShell.Proofs.Line.Canonical

/-!
# The division of a line

A line is divided into commands and a command into calls, at the separators outside quotes. The
division is described without the parser: the calls are balanced and hold no bare separator, and
with the separators put back they are the line (`Division`). A balanced line has exactly one
(`existsUnique_division`), and its calls are those of the tree (`Division.calls_eq`).
-/

namespace LineShell

variable {sep : Char} {s t u line : Text} {pieces : List Text} {commands : List (List Text)}

/-! ### Pieces at one separator -/

theorem Text.join_cons_of_ne_nil (glue t : Text) (h : pieces ≠ []) :
    Text.join glue (t :: pieces) = t ++ glue ++ Text.join glue pieces := by
  cases pieces with
  | nil => exact absurd rfl h
  | cons _ _ => rfl

theorem Text.join_concat (glue u : Text) (h : pieces ≠ []) :
    Text.join glue (pieces ++ [u]) = Text.join glue pieces ++ glue ++ u := by
  induction pieces with
  | nil => exact absurd rfl h
  | cons t rest ih =>
    by_cases hrest : rest = []
    · subst hrest
      rfl
    · rw [List.cons_append, Text.join_cons_of_ne_nil glue t (by simp), ih hrest,
        Text.join_cons_of_ne_nil glue t hrest]
      simp [List.append_assoc]

namespace Tree

/-- The pieces of a text between its bare separators. -/
def piecesOf (sep : Char) (t : Text) : List Text := (cut sep t).1 :: (cut sep t).2

theorem piecesOf_of_not_bare (h : ¬ Bare sep t) : piecesOf sep t = [t] := by
  rw [piecesOf, cut_of_not_bare h]

theorem piecesOf_append_cons (hsep : IsSeparator sep) (hs : Balanced s) (hu : ¬ Bare sep u) :
    piecesOf sep (s ++ sep :: u) = piecesOf sep s ++ [u] := by
  rw [piecesOf, cut_append_cons hsep hs hu]
  rfl

/-- The pieces with the separator between them are the text. -/
theorem join_piecesOf (hsep : IsSeparator sep) (t : Text) :
    Text.join [sep] (piecesOf sep t) = t := by
  induction t using bareInduction hsep with
  | piece t ht =>
    rw [piecesOf_of_not_bare ht]
    rfl
  | append s u hs hu ih =>
    rw [piecesOf_append_cons hsep hs hu, Text.join_concat _ _ (by simp [piecesOf]), ih]
    simp

/-- A piece has no bare separator, is balanced if the text is, and has only the bare characters of
the text. -/
theorem of_mem_piecesOf (hsep : IsSeparator sep) (ht : Balanced t) (hu : u ∈ piecesOf sep t) :
    Balanced u ∧ ¬ Bare sep u ∧ ∀ c, Bare c u → Bare c t := by
  induction t using bareInduction hsep with
  | piece t hbare =>
    rw [piecesOf_of_not_bare hbare, List.mem_singleton] at hu
    subst hu
    exact ⟨ht, hbare, fun _ h ↦ h⟩
  | append s v hs hv ih =>
    rw [hs.append_iff, hsep.balanced_cons] at ht
    rw [piecesOf_append_cons hsep hs hv, List.mem_append, List.mem_singleton] at hu
    rcases hu with hu | rfl
    · obtain ⟨hbal, hnone, hsub⟩ := ih hs hu
      exact ⟨hbal, hnone, fun c h ↦ hs.bare_append.2 (Or.inl (hsub c h))⟩
    · exact ⟨ht, hv, fun c h ↦ hs.bare_append.2 (Or.inr (hsep.bare_cons.2 (Or.inr h)))⟩

/-- Texts without a bare separator are the pieces of their join. -/
theorem piecesOf_join (hsep : IsSeparator sep) (hne : pieces ≠ [])
    (h : ∀ t ∈ pieces, Balanced t ∧ ¬ Bare sep t) :
    piecesOf sep (Text.join [sep] pieces) = pieces := by
  induction pieces with
  | nil => exact absurd rfl hne
  | cons t rest ih =>
    obtain ⟨hbal, hbare⟩ := h t List.mem_cons_self
    by_cases hrest : rest = []
    · subst hrest
      exact piecesOf_of_not_bare hbare
    · have hjoin : Text.join [sep] (t :: rest) = t ++ sep :: Text.join [sep] rest := by
        rw [Text.join_cons_of_ne_nil _ _ hrest]
        simp
      rw [hjoin, piecesOf, cut, cutFrom_append_cons hsep hbal, cutFrom_of_not_bareFrom hbare]
      exact congrArg (t :: ·) (ih hrest fun u hu ↦ h u (List.mem_cons_of_mem _ hu))

end Tree

/-! ### Both separators -/

/-- The line is divided into these commands, and each of them into these calls. -/
structure Division (line : Text) (commands : List (List Text)) : Prop where
  ne_nil : commands ≠ []
  command_ne_nil : ∀ calls ∈ commands, calls ≠ []
  /-- No call holds a bare separator. -/
  call : ∀ calls ∈ commands, ∀ text ∈ calls, Balanced text ∧ ¬ Bare ';' text ∧ ¬ Bare '|' text
  /-- Nothing but the separators is missing. -/
  joined : line = Text.join [';'] (commands.map (Text.join ['|']))

open LineShell.Tree

/-- The division that the parser finds. -/
theorem division_piecesOf (hline : Balanced line) :
    Division line ((piecesOf ';' line).map (piecesOf '|')) where
  ne_nil := by simp [piecesOf]
  command_ne_nil calls h := by
    obtain ⟨command, -, rfl⟩ := List.mem_map.1 h
    simp [piecesOf]
  call calls h text htext := by
    obtain ⟨command, hcommand, rfl⟩ := List.mem_map.1 h
    obtain ⟨hbal, hsemi, -⟩ := of_mem_piecesOf isSeparator_semicolon hline hcommand
    obtain ⟨hbal', hbar, hsub⟩ := of_mem_piecesOf isSeparator_bar hbal htext
    exact ⟨hbal', fun h ↦ hsemi (hsub ';' h), hbar⟩
  joined := by
    have hcommands : (piecesOf ';' line).map (Text.join ['|'] ∘ piecesOf '|') = piecesOf ';' line :=
      (List.map_congr_left fun t _ ↦ join_piecesOf isSeparator_bar t).trans (List.map_id _)
    rw [List.map_map, hcommands, join_piecesOf isSeparator_semicolon]

/-- Joined at bars, calls without semicolons are a command without semicolons. -/
theorem balanced_join (h : ∀ t ∈ pieces, Balanced t ∧ ¬ Bare ';' t) :
    Balanced (Text.join ['|'] pieces) ∧ ¬ Bare ';' (Text.join ['|'] pieces) := by
  induction pieces with
  | nil => exact ⟨rfl, not_bareFrom_nil⟩
  | cons t rest ih =>
    obtain ⟨hbal, hbare⟩ := h t List.mem_cons_self
    obtain ⟨hbal', hbare'⟩ := ih fun u hu ↦ h u (List.mem_cons_of_mem _ hu)
    by_cases hrest : rest = []
    · subst hrest
      exact ⟨hbal, hbare⟩
    · rw [Text.join_cons_of_ne_nil _ _ hrest, List.append_assoc, hbal.append_iff, hbal.bare_append]
      refine ⟨isSeparator_bar.balanced_cons.2 hbal', ?_⟩
      -- The bar between the two is no semicolon.
      rintro (h | h)
      · exact hbare h
      · exact (isSeparator_bar.bare_cons.1 h).elim (by decide) hbare'

/-- **There is no other division.** -/
theorem Division.eq_piecesOf (h : Division line commands) :
    commands = (piecesOf ';' line).map (piecesOf '|') := by
  have hcommand : ∀ calls ∈ commands, piecesOf '|' (Text.join ['|'] calls) = calls :=
    fun calls hcalls ↦ piecesOf_join isSeparator_bar (h.command_ne_nil calls hcalls)
      fun t ht ↦ ⟨(h.call calls hcalls t ht).1, (h.call calls hcalls t ht).2.2⟩
  have hpieces : piecesOf ';' line = commands.map (Text.join ['|']) := by
    rw [h.joined]
    refine piecesOf_join isSeparator_semicolon (by simpa using h.ne_nil) fun t ht ↦ ?_
    obtain ⟨calls, hcalls, rfl⟩ := List.mem_map.1 ht
    exact balanced_join fun u hu ↦ ⟨(h.call calls hcalls u hu).1, (h.call calls hcalls u hu).2.1⟩
  rw [hpieces, List.map_map]
  exact ((List.map_congr_left hcommand).trans (List.map_id _)).symm

theorem existsUnique_division (hline : Balanced line) : ∃! commands, Division line commands :=
  ⟨_, division_piecesOf hline, fun _ h ↦ h.eq_piecesOf⟩

/-- The calls of a command are the calls of its tree. -/
theorem Tree.calls_ofCommand (t : Text) : (ofCommand t).calls = piecesOf '|' t := by
  induction t using bareInduction isSeparator_bar with
  | piece t ht => rw [ofCommand_of_not_bare ht, piecesOf_of_not_bare ht, calls]
  | append s u hs hu ih =>
    rw [ofCommand_append_cons hs hu, piecesOf_append_cons isSeparator_bar hs hu, calls, ih, calls]

theorem Tree.calls_ofBalanced (t : Text) :
    (ofBalanced t).calls = ((piecesOf ';' t).map (piecesOf '|')).flatten := by
  induction t using bareInduction isSeparator_semicolon with
  | piece t ht =>
    rw [ofBalanced_of_not_bare ht, piecesOf_of_not_bare ht, calls_ofCommand]
    simp
  | append s u hs hu ih =>
    rw [ofBalanced_append_cons hs hu, piecesOf_append_cons isSeparator_semicolon hs hu, calls, ih,
      calls_ofCommand]
    simp

/-- The calls of the division are the calls of the tree, in order. -/
theorem Division.calls_eq (h : Division line commands) {t : Tree} (ht : Tree.parse line = .ok t) :
    commands.flatten = t.calls := by
  obtain ⟨-, rfl⟩ := parse_eq_ok_iff.1 ht
  rw [h.eq_piecesOf, calls_ofBalanced]

end LineShell
