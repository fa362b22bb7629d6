import LineShell.Line.Token
import LineShell.Proofs.Line.Canonical
import LineShell.Shell.Error

/-!
# Lines and calls agree about quoting

A line is cut into calls by a pass that only follows the quoted regions, and a call is cut into
tokens by a scanner with buffers and modes of its own. Both follow the same regions: what the
scanner reads is always in the region that `Quoting.step` finds (`quoting_scan`), the modes `gap`
and `word` being two sides of `plain`. So a text is refused by both or by neither, and for the same
mark.

That the calls of an accepted line can be read needs in addition that a cut at bare separators keeps
every piece balanced, which is part of being canonical.
-/

namespace LineShell

/-- The quoted region that a mode of the scanner reads in. -/
def Scanner.Mode.quoting : Scanner.Mode → Quoting
  | gap => .plain
  | word => .plain
  | single => .single
  | double => .double
  | back => .back
  | doubleBack => .doubleBack

/-- A blank is no quoting mark. -/
theorem step_plain_of_isBlankChar {c : Char} (h : isBlankChar c = true) :
    Quoting.plain.step c = .plain := by
  have hc : c ≠ '\'' ∧ c ≠ '"' ∧ c ≠ '`' := by
    refine ⟨?_, ?_, ?_⟩ <;> rintro rfl <;> exact absurd h (by decide)
  rw [Quoting.step, if_neg hc.1, if_neg hc.2.1, if_neg hc.2.2]

namespace Scanner

/-- **The scanner and the regions move in step.** -/
theorem quoting_step (s : Scanner) (c : Char) :
    (s.step c).mode.quoting = s.mode.quoting.step c := by
  -- Only outside quotes does the scanner look for blanks and markers, which the regions pass over.
  cases hmode : s.mode with
  | gap =>
    by_cases hblank : isBlankChar c = true
    · rw [Mode.quoting, step_plain_of_isBlankChar hblank]
      simp [step, hmode, hblank, Mode.quoting]
    · simp only [step, hmode, hblank, Mode.quoting, Quoting.step]
      grind [Mode.quoting, mark_mode, inMode_mode]
  | word =>
    by_cases hblank : isBlankChar c = true
    · rw [Mode.quoting, step_plain_of_isBlankChar hblank]
      simp [step, hmode, hblank, Mode.quoting]
    · simp only [step, hmode, hblank, Mode.quoting, Quoting.step]
      grind [Mode.quoting, inMode_mode, push_mode]
  | single | double | back | doubleBack =>
    simp only [step, hmode, Mode.quoting, Quoting.step]
    grind [Mode.quoting, inMode_mode, push_mode]

/-- The run of the scanner follows the run of the regions. -/
theorem quoting_scan (s : Scanner) (t : Text) :
    (s.scan t).mode.quoting = s.mode.quoting.after t := by
  induction t generalizing s with
  | nil => rfl
  | cons c t ih =>
    show ((s.step c).scan t).mode.quoting = _
    rw [ih, quoting_step, Quoting.after_cons]

/-- Between words blanks are passed over. -/
theorem scan_of_isBlank {s : Scanner} {t : Text} (h : t.isBlank = true) (hgap : s.mode = .gap) :
    s.scan t = s := by
  induction t with
  | nil => rfl
  | cons c rest ih =>
    obtain ⟨hc, hrest⟩ := Bool.and_eq_true_iff.1 h
    have hstep : s.step c = s := by
      rw [step, hgap]
      exact if_pos hc
    show (s.step c).scan rest = _
    rw [hstep, ih hrest]

/-- The scanner fails with the mark of the region that it ends in. -/
theorem finish_eq_error_iff {s : Scanner} {d : Delimiter} :
    s.finish = .error d ↔ s.mode.quoting.openMark = some d := by
  cases hmode : s.mode <;> simp [finish, hmode, Mode.quoting, Quoting.openMark]

end Scanner

namespace Token

/-- A call and a line are refused alike. -/
theorem read_eq_error_iff {s : Text} {d : Delimiter} :
    read s = .error d ↔ Tree.parse s = .error d := by
  rw [read, Scanner.finish_eq_error_iff, Scanner.quoting_scan, Tree.parse_eq_error_iff]
  rfl

/-- A balanced text can be read as a call. -/
theorem exists_read_eq_ok {s : Text} (h : Balanced s) : ∃ tokens, read s = .ok tokens := by
  cases hread : read s with
  | ok tokens => exact ⟨tokens, rfl⟩
  | error d =>
    rw [read_eq_error_iff, Tree.parse_eq_error_iff, h] at hread
    cases hread

/-- A blank text has no tokens. -/
theorem read_of_isBlank {s : Text} (h : s.isBlank = true) : read s = .ok [] := by
  rw [read, Scanner.scan_of_isBlank h rfl]
  rfl

end Token

/-- A blank line is one blank call. -/
theorem Tree.parse_of_isBlank {s : Text} (h : s.isBlank = true) : parse s = .ok (.call s) := by
  have hbare : ∀ sep, isBlankChar sep = false → ¬ Bare sep s := by
    rintro sep hsep ⟨before, after, rfl, -⟩
    have hmem : sep ∈ before ++ sep :: after := List.mem_append_right _ List.mem_cons_self
    exact Bool.false_ne_true (hsep.symm.trans (List.all_eq_true.1 h sep hmem))
  rcases hparse : parse s with d | t
  · exact nomatch (Token.read_of_isBlank h).symm.trans (Token.read_eq_error_iff.2 hparse)
  · obtain ⟨-, rfl⟩ := parse_eq_ok_iff.1 hparse
    rw [ofBalanced_of_not_bare (hbare ';' (by decide)),
      ofCommand_of_not_bare (hbare '|' (by decide))]

/-- The calls of a canonical tree are balanced. -/
theorem Tree.Canonical.balanced_of_mem_calls {t : Tree} (h : t.Canonical) {text : Text}
    (htext : text ∈ t.calls) : Balanced text := by
  induction t with
  | call text' =>
    rw [calls, List.mem_singleton] at htext
    exact htext ▸ h.1
  | pipe left right ihl ihr =>
    obtain ⟨-, -, hl, hr⟩ := h
    exact (List.mem_append.1 htext).elim (ihl hl) (ihr hr)
  | seq left right ihl ihr =>
    obtain ⟨-, hl, hr⟩ := h
    exact (List.mem_append.1 htext).elim (ihl hl) (ihr hr)

/-- **The two stages agree about quoting.** A text is refused as a call exactly when it is refused
as a line, with the same mark and so with the same message; and every call of an accepted line can
be read. -/
theorem quoting_agreement :
    (∀ s, (∃ d, Token.read s = .error d) ↔ ∃ d, Tree.parse s = .error d) ∧
    (∀ s d e, Token.read s = .error d → Tree.parse s = .error e →
      d = e ∧ (ShellError.unterminated d).message = (ShellError.unterminated e).message) ∧
    (∀ line t, Tree.parse line = .ok t →
      ∀ text ∈ t.calls, ∃ tokens, Token.read text = .ok tokens) := by
  refine ⟨fun s ↦ exists_congr fun d ↦ Token.read_eq_error_iff, fun s d e hread hparse ↦ ?_,
    fun line t hline text htext ↦ ?_⟩
  · rw [Token.read_eq_error_iff, hparse] at hread
    obtain rfl := Except.error.inj hread
    exact ⟨rfl, rfl⟩
  · have hcan : t.Canonical := (Tree.parse_eq_ok_iff_render.1 hline).1
    exact Token.exists_read_eq_ok (hcan.balanced_of_mem_calls htext)

/-- A line with quoted separators, whose calls can be read, and a text that both refuse for the
back-quote inside its double quotes. -/
theorem quoting_agreement_nested :
    Tree.parse "a '|'|\"b `;` c\";".toList = .ok
      (.seq (.pipe (.call "a '|'".toList) (.call "\"b `;` c\"".toList)) (.call [])) ∧
    (∃ tokens, Token.read "\"b `;` c\"".toList = .ok tokens) ∧
    Tree.parse "a \"b `c'".toList = .error .back ∧
    ∃ d, Token.read "a \"b `c'".toList = .error d ∧ d = .back := by
  have hline : Tree.parse "a '|'|\"b `;` c\";".toList = .ok
      (.seq (.pipe (.call "a '|'".toList) (.call "\"b `;` c\"".toList)) (.call [])) := by decide
  have hopen : Tree.parse "a \"b `c'".toList = .error .back := by decide
  obtain ⟨d, hd⟩ := (quoting_agreement.1 _).2 ⟨_, hopen⟩
  refine ⟨hline, quoting_agreement.2.2 _ _ hline _ (by decide), hopen, d, hd, ?_⟩
  exact (quoting_agreement.2.1 _ _ _ hd hopen).1

end LineShell
