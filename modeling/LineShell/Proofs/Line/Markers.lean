import LineShell.Proofs.Line.Agreement
import LineShell.Proofs.Line.Command

/-!
# Counting markers

The tokens of a call hold a marker as often as its character stands outside quotes
(`Token.count_marker`). So whether a call has a marker twice can be seen on its text, and nothing
that is quoted counts.
-/

namespace LineShell

/-- How often a character stands outside every quoted region of a text, which begins in the region
`q`. -/
def bareCountFrom (c : Char) : Quoting → Text → Nat
  | _, [] => 0
  | q, d :: t => (if q = .plain ∧ d = c then 1 else 0) + bareCountFrom c (q.step d) t

/-- How often a character stands outside every quoted region of a text. -/
def bareCount (c : Char) (t : Text) : Nat := bareCountFrom c .plain t

theorem bareCountFrom_of_not_mem {c : Char} {t : Text} (h : c ∉ t) (q : Quoting) :
    bareCountFrom c q t = 0 := by
  induction t generalizing q with
  | nil => rfl
  | cons d t ih =>
    obtain ⟨hd, ht⟩ := not_or.1 fun other ↦ h (List.mem_cons.2 other)
    rw [bareCountFrom, if_neg fun hand ↦ hd hand.2.symm, ih ht]

namespace Scanner

variable {s : Scanner} {c : Char} {m : Marker}

/-- How often a marker has been read. -/
def count (s : Scanner) (m : Marker) : Nat := s.tokens.count (.marker m)

@[simp]
theorem count_push : (s.push c).count m = s.count m := rfl

@[simp]
theorem count_inMode {mode : Mode} : (s.inMode mode).count m = s.count m := rfl

@[simp]
theorem count_endLiteral : s.endLiteral.count m = s.count m := by
  rw [count, count, endLiteral_tokens]

@[simp]
theorem count_endCommand : s.endCommand.count m = s.count m := rfl

@[simp]
theorem count_endWord : s.endWord.count m = s.count m := by
  simp [count, endWord]

@[simp]
theorem count_mark {m' : Marker} : (s.mark m').count m = s.count m + if m' = m then 1 else 0 := by
  simp [count, mark, List.count_cons]

/-- A blank is no marker. -/
theorem ne_char_of_isBlankChar (h : isBlankChar c = true) (m : Marker) : c ≠ m.char := by
  rintro rfl
  cases m <;> exact absurd h (by decide)

/-- **One character adds a marker exactly when it is one, outside quotes.** -/
theorem count_step (s : Scanner) (c : Char) (m : Marker) :
    (s.step c).count m =
      (if s.mode.quoting = .plain ∧ c = m.char then 1 else 0) + s.count m := by
  cases hmode : s.mode with
  | gap | word =>
    by_cases hblank : isBlankChar c = true
    · simp [step, hmode, hblank, ne_char_of_isBlankChar hblank m]
    · cases m <;> simp only [step, hmode, hblank, Mode.quoting, Marker.char] <;>
        grind [count_push, count_inMode, count_endLiteral, count_endWord, count_mark]
  | single | double | back | doubleBack =>
    simp only [step, hmode, Mode.quoting]
    grind [count_push, count_inMode, count_endLiteral, count_endCommand]

theorem count_scan (s : Scanner) (t : Text) (m : Marker) :
    (s.scan t).count m = bareCountFrom m.char s.mode.quoting t + s.count m := by
  induction t generalizing s with
  | nil => simp [scan, bareCountFrom]
  | cons c t ih =>
    show ((s.step c).scan t).count m = _
    rw [ih, count_step, quoting_step, bareCountFrom]
    omega

/-- The end of a text adds no marker. -/
theorem count_finish {ts : List Token} (h : s.finish = .ok ts) (m : Marker) :
    ts.count (.marker m) = s.count m := by
  cases hmode : s.mode <;> simp only [finish, hmode] at h
  case gap =>
    obtain rfl := Except.ok.inj h
    exact List.count_reverse
  case word =>
    obtain rfl := Except.ok.inj h
    rw [List.count_reverse]
    exact count_endWord
  all_goals cases h

end Scanner

/-- **A call has a marker as often as its text has the character outside quotes.** -/
theorem Token.count_marker {text : Text} {ts : List Token} (h : read text = .ok ts) (m : Marker) :
    ts.count (.marker m) = bareCount m.char text := by
  rw [Scanner.count_finish h, Scanner.count_scan]
  rfl

end LineShell
