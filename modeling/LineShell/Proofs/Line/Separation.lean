import LineShell.Proofs.Line.Agreement
import LineShell.Proofs.Line.Writing

/-!
# Tokens on both sides of a separator

A blank, `<` or `>` outside quotes ends the word in front of it, and the scanner begins anew behind
it. So a call with such a separator in it has the tokens of what stands in front, the marker if the
separator is one, and the tokens of what stands behind, and it is refused when what stands behind is
(`Token.read_append_cons`). A blank beside a separator, or at an end of the call, is not seen at
all.

Two facts carry this. The scanner never looks at the tokens that it has finished
(`Scanner.scan_behind`). And between words it holds nothing but these tokens: the buffer was emptied
and the parts were put into a word, which are the two invariants `Scanner.Sound.gap` and
`Scanner.Orderly.gap`. Outside quotes a separator therefore leads back to the start, behind the
tokens of the text so far (`Scanner.step_separator`).
-/

namespace LineShell

variable {c : Char} {between ts : List Token} {t blank : Text}

/-- A character that ends a word outside quotes, and the tokens that it stands for itself. -/
inductive Separator : Char → List Token → Prop where
  | blank {c : Char} (h : isBlankChar c = true) : Separator c []
  | marker (m : Marker) : Separator m.char [.marker m]

/-- A blank is none of the quoting marks. -/
theorem not_isMark_of_isBlankChar (h : isBlankChar c = true) : ¬ IsMark c := by
  rintro (rfl | rfl | rfl) <;> exact absurd h (by decide)

namespace Scanner

variable {s : Scanner}

/-! ### Finished tokens -/

/-- The scanner with finished tokens in front of its own. -/
def behind (s : Scanner) (ts : List Token) : Scanner := { s with tokens := s.tokens ++ ts.reverse }

@[simp]
theorem behind_mode (s : Scanner) (ts : List Token) : (s.behind ts).mode = s.mode := rfl

@[simp]
theorem behind_push (s : Scanner) (ts : List Token) (c : Char) :
    (s.behind ts).push c = (s.push c).behind ts := rfl

@[simp]
theorem behind_mark (s : Scanner) (ts : List Token) (m : Marker) :
    (s.behind ts).mark m = (s.mark m).behind ts := rfl

@[simp]
theorem behind_inMode (s : Scanner) (ts : List Token) (mode : Mode) :
    (s.behind ts).inMode mode = (s.inMode mode).behind ts := rfl

@[simp]
theorem behind_endCommand (s : Scanner) (ts : List Token) :
    (s.behind ts).endCommand = s.endCommand.behind ts := rfl

@[simp]
theorem behind_endLiteral (s : Scanner) (ts : List Token) :
    (s.behind ts).endLiteral = s.endLiteral.behind ts := by
  by_cases h : s.buffer = [] <;> simp [endLiteral, behind, h]

@[simp]
theorem behind_endWord (s : Scanner) (ts : List Token) :
    (s.behind ts).endWord = s.endWord.behind ts := by
  simp only [endWord, behind_endLiteral]
  rfl

/-- The scanner takes a character without looking at the tokens that it has finished. -/
theorem step_behind (s : Scanner) (ts : List Token) (c : Char) :
    (s.behind ts).step c = (s.step c).behind ts := by
  cases hmode : s.mode <;> simp only [step, behind_mode, hmode] <;> split_ifs <;> simp

theorem scan_behind (s : Scanner) (ts : List Token) (t : Text) :
    (s.behind ts).scan t = (s.scan t).behind ts := by
  induction t generalizing s with
  | nil => rfl
  | cons c t ih => rw [scan_cons, scan_cons, step_behind, ih]

theorem finish_behind (s : Scanner) (ts : List Token) :
    (s.behind ts).finish = s.finish.map (ts ++ ·) := by
  cases hmode : s.mode <;> simp only [finish, behind_mode, hmode, Except.map]
  · rw [behind, List.reverse_append, List.reverse_reverse]
  · rw [behind_endWord, behind, List.reverse_append, List.reverse_reverse]

/-! ### Separators -/

/-- Between words the scanner holds nothing but finished tokens. -/
theorem eq_behind_of_gap (hsound : s.Sound) (horderly : s.Orderly) (hgap : s.mode = .gap) :
    s = start.behind s.tokens.reverse := by
  have hbuffer := hsound.gap hgap
  have hparts := horderly.gap hgap
  obtain ⟨mode, buffer, parts, tokens⟩ := s
  obtain rfl : mode = .gap := hgap
  obtain rfl : buffer = [] := hbuffer
  obtain rfl : parts = [] := hparts
  simp [behind, start]

/-- **Behind a separator outside quotes the scanner begins anew.** -/
theorem step_separator (hsound : s.Sound) (horderly : s.Orderly) (hc : Separator c between)
    (hfinish : s.finish = .ok ts) : s.step c = start.behind (ts ++ between) := by
  have hnext : ∃ s' : Scanner, s.step c = s' ∧ s'.mode = .gap ∧
      s'.tokens.reverse = ts ++ between := by
    refine ⟨_, rfl, ?_⟩
    cases hmode : s.mode <;> simp only [finish, hmode, Except.ok.injEq, reduceCtorEq] at hfinish
    -- Between words the separator is passed over or noted; in a word it ends the word first.
    all_goals
      subst hfinish
      cases hc with
      | blank hblank => simp [step, hmode, hblank, inMode]
      | marker m => cases m <;> simp [step, hmode, isBlankChar, Marker.char, mark, inMode]
  obtain ⟨s', hstep, hgap, htokens⟩ := hnext
  rw [hstep, ← htokens]
  exact eq_behind_of_gap (hstep ▸ hsound.step c) (hstep ▸ horderly.step c) hgap

/-- A blank at the end changes nothing, inside quotes either. -/
theorem finish_step_of_isBlankChar (h : isBlankChar c = true) (s : Scanner) :
    (s.step c).finish = s.finish := by
  obtain ⟨hsingle, hother⟩ := not_or.1 (not_isMark_of_isBlankChar h)
  obtain ⟨hdouble, hback⟩ := not_or.1 hother
  cases hmode : s.mode <;> simp [step, finish, hmode, h, hsingle, hdouble, hback, inMode]

theorem finish_scan_of_isBlank (h : blank.isBlank = true) (s : Scanner) :
    (s.scan blank).finish = s.finish := by
  induction blank generalizing s with
  | nil => rfl
  | cons c rest ih =>
    obtain ⟨hc, hrest⟩ := Bool.and_eq_true_iff.1 h
    rw [scan_cons, ih hrest, finish_step_of_isBlankChar hc]

end Scanner

namespace Token

variable {a : Text} {ta : List Token}

/-- **Reading is a homomorphism at separators outside quotes.** -/
theorem read_append_cons (hc : Separator c between) (ha : read a = .ok ta) (b : Text) :
    read (a ++ c :: b) = (read b).map (ta ++ between ++ ·) := by
  have hstep := Scanner.step_separator (Scanner.sound_start.scan a) (Scanner.orderly_start.scan a)
    hc ha
  rw [read, Scanner.scan_append, Scanner.scan_cons, hstep, Scanner.scan_behind,
    Scanner.finish_behind]
  rfl

/-- Blanks in front of a call are not seen. -/
theorem read_blank_append (h : blank.isBlank = true) (t : Text) : read (blank ++ t) = read t := by
  rw [read, Scanner.scan_append, Scanner.scan_of_isBlank h rfl]
  rfl

/-- Blanks behind a call are not seen; behind an open quote they do not close it. -/
theorem read_append_blank (h : blank.isBlank = true) (t : Text) : read (t ++ blank) = read t := by
  rw [read, Scanner.scan_append, Scanner.finish_scan_of_isBlank h]
  rfl

/-- **Texts with a separator between them are read apart.** Behind a text that can be read, a
separator and another text are read as that other text alone, with the tokens of the first one and
of the separator in front; they are refused when the other text is, for the same mark. Blanks beside
a separator and at either end of a call are not seen. -/
theorem separated_texts_are_read_apart (a : Text) (ta : List Token) (ha : read a = .ok ta) :
    (∀ c between, Separator c between → ∀ b,
      read (a ++ c :: b) = (read b).map (ta ++ between ++ ·) ∧
      (∀ d, read (a ++ c :: b) = .error d ↔ read b = .error d) ∧
      ∀ blank : Text, blank.isBlank = true →
        read (a ++ c :: (blank ++ b)) = read (a ++ c :: b) ∧
        read (a ++ blank ++ c :: b) = read (a ++ c :: b)) ∧
    ∀ blank t : Text, blank.isBlank = true →
      read (blank ++ t) = read t ∧ read (t ++ blank) = read t := by
  refine ⟨fun c between hc b ↦ ⟨read_append_cons hc ha b, fun d ↦ ?_, fun blank hblank ↦ ?_⟩,
    fun blank t hblank ↦ ⟨read_blank_append hblank t, read_append_blank hblank t⟩⟩
  · rw [read_append_cons hc ha b]
    cases read b <;> simp [Except.map]
  · have hfront : read (a ++ blank) = .ok ta := (read_append_blank hblank a).trans ha
    rw [read_append_cons hc ha, read_append_cons hc hfront, read_append_cons hc ha,
      read_blank_append hblank]
    exact ⟨rfl, rfl⟩

/-- A word of quoted and back-quoted segments in front of a marker, with words behind it that can be
read, and with an open quote. -/
theorem separated_texts_are_read_apart_quoted :
    let a := "a' > '`c d`".toList
    let ta : List Token := [.word [.literal "a > ".toList, .command "c d".toList]]
    read a = .ok ta ∧ Separator '>' [.marker .output] ∧
    read (a ++ '>' :: "f g".toList) =
      .ok (ta ++ [.marker .output, .word [.literal ['f']], .word [.literal ['g']]]) ∧
    read (a ++ '>' :: "\"f".toList) = .error .double ∧
    read (a ++ ['\t', ' '] ++ '>' :: "f".toList) = read (a ++ '>' :: "f".toList) := by
  intro a ta
  have ha : read a = .ok ta := by decide
  have hc : Separator '>' [.marker .output] := .marker .output
  obtain ⟨happart, -⟩ := separated_texts_are_read_apart a ta ha
  have hwords := (happart '>' _ hc "f g".toList).1
  have hopen := (happart '>' _ hc "\"f".toList).2.1 .double
  have hblank := (happart '>' _ hc "f".toList).2.2 ['\t', ' '] (by decide)
  exact ⟨ha, hc, hwords.trans rfl, hopen.2 (by decide), hblank.2⟩

end Token

end LineShell
