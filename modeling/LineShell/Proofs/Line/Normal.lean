import LineShell.Proofs.Line.Command
import Mathlib.Data.List.Chain

/-!
# Normal tokens

The scanner joins the segments of a word, so what it gives out has one form: a word has a part, two
literal parts are never neighbours, an empty literal part stands alone, and a command holds no
back-quote. These tokens are **normal** (`NormalTokens`), and every text is read as normal tokens
(`Token.normalTokens_of_read`).

The joining rests on where the buffer is emptied. A literal part ends at a back-quote or with its
word and nowhere else, so behind a finished literal part the scanner is in a command, and the next
part of the word is that command (`Scanner.Orderly.last`).
-/

namespace LineShell

/-- A part that is literal text. -/
def Part.IsLiteral : Part → Prop
  | literal _ => True
  | command _ => False

/-- Neighbours of which one is a command. -/
def Part.Apart (p q : Part) : Prop := ¬ (p.IsLiteral ∧ q.IsLiteral)

theorem Part.Apart.symm {p q : Part} (h : p.Apart q) : q.Apart p := fun ⟨hq, hp⟩ ↦ h ⟨hp, hq⟩

/-- A word whose adjacent segments are joined. -/
structure JoinedWord (parts : List Part) : Prop where
  ne_nil : parts ≠ []
  /-- No two literal parts are neighbours. -/
  isChain : parts.IsChain Part.Apart
  /-- An empty literal part is the only part. -/
  sole : .literal [] ∈ parts → parts = [.literal []]

/-- A joined word whose commands hold no back-quote. -/
structure NormalWord (parts : List Part) : Prop extends JoinedWord parts where
  command : ∀ c, .command c ∈ parts → '`' ∉ c

/-- Every word of the tokens is normal. -/
def NormalTokens (ts : List Token) : Prop := ∀ parts, .word parts ∈ ts → NormalWord parts

namespace Scanner

/-- What holds of the parts and of the tokens of the scanner at every place of a text. -/
structure Orderly (s : Scanner) : Prop where
  /-- Between words no word is begun. -/
  gap : s.mode = .gap → s.parts = []
  /-- Outside commands the last finished part is no literal. -/
  last : ¬ s.mode.IsCommand → ∀ p ∈ s.parts.head?, ¬ p.IsLiteral
  isChain : s.parts.IsChain Part.Apart
  literal : .literal [] ∉ s.parts
  words : ∀ parts, .word parts ∈ s.tokens → JoinedWord parts

variable {s : Scanner} {c : Char}

theorem orderly_start : Orderly start where
  gap _ := rfl
  last _ p hp := by simp [start] at hp
  isChain := .nil
  literal := by simp [start]
  words parts h := by simp [start] at h

/-! ### Operations -/

namespace Orderly

variable (h : s.Orderly)

include h

protected theorem push (c : Char) : (s.push c).Orderly :=
  ⟨h.gap, h.last, h.isChain, h.literal, h.words⟩

protected theorem mark (m : Marker) : (s.mark m).Orderly where
  gap := h.gap
  last := h.last
  isChain := h.isChain
  literal := h.literal
  words parts hparts := h.words parts (by simpa [Scanner.mark] using hparts)

/-- Outside commands the scanner may go on in any mode, between words if no word is begun. -/
protected theorem inMode (hmode : ¬ s.mode.IsCommand) {mode : Mode}
    (hgap : mode = .gap → s.parts = []) : (s.inMode mode).Orderly :=
  ⟨hgap, fun _ ↦ h.last hmode, h.isChain, h.literal, h.words⟩

/-- Outside commands the scanner may go on in its word, in any way. -/
theorem inWord (hmode : ¬ s.mode.IsCommand) {mode : Mode} (hword : mode ≠ .gap) :
    (s.inMode mode).Orderly :=
  h.inMode hmode fun hgap ↦ absurd hgap hword

/-- The parts of a word are joined also when the literal being read is added. -/
theorem isChain_endLiteral (hmode : ¬ s.mode.IsCommand) :
    s.endLiteral.parts.IsChain Part.Apart ∧ .literal [] ∉ s.endLiteral.parts := by
  unfold endLiteral
  split
  · exact ⟨h.isChain, h.literal⟩
  · next hbuffer =>
    refine ⟨h.isChain.cons fun p hp hboth ↦ h.last hmode p hp hboth.2, ?_⟩
    simp [h.literal, hbuffer]

/-- A literal part ends where a command begins. -/
protected theorem endLiteral (hmode : ¬ s.mode.IsCommand) {mode : Mode}
    (hcommand : mode.IsCommand) :
    (s.endLiteral.inMode mode).Orderly where
  gap hgap := by
    rw [inMode_mode] at hgap
    exact absurd hcommand (hgap ▸ id)
  last hnot := absurd hcommand hnot
  isChain := (h.isChain_endLiteral hmode).1
  literal := (h.isChain_endLiteral hmode).2
  words parts hparts := h.words parts (endLiteral_tokens s ▸ hparts)

/-- Behind a command anything may follow in its word. -/
protected theorem endCommand {mode : Mode} (hgap : mode ≠ .gap) :
    (s.endCommand.inMode mode).Orderly where
  gap hmode := absurd hmode hgap
  last _ p hp := by
    obtain rfl : .command s.buffer.reverse = p := Option.some.inj hp
    exact id
  isChain := h.isChain.cons fun p _ hboth ↦ hboth.1
  literal := by simp [endCommand, inMode, h.literal]
  words := h.words

/-- A word that ends is joined. -/
protected theorem endWord (hmode : ¬ s.mode.IsCommand) (mode : Mode) :
    (s.endWord.inMode mode).Orderly where
  gap _ := rfl
  last _ p hp := by cases hp
  isChain := .nil
  literal := List.not_mem_nil
  words parts hparts := by
    obtain ⟨hchain, hliteral⟩ := h.isChain_endLiteral hmode
    rcases List.mem_cons.1 hparts with hnew | hold
    · obtain rfl := Token.word.inj hnew
      split
      -- A word without a part is the empty word.
      · exact ⟨by simp, .singleton _, fun _ ↦ rfl⟩
      · next hne =>
        refine ⟨by simpa using hne, ?_, fun hmem ↦ absurd (List.mem_reverse.1 hmem) hliteral⟩
        exact List.isChain_reverse.2 (hchain.imp fun _ _ happart ↦ happart.symm)
    · exact h.words parts (endLiteral_tokens s ▸ hold)

/-- **One character keeps the words joined.** -/
protected theorem step (c : Char) : (s.step c).Orderly := by
  cases hmode : s.mode with
  | gap =>
    have hplain : ¬ s.mode.IsCommand := hmode ▸ id
    have hparts : s.parts = [] := h.gap hmode
    simp only [Scanner.step, hmode]
    split_ifs
    · exact h
    · exact h.mark .input
    · exact h.mark .output
    · exact h.inMode hplain fun _ ↦ hparts
    · exact h.inMode hplain fun _ ↦ hparts
    · exact h.inMode hplain fun _ ↦ hparts
    · exact (h.push c).inMode hplain fun _ ↦ hparts
  | word =>
    have hplain : ¬ s.mode.IsCommand := hmode ▸ id
    simp only [Scanner.step, hmode]
    split_ifs
    · exact h.endWord hplain .gap
    · exact (h.endWord hplain .gap).mark .input
    · exact (h.endWord hplain .gap).mark .output
    · exact h.inWord hplain (by decide)
    · exact h.inWord hplain (by decide)
    · exact h.endLiteral hplain trivial
    · exact h.push c
  | single =>
    have hplain : ¬ s.mode.IsCommand := hmode ▸ id
    simp only [Scanner.step, hmode]
    split_ifs
    · exact h.inWord hplain (by decide)
    · exact h.push c
  | double =>
    have hplain : ¬ s.mode.IsCommand := hmode ▸ id
    simp only [Scanner.step, hmode]
    split_ifs
    · exact h.inWord hplain (by decide)
    · exact h.endLiteral hplain trivial
    · exact h.push c
  | back | doubleBack =>
    simp only [Scanner.step, hmode]
    split_ifs
    · exact h.endCommand (by decide)
    · exact h.push c

protected theorem scan (t : Text) : (s.scan t).Orderly := by
  induction t generalizing s with
  | nil => exact h
  | cons c t ih => exact ih (h.step c)

/-- The words that the scanner gives out are joined. -/
theorem joinedWord_of_finish {ts : List Token} (hfinish : s.finish = .ok ts) {parts : List Part}
    (hparts : .word parts ∈ ts) : JoinedWord parts := by
  cases hmode : s.mode <;> simp only [finish, hmode] at hfinish
  case gap =>
    obtain rfl := Except.ok.inj hfinish
    exact h.words parts (List.mem_reverse.1 hparts)
  case word =>
    obtain rfl := Except.ok.inj hfinish
    exact (h.endWord (hmode ▸ id) .gap).words parts (List.mem_reverse.1 hparts)
  all_goals cases hfinish

end Orderly

end Scanner

/-- **Every text is read as normal tokens.** -/
theorem Token.normalTokens_of_read {text : Text} {ts : List Token} (h : read text = .ok ts) :
    NormalTokens ts := by
  intro parts hparts
  have hjoined := (Scanner.orderly_start.scan text).joinedWord_of_finish h hparts
  exact ⟨hjoined, fun c hc ↦ CommandIn.not_mem ⟨ts, parts, h, hparts, hc⟩⟩

end LineShell
