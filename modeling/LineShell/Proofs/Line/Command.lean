import LineShell.Proofs.Line.Canonical
import LineShell.Line.Token

/-!
# Commands in back-quotes

What stands between two back-quotes of a call is kept as text, and the scanner ends it at the next
back-quote, whatever other quotes are open in it. So a command in back-quotes never holds a
back-quote itself, and a text without a back-quote has no commands. Together: commands do not nest
more than one deep. What the scanner keeps of a call are characters of it (`Token.mem_of_read`).

The first half needs that the buffer is empty when a command begins. Inside a word the scanner
empties it there; between words it is empty because every word was ended (`Scanner.Sound.gap`).
-/

namespace LineShell

/-- The characters of a part. -/
def Part.text : Part → Text
  | literal t => t
  | command c => c

namespace Scanner

/-- The scanner is inside back-quotes. -/
def Mode.IsCommand : Mode → Prop
  | back => True
  | doubleBack => True
  | _ => False

/-- A command that the scanner has read. -/
def HasCommand (s : Scanner) (c : Text) : Prop :=
  .command c ∈ s.parts ∨ ∃ parts, .word parts ∈ s.tokens ∧ .command c ∈ parts

variable {s : Scanner} {c : Text} {ch : Char}

@[simp]
theorem endLiteral_buffer (s : Scanner) : s.endLiteral.buffer = [] := by
  unfold endLiteral
  split <;> simp [*]

@[simp]
theorem endWord_buffer (s : Scanner) : s.endWord.buffer = [] := endLiteral_buffer s

@[simp]
theorem push_buffer (s : Scanner) (ch : Char) : (s.push ch).buffer = ch :: s.buffer := rfl

@[simp]
theorem mark_buffer (s : Scanner) (m : Marker) : (s.mark m).buffer = s.buffer := rfl

@[simp]
theorem inMode_buffer (s : Scanner) (mode : Mode) : (s.inMode mode).buffer = s.buffer := rfl

theorem command_mem_endLiteral : .command c ∈ s.endLiteral.parts ↔ .command c ∈ s.parts := by
  unfold endLiteral
  split <;> simp

@[simp]
theorem endLiteral_tokens (s : Scanner) : s.endLiteral.tokens = s.tokens := by
  unfold endLiteral
  split <;> rfl

@[simp]
theorem hasCommand_inMode {mode : Mode} : (s.inMode mode).HasCommand c ↔ s.HasCommand c := Iff.rfl

@[simp]
theorem hasCommand_push : (s.push ch).HasCommand c ↔ s.HasCommand c := Iff.rfl

@[simp]
theorem hasCommand_mark {m : Marker} : (s.mark m).HasCommand c ↔ s.HasCommand c := by
  simp [HasCommand, mark]

@[simp]
theorem hasCommand_endLiteral : s.endLiteral.HasCommand c ↔ s.HasCommand c := by
  rw [HasCommand, HasCommand, command_mem_endLiteral, endLiteral_tokens]

/-- Ending a word moves its commands to the tokens. -/
@[simp]
theorem hasCommand_endWord : s.endWord.HasCommand c ↔ s.HasCommand c := by
  rw [← hasCommand_endLiteral (s := s)]
  by_cases h : s.endLiteral.parts = [] <;> simp [HasCommand, endWord, h]

@[simp]
theorem hasCommand_endCommand :
    s.endCommand.HasCommand c ↔ c = s.buffer.reverse ∨ s.HasCommand c := by
  simp [HasCommand, endCommand, or_assoc]

/-- **One character adds at most the command that it closes.** -/
theorem hasCommand_of_step (h : (s.step ch).HasCommand c) :
    s.HasCommand c ∨ (s.mode.IsCommand ∧ c = s.buffer.reverse) := by
  cases hmode : s.mode <;> simp only [step, hmode] at h <;>
    grind [Mode.IsCommand, hasCommand_inMode, hasCommand_push, hasCommand_mark,
      hasCommand_endLiteral, hasCommand_endWord, hasCommand_endCommand]

/-- A character that the scanner has kept, in its buffer or in a part. -/
def HasChar (s : Scanner) (d : Char) : Prop :=
  d ∈ s.buffer ∨ (∃ part ∈ s.parts, d ∈ part.text) ∨
    ∃ parts, .word parts ∈ s.tokens ∧ ∃ part ∈ parts, d ∈ part.text

variable {d : Char}

@[simp]
theorem hasChar_inMode {mode : Mode} : (s.inMode mode).HasChar d ↔ s.HasChar d := Iff.rfl

@[simp]
theorem hasChar_push : (s.push ch).HasChar d ↔ d = ch ∨ s.HasChar d := by
  simp [HasChar, push, or_assoc]

@[simp]
theorem hasChar_mark {m : Marker} : (s.mark m).HasChar d ↔ s.HasChar d := by simp [HasChar, mark]

@[simp]
theorem hasChar_endLiteral : s.endLiteral.HasChar d ↔ s.HasChar d := by
  by_cases h : s.buffer = [] <;> simp [HasChar, endLiteral, h, Part.text, or_assoc]

@[simp]
theorem hasChar_endCommand : s.endCommand.HasChar d ↔ s.HasChar d := by
  simp [HasChar, endCommand, Part.text, or_assoc]

/-- Ending a word moves its characters to the tokens. -/
@[simp]
theorem hasChar_endWord : s.endWord.HasChar d ↔ s.HasChar d := by
  rw [← hasChar_endLiteral (s := s)]
  by_cases h : s.endLiteral.parts = [] <;> simp [HasChar, endWord, h, Part.text]

/-- The scanner keeps the character that it reads, at most. -/
theorem hasChar_of_step (h : (s.step ch).HasChar d) : d = ch ∨ s.HasChar d := by
  cases hmode : s.mode <;> simp only [step, hmode] at h <;>
    grind [hasChar_inMode, hasChar_push, hasChar_mark, hasChar_endLiteral, hasChar_endWord,
      hasChar_endCommand]

theorem hasChar_of_scan {t : Text} (h : (s.scan t).HasChar d) : s.HasChar d ∨ d ∈ t := by
  induction t generalizing s with
  | nil => exact Or.inl h
  | cons ch t ih =>
    rcases ih h with hstep | htext
    · rcases hasChar_of_step hstep with rfl | hold
      · exact Or.inr List.mem_cons_self
      · exact Or.inl hold
    · exact Or.inr (List.mem_cons_of_mem _ htext)

/-- Only a back-quote leads into a command. -/
theorem isCommand_of_step (hch : ch ≠ '`') (h : (s.step ch).mode.IsCommand) :
    s.mode.IsCommand := by
  cases hmode : s.mode <;> simp only [step, hmode] at h <;> grind [Mode.IsCommand, inMode_mode,
    push_mode, mark_mode]

/-- What holds of the scanner at every place of a text. -/
structure Sound (s : Scanner) : Prop where
  /-- Between words nothing is left in the buffer. -/
  gap : s.mode = .gap → s.buffer = []
  /-- The command being read holds no back-quote. -/
  buffer : s.mode.IsCommand → '`' ∉ s.buffer
  /-- The commands that were read hold none. -/
  command : ∀ c, s.HasCommand c → '`' ∉ c

theorem sound_start : Sound start where
  gap _ := rfl
  buffer h := h.elim
  command c h := by simp [HasCommand, start] at h

/-- Between words nothing is in the buffer, also after one more character. -/
theorem buffer_step_of_gap (h : s.Sound) (hgap : (s.step ch).mode = .gap) :
    (s.step ch).buffer = [] := by
  have hbuffer := h.gap
  cases hmode : s.mode <;> simp only [step, hmode] at hgap ⊢ <;>
    grind [inMode_mode, push_mode, mark_mode, inMode_buffer, mark_buffer, endWord_buffer]

/-- A command takes in no back-quote, and begins with an empty buffer. -/
theorem not_mem_buffer_step (h : s.Sound) (hcommand : (s.step ch).mode.IsCommand) :
    '`' ∉ (s.step ch).buffer := by
  -- From a gap into a command: the buffer is empty. Inside one: a back-quote would have ended it.
  have hgap := h.gap
  have hbuffer := h.buffer
  cases hmode : s.mode <;> simp only [step, hmode] at hcommand ⊢ <;>
    grind [Mode.IsCommand, inMode_mode, push_mode, mark_mode, inMode_buffer, push_buffer,
      endLiteral_buffer]

theorem Sound.step (h : s.Sound) (ch : Char) : (s.step ch).Sound where
  gap := buffer_step_of_gap h
  buffer := not_mem_buffer_step h
  command c hc := by
    rcases hasCommand_of_step hc with hold | ⟨hmode, rfl⟩
    · exact h.command c hold
    · rw [List.mem_reverse]
      exact h.buffer hmode

theorem Sound.scan (h : s.Sound) (t : Text) : (s.scan t).Sound := by
  induction t generalizing s with
  | nil => exact h
  | cons ch t ih => exact ih (h.step ch)

/-- Without a back-quote the scanner reads no command. -/
theorem hasCommand_of_scan {t : Text} (hmode : ¬ s.mode.IsCommand) (ht : '`' ∉ t)
    (h : (s.scan t).HasCommand c) : s.HasCommand c := by
  induction t generalizing s with
  | nil => exact h
  | cons ch t ih =>
    obtain ⟨hch, ht⟩ := not_or.1 fun other ↦ ht (List.mem_cons.2 other)
    have hstep := ih (fun hcommand ↦ hmode (isCommand_of_step (Ne.symm hch) hcommand)) ht h
    exact (hasCommand_of_step hstep).resolve_right fun other ↦ hmode other.1

/-- The finished tokens are those that the scanner has read, the last word ended. -/
theorem tokens_eq_of_finish {ts : List Token} (h : s.finish = .ok ts) :
    ts = s.tokens.reverse ∨ ts = s.endWord.tokens.reverse := by
  cases hmode : s.mode <;> simp only [finish, hmode] at h
  case gap => exact Or.inl (Except.ok.inj h).symm
  case word => exact Or.inr (Except.ok.inj h).symm
  all_goals cases h

/-- The words of the finished tokens are those that the scanner has read. -/
theorem hasCommand_of_finish {ts : List Token} {parts : List Part} (h : s.finish = .ok ts)
    (hparts : .word parts ∈ ts) (hc : .command c ∈ parts) : s.HasCommand c := by
  rcases tokens_eq_of_finish h with rfl | rfl
  · exact Or.inr ⟨parts, List.mem_reverse.1 hparts, hc⟩
  · exact hasCommand_endWord.1 (Or.inr ⟨parts, List.mem_reverse.1 hparts, hc⟩)

end Scanner

/-- **The words of a call are made of its characters.** -/
theorem Token.mem_of_read {text : Text} {ts : List Token} {parts : List Part} {part : Part}
    (h : Token.read text = .ok ts) (hparts : .word parts ∈ ts) (hpart : part ∈ parts) {d : Char}
    (hd : d ∈ part.text) : d ∈ text := by
  have hchar : (Scanner.start.scan text).HasChar d := by
    rcases Scanner.tokens_eq_of_finish h with rfl | rfl
    · exact Or.inr (Or.inr ⟨parts, List.mem_reverse.1 hparts, part, hpart, hd⟩)
    · exact Scanner.hasChar_endWord.1
        (Or.inr (Or.inr ⟨parts, List.mem_reverse.1 hparts, part, hpart, hd⟩))
  refine (Scanner.hasChar_of_scan hchar).resolve_left ?_
  simp [Scanner.HasChar, Scanner.start]

/-- The command stands in back-quotes in the text of a call. -/
def CommandIn (c text : Text) : Prop :=
  ∃ ts parts, Token.read text = .ok ts ∧ .word parts ∈ ts ∧ .command c ∈ parts

/-- The command stands in back-quotes in a call of the line. -/
def CommandOf (c line : Text) : Prop :=
  ∃ t, Tree.parse line = .ok t ∧ ∃ text ∈ t.calls, CommandIn c text

variable {c text line : Text}

/-- **A command holds no back-quote.** -/
theorem CommandIn.not_mem (h : CommandIn c text) : '`' ∉ c := by
  obtain ⟨ts, parts, hread, hparts, hc⟩ := h
  exact (Scanner.sound_start.scan text).command c (Scanner.hasCommand_of_finish hread hparts hc)

/-- **A text with a command holds a back-quote.** -/
theorem CommandIn.mem (h : CommandIn c text) : '`' ∈ text := by
  obtain ⟨ts, parts, hread, hparts, hc⟩ := h
  by_contra hmem
  have hstart := Scanner.hasCommand_of_scan id hmem (Scanner.hasCommand_of_finish hread hparts hc)
  simp [Scanner.HasCommand, Scanner.start] at hstart

/-- A command is made of the characters of the call. -/
theorem CommandIn.mem_of_mem (h : CommandIn c text) {ch : Char} (hch : ch ∈ c) : ch ∈ text := by
  obtain ⟨ts, parts, hread, hparts, hc⟩ := h
  exact Token.mem_of_read hread hparts hc hch

/-- The calls of a tree are made of the characters of the line. -/
theorem Tree.mem_render_of_mem_calls {t : Tree} (htext : text ∈ t.calls) {ch : Char}
    (hch : ch ∈ text) : ch ∈ t.render := by
  induction t with
  | call text' =>
    rw [calls, List.mem_singleton] at htext
    exact htext ▸ hch
  | pipe left right ihl ihr | seq left right ihl ihr =>
    rw [render, List.mem_append, List.mem_cons]
    exact (List.mem_append.1 htext).imp ihl fun h ↦ Or.inr (ihr h)

theorem CommandOf.not_mem (h : CommandOf c line) : '`' ∉ c := by
  obtain ⟨t, -, text, -, hc⟩ := h
  exact hc.not_mem

/-- A line with a command holds a back-quote; so a command has no commands. -/
theorem CommandOf.mem (h : CommandOf c line) : '`' ∈ line := by
  obtain ⟨t, hline, text, htext, hc⟩ := h
  rw [← (Tree.parse_eq_ok_iff_render.1 hline).2]
  exact Tree.mem_render_of_mem_calls htext hc.mem

/-- A command is made of the characters of the line. -/
theorem CommandOf.mem_of_mem (h : CommandOf c line) {ch : Char} (hch : ch ∈ c) : ch ∈ line := by
  obtain ⟨t, hline, text, htext, hc⟩ := h
  rw [← (Tree.parse_eq_ok_iff_render.1 hline).2]
  exact Tree.mem_render_of_mem_calls htext (hc.mem_of_mem hch)

end LineShell
