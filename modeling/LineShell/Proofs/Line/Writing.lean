import LineShell.Proofs.Line.Division
import LineShell.Proofs.Line.Normal

/-!
# Writing tokens

Tokens are written so that they can be read again: a marker as it is, a command between back-quotes,
literal text in single quotes, and a space between two tokens. A single quote itself is written
inside double quotes. On normal tokens reading and writing are inverse (`Token.read_render`), and
what is written is one call also for the line (`Token.parse_render`): quotes hide every separator.
So the normal tokens are exactly what texts are read as, and words of any characters can be passed
to a call (`Token.read_render_inverse`).

The scanner is followed over what is written part by part. Inside a word that is
`Scanner.scan_writeParts`; the first part of a word begins with a quoting mark, and there it makes
no difference whether the word has begun (`Scanner.step_gap_of_mark`).
-/

namespace LineShell

/-! ### Writing -/

/-- A run of characters in single quotes; an empty run is not written. -/
def quoteRun (run : Text) : Text := if run = [] then [] else '\'' :: run ++ ['\'']

/-- A single quote in double quotes. -/
def quotedQuote : Text := ['"', '\'', '"']

/-- Literal text: the runs between its single quotes in single quotes, and each of its single
quotes in double ones. The empty text is a pair of quotes. -/
def writeLiteral (t : Text) : Text :=
  if t = [] then ['\'', '\''] else Text.join quotedQuote ((Text.pieces '\'' t).map quoteRun)

/-- A part as it is written. -/
def Part.write : Part → Text
  | literal t => writeLiteral t
  | command c => '`' :: c ++ ['`']

/-- A token as it is written. -/
def Token.write : Token → Text
  | word parts => parts.flatMap Part.write
  | marker m => [m.char]

/-- The text of a call with these tokens. -/
def Token.render (ts : List Token) : Text := Text.join [' '] (ts.map Token.write)

/-! ### What is written is scanned -/

/-- A mark that opens a quoted region. -/
def IsMark (c : Char) : Prop := c = '\'' ∨ c = '"' ∨ c = '`'

namespace Scanner

variable {s : Scanner} {c : Char} {t : Text}

theorem scan_append (s : Scanner) (t u : Text) : s.scan (t ++ u) = (s.scan t).scan u :=
  List.foldl_append

theorem scan_cons (s : Scanner) (c : Char) (t : Text) : s.scan (c :: t) = (s.step c).scan t := rfl

/-- Characters that a mode only takes in are taken in. -/
theorem scan_of_push (h : ∀ s' : Scanner, s'.mode = s.mode → ∀ c ∈ t, s'.step c = s'.push c) :
    s.scan t = { s with buffer := t.reverse ++ s.buffer } := by
  induction t generalizing s with
  | nil => rfl
  | cons c t ih =>
    have hc : s.step c = s.push c := h s rfl c List.mem_cons_self
    have ht := ih (s := s.push c) fun s' hs' d hd ↦ h s' hs' d (List.mem_cons_of_mem _ hd)
    rw [scan_cons, hc, ht]
    simp [push]

/-- Between single quotes everything but a single quote is taken in. -/
theorem scan_single {run : Text} (hmode : s.mode = .word) (hrun : '\'' ∉ run) :
    s.scan ('\'' :: run ++ ['\'']) = { s with buffer := run.reverse ++ s.buffer } := by
  have hopen : s.step '\'' = s.inMode .single := by simp [step, hmode, isBlankChar]
  have hscan := scan_of_push (s := s.inMode .single) (t := run) fun s' hs' c hc ↦ by
    have hne : c ≠ '\'' := fun heq ↦ hrun (heq ▸ hc)
    simp [step, hs', hne]
  rw [List.cons_append, scan_cons, hopen, scan_append, hscan, scan_cons]
  simp [step, scan, inMode, hmode]

/-- A command ends the literal part in front of it. -/
theorem scan_command {command : Text} (hmode : s.mode = .word) (hcommand : '`' ∉ command) :
    s.scan ('`' :: command ++ ['`']) =
      { s with buffer := [], parts := .command command :: s.endLiteral.parts } := by
  have hopen : s.step '`' = s.endLiteral.inMode .back := by simp [step, hmode, isBlankChar]
  have hscan := scan_of_push (s := s.endLiteral.inMode .back) (t := command) fun s' hs' c hc ↦ by
    have hne : c ≠ '`' := fun heq ↦ hcommand (heq ▸ hc)
    simp [step, hs', hne]
  rw [List.cons_append, scan_cons, hopen, scan_append, hscan, scan_cons]
  simp [step, scan, inMode, endCommand, hmode]

theorem scan_quoteRun {run : Text} (hmode : s.mode = .word) (hrun : '\'' ∉ run) :
    s.scan (quoteRun run) = { s with buffer := run.reverse ++ s.buffer } := by
  unfold quoteRun
  split
  · next hnil => simp [hnil, scan]
  · exact scan_single hmode hrun

theorem scan_quotedQuote (hmode : s.mode = .word) :
    s.scan quotedQuote = { s with buffer := '\'' :: s.buffer } := by
  simp [quotedQuote, scan, step, inMode, push, hmode, isBlankChar]

/-- Runs between single quotes are taken in with the quotes. -/
theorem scan_join_quoteRun {runs : List Text} (hmode : s.mode = .word)
    (hruns : ∀ run ∈ runs, '\'' ∉ run) :
    s.scan (Text.join quotedQuote (runs.map quoteRun)) =
      { s with buffer := (Text.join ['\''] runs).reverse ++ s.buffer } := by
  induction runs generalizing s with
  | nil => rfl
  | cons run rest ih =>
    have hrun : '\'' ∉ run := hruns run List.mem_cons_self
    by_cases hrest : rest = []
    · subst hrest
      exact scan_quoteRun hmode hrun
    · have hquote := scan_quotedQuote (s := { s with buffer := run.reverse ++ s.buffer }) hmode
      have hlater := ih (s := { s with buffer := '\'' :: (run.reverse ++ s.buffer) }) hmode
        fun run' hrun' ↦ hruns run' (List.mem_cons_of_mem _ hrun')
      rw [List.map_cons, Text.join_cons_of_ne_nil _ _ (by simpa using hrest), scan_append,
        scan_append, scan_quoteRun hmode hrun, hquote, hlater, Text.join_cons_of_ne_nil _ _ hrest]
      simp

/-- **Literal text is taken in as it is.** -/
theorem scan_writeLiteral (hmode : s.mode = .word) (t : Text) :
    s.scan (writeLiteral t) = { s with buffer := t.reverse ++ s.buffer } := by
  unfold writeLiteral
  split
  · next hnil =>
    subst hnil
    exact scan_single hmode List.not_mem_nil
  · rw [scan_join_quoteRun hmode fun run hrun ↦ Text.not_mem_of_mem_pieces hrun, Text.join_pieces]

theorem endLiteral_of_buffer_eq_nil (h : s.buffer = []) : s.endLiteral = s := if_pos h

/-- **The parts of a word are read one after the other.** In front of a literal part the buffer is
empty: the part before it is a command. -/
theorem scan_writeParts {parts : List Part} (hchain : parts.IsChain Part.Apart)
    (hliteral : .literal [] ∉ parts) (hcommand : ∀ c, .command c ∈ parts → '`' ∉ c)
    (hmode : s.mode = .word)
    (hbuffer : s.buffer = [] ∨ ∀ p ∈ parts.head?, ¬ p.IsLiteral) :
    (s.scan (parts.flatMap Part.write)).mode = .word ∧
    (s.scan (parts.flatMap Part.write)).tokens = s.tokens ∧
    (s.scan (parts.flatMap Part.write)).endLiteral.parts =
      parts.reverse ++ s.endLiteral.parts := by
  induction parts generalizing s with
  | nil => exact ⟨hmode, rfl, rfl⟩
  | cons part rest ih =>
    obtain ⟨hhead, hrest⟩ := List.isChain_cons.1 hchain
    obtain ⟨hpart, hliterals⟩ := List.mem_cons.not.1 hliteral |> not_or.1
    have hcommands : ∀ c, .command c ∈ rest → '`' ∉ c :=
      fun c hc ↦ hcommand c (List.mem_cons_of_mem _ hc)
    rw [List.flatMap_cons, scan_append]
    cases part with
    | literal t =>
      have hempty : s.buffer = [] := hbuffer.resolve_right fun h ↦ h _ rfl trivial
      have hnext : ∀ p ∈ rest.head?, ¬ p.IsLiteral := fun p hp hlit ↦ hhead p hp ⟨trivial, hlit⟩
      have ht : t ≠ [] := fun hnil ↦ hpart (hnil ▸ rfl)
      rw [Part.write, scan_writeLiteral hmode t]
      obtain ⟨hmode', htokens, hparts⟩ :=
        ih (s := { s with buffer := t.reverse ++ s.buffer }) hrest hliterals hcommands hmode
          (Or.inr hnext)
      refine ⟨hmode', htokens, hparts.trans ?_⟩
      simp [endLiteral, hempty, ht]
    | command c =>
      rw [Part.write, scan_command hmode (hcommand c List.mem_cons_self)]
      obtain ⟨hmode', htokens, hparts⟩ :=
        ih (s := { s with buffer := [], parts := .command c :: s.endLiteral.parts }) hrest
          hliterals hcommands hmode (Or.inl rfl)
      refine ⟨hmode', htokens, hparts.trans ?_⟩
      rw [endLiteral_of_buffer_eq_nil rfl]
      simp

/-! ### Words and tokens -/

/-- The scanner between words, behind these tokens. -/
def between (tokens : List Token) : Scanner := ⟨.gap, [], [], tokens⟩

/-- In front of a quoting mark a word may as well have begun. -/
theorem step_gap_of_mark (tokens : List Token) (hc : IsMark c) :
    (between tokens).step c = ((between tokens).inMode .word).step c := by
  rcases hc with rfl | rfl | rfl <;> simp [between, step, inMode, endLiteral, isBlankChar]

end Scanner

theorem exists_cons_writeLiteral (t : Text) :
    ∃ c rest, writeLiteral t = c :: rest ∧ IsMark c := by
  cases t with
  | nil => exact ⟨'\'', ['\''], rfl, Or.inl rfl⟩
  | cons c t =>
    obtain ⟨piece, more, h⟩ := List.exists_cons_of_ne_nil (Text.pieces_ne_nil '\'' t)
    rw [writeLiteral, if_neg (List.cons_ne_nil c t), Text.pieces, h]
    -- The text begins with a single quote, or with a run of other characters.
    by_cases hc : c = '\''
    · rw [if_pos hc]
      exact ⟨'"', _, rfl, Or.inr (Or.inl rfl)⟩
    · rw [if_neg hc]
      cases more <;> exact ⟨'\'', _, rfl, Or.inl rfl⟩

/-- A part begins with a quoting mark. -/
theorem Part.exists_cons_write (p : Part) : ∃ c rest, p.write = c :: rest ∧ IsMark c := by
  cases p with
  | literal t => exact exists_cons_writeLiteral t
  | command c => exact ⟨'`', c ++ ['`'], rfl, Or.inr (Or.inr rfl)⟩

namespace Scanner

variable {s : Scanner}

theorem endWord_tokens {parts : List Part} (hne : parts ≠ [])
    (h : s.endLiteral.parts = parts.reverse) : s.endWord.tokens = .word parts :: s.tokens := by
  simp [endWord, h, hne]

/-- A normal word is read, and the scanner is still in it. -/
theorem scan_write_word {parts : List Part} (h : NormalWord parts) (tokens : List Token) :
    ((between tokens).scan (Token.word parts).write).mode = .word ∧
    ((between tokens).scan (Token.word parts).write).endWord.tokens = .word parts :: tokens := by
  obtain ⟨p, ps, rfl⟩ := List.exists_cons_of_ne_nil h.ne_nil
  obtain ⟨c, rest, hwrite, hc⟩ := p.exists_cons_write
  have hbegun : (between tokens).scan (Token.word (p :: ps)).write =
      ((between tokens).inMode .word).scan (Token.word (p :: ps)).write := by
    rw [Token.write, List.flatMap_cons, hwrite, List.cons_append, scan_cons, scan_cons,
      step_gap_of_mark tokens hc]
  rw [hbegun]
  by_cases hempty : .literal [] ∈ p :: ps
  · rw [h.sole hempty]
    simp [Token.write, Part.write, writeLiteral, scan, between, step, inMode, isBlankChar, endWord,
      endLiteral]
  · obtain ⟨hmode, htokens, hparts⟩ := scan_writeParts (s := (between tokens).inMode .word)
      h.isChain hempty h.command rfl (Or.inl rfl)
    have hnew : ((between tokens).inMode .word).endLiteral.parts = [] := rfl
    rw [hnew, List.append_nil] at hparts
    refine ⟨hmode, (endWord_tokens (List.cons_ne_nil p ps) hparts).trans ?_⟩
    rw [htokens]
    rfl

/-- At the end of what is written for a token, that token has been read. -/
theorem finish_write {token : Token} (h : NormalTokens [token]) (tokens : List Token) :
    ((between tokens).scan token.write).finish = .ok (token :: tokens).reverse := by
  cases token with
  | word parts =>
    obtain ⟨hmode, htokens⟩ := scan_write_word (h parts (List.mem_singleton.2 rfl)) tokens
    rw [finish, hmode]
    exact congrArg (fun ts ↦ Except.ok ts.reverse) htokens
  | marker m => cases m <;> rfl

/-- A space ends a word. -/
theorem step_space (hmode : s.mode = .word) : s.step ' ' = between s.endWord.tokens := by
  have hend : s.step ' ' = s.endWord.inMode .gap := by simp [step, hmode, isBlankChar]
  have hbuffer : s.endWord.buffer = [] := endWord_buffer s
  rw [hend, between, ← hbuffer]
  rfl

/-- A space behind a token leads between words. -/
theorem scan_write_space {token : Token} (h : NormalTokens [token]) (tokens : List Token) :
    ((between tokens).scan token.write).step ' ' = between (token :: tokens) := by
  cases token with
  | word parts =>
    obtain ⟨hmode, htokens⟩ := scan_write_word (h parts (List.mem_singleton.2 rfl)) tokens
    rw [step_space hmode, htokens]
  | marker m => cases m <;> rfl

end Scanner

variable {ts : List Token} {token : Token}

theorem NormalTokens.of_cons (h : NormalTokens (token :: ts)) :
    NormalTokens [token] ∧ NormalTokens ts :=
  ⟨fun parts hparts ↦ h parts (List.mem_singleton.1 hparts ▸ List.mem_cons_self),
    fun parts hparts ↦ h parts (List.mem_cons_of_mem _ hparts)⟩

namespace Token

open Scanner

theorem finish_scan_render (h : NormalTokens ts) (tokens : List Token) :
    ((between tokens).scan (render ts)).finish = .ok (tokens.reverse ++ ts) := by
  induction ts generalizing tokens with
  | nil => simp [render, Text.join, scan, between, finish]
  | cons token rest ih =>
    obtain ⟨htoken, hrest⟩ := h.of_cons
    by_cases hnil : rest = []
    · subst hnil
      exact (finish_write htoken tokens).trans (by simp)
    · rw [render, List.map_cons, Text.join_cons_of_ne_nil _ _ (by simpa using hnil), scan_append,
        scan_append]
      show ((((between tokens).scan token.write).step ' ').scan (render rest)).finish = _
      rw [scan_write_space htoken, ih hrest]
      simp

/-- **Normal tokens are read as they were written.** -/
theorem read_render (h : NormalTokens ts) : read (render ts) = .ok ts :=
  finish_scan_render h []

end Token

/-! ### What is written is one call -/

/-- The text is balanced and has no bare `c`. -/
def Hides (c : Char) (t : Text) : Prop := Balanced t ∧ ¬ Bare c t

section Hides

variable {c d mark : Char} {q : Quoting} {t u : Text}

theorem hides_nil : Hides c [] := ⟨rfl, not_bareFrom_nil⟩

theorem hides_singleton (hd : IsSeparator d) (hne : d ≠ c) : Hides c [d] := by
  refine ⟨hd, ?_⟩
  rw [hd.bare_cons]
  exact fun h ↦ h.elim hne not_bareFrom_nil

theorem Hides.append (ht : Hides c t) (hu : Hides c u) : Hides c (t ++ u) := by
  refine ⟨ht.1.append_iff.2 hu.1, ?_⟩
  rw [ht.1.bare_append]
  exact fun h ↦ h.elim ht.2 hu.2

theorem Hides.join {texts : List Text} (ht : Hides c t) (h : ∀ u ∈ texts, Hides c u) :
    Hides c (Text.join t texts) := by
  induction texts with
  | nil => exact hides_nil
  | cons u rest ih =>
    have hu := h u List.mem_cons_self
    by_cases hrest : rest = []
    · subst hrest
      exact hu
    · rw [Text.join_cons_of_ne_nil _ _ hrest]
      exact (hu.append ht).append (ih fun v hv ↦ h v (List.mem_cons_of_mem _ hv))

theorem hides_flatMap {parts : List Part} (h : ∀ p ∈ parts, Hides c p.write) :
    Hides c (parts.flatMap Part.write) := by
  induction parts with
  | nil => exact hides_nil
  | cons p rest ih =>
    exact (h p List.mem_cons_self).append (ih fun p' hp' ↦ h p' (List.mem_cons_of_mem _ hp'))

/-- A region that only its mark closes hides everything up to the mark. -/
theorem after_and_not_bareFrom (hq : q ≠ .plain)
    (hstep : ∀ d, q.step d = if d = mark then .plain else q) (ht : mark ∉ t) :
    q.after (t ++ [mark]) = .plain ∧ ¬ BareFrom q c (t ++ [mark]) := by
  induction t with
  | nil =>
    refine ⟨(hstep mark).trans (if_pos rfl), ?_⟩
    rw [List.nil_append, bareFrom_cons]
    exact fun h ↦ h.elim (fun h ↦ hq h.1) not_bareFrom_nil
  | cons d t ih =>
    obtain ⟨hd, ht⟩ := not_or.1 fun other ↦ ht (List.mem_cons.2 other)
    have hstay : q.step d = q := (hstep d).trans (if_neg (Ne.symm hd))
    rw [List.cons_append, Quoting.after_cons, bareFrom_cons, hstay]
    exact ⟨(ih ht).1, fun h ↦ h.elim (fun h ↦ hq h.1) (ih ht).2⟩

/-- A quoted text hides everything but its marks. -/
theorem hides_enclosed (hopen : Quoting.plain.step mark = q) (hq : q ≠ .plain)
    (hstep : ∀ d, q.step d = if d = mark then .plain else q) (ht : mark ∉ t) (hc : c ≠ mark) :
    Hides c (mark :: t ++ [mark]) := by
  obtain ⟨hafter, hbare⟩ := after_and_not_bareFrom (c := c) hq hstep ht
  rw [Hides, List.cons_append, Balanced, Quoting.after_cons, Bare, bareFrom_cons, hopen]
  exact ⟨hafter, fun h ↦ h.elim (fun h ↦ hc h.2.symm) hbare⟩

variable (hc : IsSeparator c)

include hc

/-- A separator opens no quoted region. -/
theorem IsSeparator.ne_of_isMark (hmark : IsMark mark) : c ≠ mark := by
  rintro rfl
  rcases hmark with rfl | rfl | rfl <;> cases hc

theorem hides_single (ht : '\'' ∉ t) : Hides c ('\'' :: t ++ ['\'']) :=
  hides_enclosed rfl (by decide) (fun _ ↦ rfl) ht (hc.ne_of_isMark (Or.inl rfl))

theorem hides_quoteRun (ht : '\'' ∉ t) : Hides c (quoteRun t) := by
  unfold quoteRun
  split
  · exact hides_nil
  · exact hides_single hc ht

theorem hides_quotedQuote : Hides c quotedQuote := by
  have hdouble : c ≠ '"' := hc.ne_of_isMark (Or.inr (Or.inl rfl))
  refine ⟨rfl, ?_⟩
  simp [quotedQuote, Bare, bareFrom_cons, Quoting.step, hdouble.symm]

/-- A part that is written hides every separator. -/
theorem Part.hides_write {p : Part} (hcommand : ∀ c, p = .command c → '`' ∉ c) :
    Hides c p.write := by
  cases p with
  | literal t =>
    rw [Part.write, writeLiteral]
    split
    · exact hides_single hc List.not_mem_nil
    · refine (hides_quotedQuote hc).join fun u hu ↦ ?_
      obtain ⟨run, hrun, rfl⟩ := List.mem_map.1 hu
      exact hides_quoteRun hc (Text.not_mem_of_mem_pieces hrun)
  | command t =>
    exact hides_enclosed rfl (by decide) (fun _ ↦ rfl) (hcommand t rfl)
      (hc.ne_of_isMark (Or.inr (Or.inr rfl)))

/-- Normal tokens that are written hide every separator but spaces and markers. -/
theorem Token.hides_render {ts : List Token} (h : NormalTokens ts) (hspace : ' ' ≠ c)
    (hmarker : ∀ m : Marker, m.char ≠ c) : Hides c (render ts) := by
  have hglue : Hides c [' '] := hides_singleton (show IsSeparator ' ' from rfl) hspace
  refine hglue.join fun u hu ↦ ?_
  obtain ⟨token, htoken, rfl⟩ := List.mem_map.1 hu
  cases token with
  | word parts =>
    refine hides_flatMap fun p hp ↦ Part.hides_write hc ?_
    rintro command rfl
    exact (h parts htoken).command command hp
  | marker m => exact hides_singleton (by cases m <;> rfl) (hmarker m)

end Hides

namespace Token

/-- **Normal tokens are one call of a line when they are written.** -/
theorem parse_render {ts : List Token} (h : NormalTokens ts) :
    Tree.parse (render ts) = .ok (.call (render ts)) := by
  obtain ⟨hbal, hsemi⟩ := hides_render isSeparator_semicolon h (by decide) (by rintro ⟨⟩ <;> decide)
  obtain ⟨-, hbar⟩ := hides_render isSeparator_bar h (by decide) (by rintro ⟨⟩ <;> decide)
  exact Tree.parse_eq_ok_iff_render.2 ⟨⟨hbal, hsemi, hbar⟩, rfl⟩

/-- Words of literal text are normal, whatever their characters. -/
theorem normalTokens_literal (words : List Text) :
    NormalTokens (words.map fun w ↦ .word [.literal w]) := by
  intro parts hparts
  obtain ⟨w, -, hw⟩ := List.mem_map.1 hparts
  obtain rfl := Token.word.inj hw
  refine ⟨⟨List.cons_ne_nil _ _, .singleton _, fun hmem ↦ ?_⟩, fun c hc ↦ ?_⟩
  · rw [List.mem_singleton.1 hmem]
  · cases List.mem_singleton.1 hc

/-- **The normal tokens are what texts are read as, and writing them is the inverse.** What is read
is normal; normal tokens are read back from what is written for them, which is a line of one call.
So words of any characters can be passed through both stages. -/
theorem read_render_inverse :
    (∀ text ts, read text = .ok ts → NormalTokens ts) ∧
    (∀ ts, NormalTokens ts →
      read (render ts) = .ok ts ∧ Tree.parse (render ts) = .ok (.call (render ts))) ∧
    (∀ ts, (∃ text, read text = .ok ts) ↔ NormalTokens ts) ∧
    ∀ words : List Text, ∃ line, Tree.parse line = .ok (.call line) ∧
      read line = .ok (words.map fun w ↦ .word [.literal w]) := by
  refine ⟨fun _ _ h ↦ normalTokens_of_read h, fun ts h ↦ ⟨read_render h, parse_render h⟩,
    fun ts ↦ ⟨fun ⟨_, h⟩ ↦ normalTokens_of_read h, fun h ↦ ⟨_, read_render h⟩⟩, fun words ↦ ?_⟩
  have h := normalTokens_literal words
  exact ⟨_, parse_render h, read_render h⟩

/-- Tokens with separators, markers and quotes of every kind, an empty word and a command between
literal parts. -/
theorem read_render_inverse_quoted :
    let ts : List Token :=
      [.word [.literal "it's; \"`|".toList, .command "cat '<\"".toList, .command [],
        .literal [' ', '\'']], .marker .input, .word [.literal []], .marker .output]
    let text := "'it'\"'\"'s; \"`|'`cat '<\"```' '\"'\" < '' >".toList
    render ts = text ∧ read text = .ok ts ∧ NormalTokens ts ∧
    Tree.parse text = .ok (.call text) := by
  intro ts text
  have htext : render ts = text := by decide
  have hread : read text = .ok ts := by decide
  have hnormal : NormalTokens ts := read_render_inverse.1 text ts hread
  obtain ⟨-, hparse⟩ := read_render_inverse.2.1 ts hnormal
  exact ⟨htext, hread, hnormal, htext ▸ hparse⟩

end Token

end LineShell
