import LineShell.Application.Slices
import LineShell.Proofs.Application.NamedFiles

/-!
# Reading substitutions

An expression is accepted exactly when it is written as a substitution is: `s`, the delimiter, the
pattern, the delimiter, the replacement, the delimiter, and `g` if every match is to be replaced
(`Substitution.write`). The delimiter is that of one writing only, since it stands behind the `s`,
and then the parts are told by the cut at the delimiter, as it is in none of them
(`Substitution.read?_eq_some_iff`).

The other way to read an expression takes a slice of its bytes. It always has one: the delimiter
ends where the next character begins (`Text.sliceFrom?_append`).
-/

namespace LineShell

/-! ### Slices -/

namespace Utf8

/-- The first byte of a character goes on with no other one. -/
theorem exists_encodeChar_eq_cons (c : Char) :
    ∃ b rest, encodeChar c = b :: rest ∧ isContinuation b = false := by
  have hlead : ∀ {k : Nat}, k < 256 → (k < 0x80 ∨ 0xC0 ≤ k) →
      isContinuation (UInt8.ofNat k) = false := by
    intro k hbyte hk
    rw [isContinuation, toNat_ofNat hbyte]
    grind
  have hvalid : c.toNat < 0x110000 := by
    have := c.valid
    grind [Char.toNat]
  -- One case for each number of bytes; the first of them is an ASCII byte or at least `0xC0`.
  unfold encodeChar encodeScalar
  split
  · exact ⟨_, _, rfl, hlead (by omega) (by omega)⟩
  split
  · exact ⟨_, _, rfl, hlead (by omega) (by omega)⟩
  split
  · exact ⟨_, _, rfl, hlead (by omega) (by omega)⟩
  · exact ⟨_, _, rfl, hlead (by omega) (by omega)⟩

/-- Two texts one after the other can be cut between them. -/
theorem isBoundary_append (front back : Text) :
    isBoundary (front ++ back).encode front.encode.length = true := by
  rw [isBoundary, Text.encode_append, List.getElem?_append_right (Nat.le_refl _), Nat.sub_self]
  cases back with
  | nil => simp [Text.encode]
  | cons c back =>
    obtain ⟨b, rest, hchar, hlead⟩ := exists_encodeChar_eq_cons c
    simp [Text.encode, hchar, hlead]

end Utf8

/-- Behind a text that was written begins the slice of the other one. -/
theorem Text.sliceFrom?_append (front back : Text) :
    (front ++ back).sliceFrom? front.encode.length = some back := by
  rw [sliceFrom?, if_pos (Utf8.isBoundary_append front back), encode_append, List.drop_left,
    Utf8.decode?_encode]

namespace Application.Substitution

open Usage (dashes)

variable {s s' : Substitution} {d d' : Char} {expression body : Text}

/-! ### Writing substitutions -/

/-- The flags of a substitution. -/
def flags (s : Substitution) : Text := if s.everywhere then ['g'] else []

/-- A substitution as it is written with a delimiter. -/
def write (d : Char) (s : Substitution) : Text :=
  's' :: d :: (s.pattern ++ d :: (s.replacement ++ d :: s.flags))

/-- The substitution can be written with the delimiter. -/
structure Allows (s : Substitution) (d : Char) : Prop where
  not_alphanumeric : isAlphanumericChar d = false
  not_blank : isBlankChar d = false
  ne_backslash : d ≠ '\\'
  pattern_ne_nil : s.pattern ≠ []
  not_mem_pattern : d ∉ s.pattern
  not_mem_replacement : d ∉ s.replacement

/-- An expression is a substitution as it is written with a delimiter. -/
def Written (s : Substitution) (d : Char) (expression : Text) : Prop :=
  s.Allows d ∧ expression = s.write d

theorem isDelimiter_iff : isDelimiter d = true ↔
    isAlphanumericChar d = false ∧ isBlankChar d = false ∧ d ≠ '\\' := by
  simp [isDelimiter, and_assoc]

theorem Allows.isDelimiter (h : s.Allows d) : isDelimiter d = true :=
  isDelimiter_iff.2 ⟨h.not_alphanumeric, h.not_blank, h.ne_backslash⟩

/-- The flag is a letter and so no delimiter. -/
theorem Allows.not_mem_flags (h : s.Allows d) : d ∉ s.flags := by
  intro hmem
  have hd : d = 'g' := by
    rw [flags] at hmem
    split at hmem
    · exact List.mem_singleton.1 hmem
    · cases hmem
  have hletter : isAlphanumericChar 'g' = true := by decide +kernel
  have hno : isAlphanumericChar 'g' = false := hd ▸ h.not_alphanumeric
  rw [hletter] at hno
  cases hno

/-- The cut at the delimiter finds the parts. -/
theorem Allows.pieces_eq (h : s.Allows d) :
    Text.pieces d (s.pattern ++ d :: (s.replacement ++ d :: s.flags)) =
      [s.pattern, s.replacement, s.flags] := by
  rw [Text.pieces_append_cons h.not_mem_pattern, Text.pieces_append_cons h.not_mem_replacement,
    Text.pieces_of_not_mem h.not_mem_flags]

/-- What is written is read back. -/
theorem read?_write (h : s.Allows d) : read? (s.write d) = some s := by
  have hpattern : s.pattern.isEmpty = false := List.isEmpty_eq_false_iff.2 h.pattern_ne_nil
  rw [write, read?, h.isDelimiter]
  simp only [Bool.not_true, Bool.false_eq_true, if_false, h.pieces_eq, hpattern]
  obtain ⟨pattern, replacement, everywhere⟩ := s
  cases everywhere <;> rfl

/-- What the parts of a cut are the parts of is written with the delimiter. -/
theorem written_of_pieces {pattern replacement : Text} {everywhere : Bool}
    (hd : isDelimiter d = true) (hpattern : pattern.isEmpty = false)
    (hpieces : Text.pieces d body =
      [pattern, replacement, flags ⟨pattern, replacement, everywhere⟩]) :
    Written ⟨pattern, replacement, everywhere⟩ d ('s' :: d :: body) := by
  obtain ⟨hletter, hblank, hbackslash⟩ := isDelimiter_iff.1 hd
  have hpart : ∀ {part : Text}, part ∈ Text.pieces d body → d ∉ part := Text.not_mem_of_mem_pieces
  refine ⟨⟨hletter, hblank, hbackslash, List.isEmpty_eq_false_iff.1 hpattern, ?_, ?_⟩, ?_⟩
  · exact hpart (hpieces ▸ List.mem_cons_self)
  · exact hpart (hpieces ▸ List.mem_cons_of_mem _ List.mem_cons_self)
  · have hbody := Text.join_pieces d body
    rw [hpieces] at hbody
    rw [← hbody]
    simp [Text.join, write]

/-- What is read was written with some delimiter. -/
theorem exists_of_read? (h : read? expression = some s) : ∃ d, s.Written d expression := by
  -- Down the tests of the reader; each of the two forms of the flags is one way to be accepted.
  unfold read? at h
  split at h
  · next d body =>
    split at h
    · cases h
    next hd =>
    split at h
    · next pattern replacement flags hpieces =>
      split at h
      · cases h
      next hpattern =>
      have hd : isDelimiter d = true := by simpa using hd
      have hpattern : pattern.isEmpty = false := by simpa using hpattern
      split at h
      · next hflags =>
        obtain rfl := List.isEmpty_iff.1 hflags
        cases h
        exact ⟨d, written_of_pieces hd hpattern hpieces⟩
      · split at h
        · next hflags =>
          subst hflags
          cases h
          exact ⟨d, written_of_pieces hd hpattern hpieces⟩
        · cases h
    · cases h
  · cases h

/-- **An expression is read as a substitution exactly when it is its writing with a delimiter.** -/
theorem read?_eq_some_iff : read? expression = some s ↔ ∃ d, s.Written d expression := by
  refine ⟨exists_of_read?, ?_⟩
  rintro ⟨d, h, rfl⟩
  exact read?_write h

/-- An expression tells its delimiter and its substitution. -/
theorem Written.unique (h : s.Written d expression) (h' : s'.Written d' expression) :
    d = d' ∧ s = s' := by
  obtain ⟨hallows, rfl⟩ := h
  obtain ⟨hallows', heq⟩ := h'
  have hd : d = d' := (List.cons.inj (List.cons.inj heq).2).1
  exact ⟨hd, Option.some.inj (by rw [← read?_write hallows, ← read?_write hallows', heq])⟩

/-! ### Compiling -/

theorem compiled_eq_ok_iff {r : Regex.Matcher} : s.compiled = .ok (s', r) ↔
    s = s' ∧ Regex.Matcher.compile false s.pattern = .ok r := by
  rw [compiled]
  cases Regex.Matcher.compile false s.pattern <;> simp

theorem compiled_eq_error_iff {e : ShellError} : s.compiled = .error e ↔
    ∃ f, Regex.Matcher.compile false s.pattern = .error f ∧
      e = .pattern sedName (.regex s.pattern f) := by
  rw [compiled]
  cases Regex.Matcher.compile false s.pattern <;> simp [eq_comm]

theorem parse_of_written (h : s.Written d expression) : parse expression = s.compiled := by
  rw [parse, read?_eq_some_iff.2 ⟨d, h⟩]

theorem parse_of_not_written (h : ∀ s d, ¬ Written s d expression) :
    parse expression = .error (.argument sedName .invalidFirstArgument) := by
  have hread : read? expression = none := by
    refine Option.eq_none_iff_forall_ne_some.2 fun s hread ↦ ?_
    obtain ⟨d, hwritten⟩ := exists_of_read? hread
    exact h s d hwritten
  rw [parse, hread]

/-- Apart from that error, reading an expression comes to what compiling comes to of the
substitution that it is. -/
theorem parse_eq_iff {result : Except ShellError (Substitution × Regex.Matcher)}
    (hresult : result ≠ .error (.argument sedName .invalidFirstArgument)) :
    parse expression = result ↔ ∃ s d, Written s d expression ∧ s.compiled = result := by
  constructor
  · intro hparse
    cases hread : read? expression with
    | none =>
      rw [parse, hread] at hparse
      exact absurd hparse.symm hresult
    | some s =>
      rw [parse, hread] at hparse
      obtain ⟨d, hwritten⟩ := exists_of_read? hread
      exact ⟨s, d, hwritten, hparse⟩
  · rintro ⟨s, d, hwritten, rfl⟩
    exact parse_of_written hwritten

/-- An expression is accepted exactly when it is written as a substitution with a pattern that can
be compiled. -/
theorem parse_eq_ok_iff {r : Regex.Matcher} : parse expression = .ok (s, r) ↔
    (∃ d, s.Written d expression) ∧ Regex.Matcher.compile false s.pattern = .ok r := by
  rw [parse_eq_iff (by rintro ⟨⟩)]
  constructor
  · rintro ⟨s', d, hwritten, hcompiled⟩
    obtain ⟨rfl, hcompile⟩ := compiled_eq_ok_iff.1 hcompiled
    exact ⟨⟨d, hwritten⟩, hcompile⟩
  · rintro ⟨⟨d, hwritten⟩, hcompile⟩
    exact ⟨s, d, hwritten, compiled_eq_ok_iff.2 ⟨rfl, hcompile⟩⟩

/-- A pattern that cannot be compiled is what is wrong with an expression exactly when nothing else
is. -/
theorem parse_eq_pattern_error_iff {f : PatternFault} :
    parse expression = .error (.pattern sedName f) ↔ ∃ s d fault, Written s d expression ∧
      Regex.Matcher.compile false s.pattern = .error fault ∧ f = .regex s.pattern fault := by
  rw [parse_eq_iff (by rintro ⟨⟩)]
  constructor
  · rintro ⟨s, d, hwritten, hcompiled⟩
    obtain ⟨fault, hcompile, hf⟩ := compiled_eq_error_iff.1 hcompiled
    exact ⟨s, d, fault, hwritten, hcompile, (ShellError.pattern.inj hf).2⟩
  · rintro ⟨s, d, fault, hwritten, hcompile, rfl⟩
    exact ⟨s, d, hwritten, compiled_eq_error_iff.2 ⟨fault, hcompile, rfl⟩⟩

/-- Every other expression is refused as an argument. -/
theorem parse_eq_argument_error_iff :
    parse expression = .error (.argument sedName .invalidFirstArgument) ↔
      ∀ s d, ¬ Written s d expression := by
  refine ⟨fun herror s d hwritten ↦ ?_, parse_of_not_written⟩
  rw [parse_of_written hwritten] at herror
  obtain ⟨f, -, hf⟩ := compiled_eq_error_iff.1 herror
  cases hf

/-- There are no other errors. -/
theorem eq_of_parse_eq_error {e : ShellError} (h : parse expression = .error e) :
    e = .argument sedName .invalidFirstArgument ∨ ∃ f, e = .pattern sedName f := by
  by_cases he : e = .argument sedName .invalidFirstArgument
  · exact .inl he
  · obtain ⟨s, d, -, hcompiled⟩ := (parse_eq_iff fun herror ↦ he (Except.error.inj herror)).1 h
    obtain ⟨f, -, rfl⟩ := compiled_eq_error_iff.1 hcompiled
    exact .inr ⟨_, rfl⟩

/-- Behind the delimiter the first way goes on as the other one does. -/
theorem parse_eq_parseBody (hd : isDelimiter d = true) :
    parse ('s' :: d :: body) = parseBody d body := by
  rw [parse, read?, hd, parseBody]
  simp only [Bool.not_true, Bool.false_eq_true, if_false]
  rcases Text.pieces d body with _ | ⟨pattern, _ | ⟨replacement, _ | ⟨flags, _ | ⟨_, _⟩⟩⟩⟩
  -- Only three pieces are a substitution.
  case cons.cons.cons.nil =>
    cases pattern with
    | nil => rfl
    | cons c pattern =>
      by_cases hflags : flags = []
      · simp [hflags]
      · by_cases hflag : flags = ['g'] <;> simp [hflags, hflag]
  all_goals rfl

/-- What is behind the delimiter is a slice. -/
theorem sliceFrom?_behind (d : Char) (body : Text) :
    Utf8.isBoundary (Text.encode ('s' :: d :: body)) (1 + (Utf8.encodeChar d).length) = true ∧
    Text.sliceFrom? ('s' :: d :: body) (1 + (Utf8.encodeChar d).length) = some body := by
  have hlength : (Text.encode ['s', d]).length = 1 + (Utf8.encodeChar d).length := by
    simp [Text.encode, Utf8.encodeChar, Utf8.encodeScalar, Nat.add_comm]
  rw [← hlength]
  exact ⟨Utf8.isBoundary_append ['s', d] body, Text.sliceFrom?_append ['s', d] body⟩

/-- Both ways to read an expression are one, so there always is a slice. -/
theorem parseSliced?_eq (expression : Text) :
    parseSliced? expression = some (parse expression) := by
  unfold parseSliced?
  split
  · next d body =>
    rw [(sliceFrom?_behind d body).2]
    split
    · next hd =>
      rw [parse, read?, if_pos (by simpa [isDelimiter] using hd)]
    · next hd =>
      rw [parse_eq_parseBody (by simpa [isDelimiter, and_assoc] using hd)]
      rfl
  · next hshape =>
    rw [parse_of_not_written fun s d hwritten ↦ hshape d _ hwritten.2]

/-! ### The application -/

/-- What `sed` does with a substitution. -/
def perform (s : Substitution) (r : Regex.Matcher) (file : Option Text) : Act Unit := do
  Act.writeLines sedName ((← Act.linesOf sedName file).map (s.apply r))

variable {arguments rest : List Text} {given : Given}

/-- `sed` reads its first operand, and fails as that fails. -/
theorem run_sed (hread : sedUsage.read arguments = .ok (.run given))
    (htexts : given.texts = expression :: rest) :
    (∀ e, parse expression = .error e → sed.run arguments = throw e) ∧
    ∀ s r, parse expression = .ok (s, r) → sed.run arguments = s.perform r rest.head? := by
  rw [sed, Application.run_ofUsage hread, htexts]
  dsimp only [List.head?_cons, Option.getD_some, List.drop]
  cases hexpression : read? expression with
  | none =>
    rw [parse, hexpression]
    refine ⟨fun e he ↦ congrArg throw (Except.error.inj he), fun s r hok ↦ ?_⟩
    cases hok
  | some s =>
    rw [parse, hexpression]
    dsimp only
    rw [compiled]
    cases Regex.Matcher.compile false s.pattern with
    | error f =>
      refine ⟨fun e he ↦ congrArg throw (Except.error.inj he), fun s r hok ↦ ?_⟩
      cases hok
    | ok r =>
      refine ⟨fun e he ↦ ?_, fun s r hok ↦ ?_⟩
      · cases he
      · cases hok
        rfl

/-- **`sed` accepts what is written as a substitution, and nothing else.** The delimiter and the
parts of an expression can be told from it. There are two errors: that the pattern cannot be
compiled, where the expression is written as it should be, and that the argument is invalid,
everywhere else. The bytes of an expression can always be cut behind the delimiter, and reading what
is left comes to the same. And `sed` first of all reads its first operand, which can be any
expression. -/
theorem parsed_iff_written (expression : Text) :
    (∀ s r, parse expression = .ok (s, r) ↔
      (∃ d, s.Written d expression) ∧ Regex.Matcher.compile false s.pattern = .ok r) ∧
    (∀ s s' d d', Written s d expression → Written s' d' expression → d = d' ∧ s = s') ∧
    (∀ f, parse expression = .error (.pattern sedName f) ↔ ∃ s d fault,
      Written s d expression ∧ Regex.Matcher.compile false s.pattern = .error fault ∧
        f = .regex s.pattern fault) ∧
    (parse expression = .error (.argument sedName .invalidFirstArgument) ↔
      ∀ s d, ¬ Written s d expression) ∧
    (∀ e, parse expression = .error e →
      e = .argument sedName .invalidFirstArgument ∨ ∃ f, e = .pattern sedName f) ∧
    parseSliced? expression = some (parse expression) ∧
    (∀ d body, expression = 's' :: d :: body →
      Utf8.isBoundary expression.encode (1 + (Utf8.encodeChar d).length) = true ∧
      expression.sliceFrom? (1 + (Utf8.encodeChar d).length) = some body) ∧
    (∃ given, sedUsage.read [dashes, expression] = .ok (.run given) ∧
      given.texts = [expression]) ∧
    ∀ arguments given rest, sedUsage.read arguments = .ok (.run given) →
      given.texts = expression :: rest →
      (∀ e, parse expression = .error e → sed.run arguments = throw e) ∧
      ∀ s r, parse expression = .ok (s, r) → sed.run arguments = s.perform r rest.head? := by
  refine ⟨fun s r ↦ parse_eq_ok_iff, fun s s' d d' ↦ Written.unique,
    fun f ↦ parse_eq_pattern_error_iff, parse_eq_argument_error_iff, fun e ↦ eq_of_parse_eq_error,
    parseSliced?_eq expression, ?_, ⟨⟨[], [.text expression]⟩, rfl, rfl⟩,
    fun arguments given rest ↦ run_sed⟩
  rintro d body rfl
  exact sliceFrom?_behind d body

/-- A comma as delimiter; and an arrow of three bytes, behind which the slice begins. -/
theorem parsed_iff_written_commas :
    let s : Substitution := ⟨"a+".toList, "/→".toList, true⟩
    let expression := "s,a+,/→,g".toList
    s.Written ',' expression ∧
    (∃ r, parse expression = .ok (s, r) ∧ sed.run [dashes, expression] = s.perform r none) ∧
    (∃ fault, parse "s,(,b,".toList = .error (.pattern sedName (.regex ['('] fault))) ∧
    parse "s,a,b,,".toList = .error (.argument sedName .invalidFirstArgument) ∧
    Text.sliceFrom? "s→a+→b→".toList 4 = some "a+→b→".toList := by
  intro s expression
  have hallows : s.Allows ',' :=
    ⟨by decide +kernel, by decide, by decide, by decide, by decide, by decide⟩
  have hallows' : Allows ⟨['('], ['b'], false⟩ ',' :=
    ⟨hallows.not_alphanumeric, by decide, by decide, by decide, by decide, by decide⟩
  obtain ⟨haccepts, -, -, -, -, -, -, ⟨given, hread, htexts⟩, hsed⟩ := parsed_iff_written expression
  have hslice := (parsed_iff_written "s→a+→b→".toList).2.2.2.2.2.2.1 '→' "a+→b→".toList rfl
  have hok : (Regex.Matcher.compile false s.pattern).isOk = true := by decide +kernel
  have hfails : (Regex.Matcher.compile false ['(']).isOk = false := by decide +kernel
  cases hcompile : Regex.Matcher.compile false s.pattern with
  | error fault =>
    rw [hcompile] at hok
    cases hok
  | ok r =>
  cases hfault : Regex.Matcher.compile false ['('] with
  | ok r =>
    rw [hfault] at hfails
    cases hfails
  | error fault =>
  have hparse : parse expression = .ok (s, r) :=
    (haccepts s r).2 ⟨⟨',', hallows, rfl⟩, hcompile⟩
  refine ⟨⟨hallows, rfl⟩, ⟨r, hparse, (hsed _ given [] hread htexts).2 s r hparse⟩, ⟨fault, ?_⟩, ?_,
    hslice.2⟩
  · exact ((parsed_iff_written _).2.2.1 _).2 ⟨_, ',', fault, ⟨hallows', rfl⟩, hfault, rfl⟩
  · rw [parse, show read? "s,a,b,,".toList = none by decide]

end Application.Substitution

end LineShell
