import LineShell.Proofs.Regex.Enclosed

/-!
# A pattern in a group: escapes

Both readers read an escape alike, or both fail, as long as the escape ends in the pattern
(`alike_escape`). An escape that the end of the pattern cuts off fails for the first reader. The
second one may go on, in one of three ways: it takes the parenthesis as the character that is
escaped or as the name of a class, it looks for a closing brace through all that is behind the
pattern, or it leaves a brace behind `\b` for a count, which it then does not find. The first and
the last of these are `Missed`; the second one fails by itself (`Delimited.bind`).

Digits and names are read by fuel, and the two readers have different amounts of it. What matters is
that either one has enough, which is why the statements bound the rest of the text by both.
-/

namespace LineShell.Regex.Read

variable {P : Text} {r r' : Reader}

/-! ### Hexadecimal digits -/

/-- A digit is missing. -/
theorem hexDigits_of_not_digit (h : ∀ c ∈ r.rest.head?, (Table.hexDigit? c).isNone = true)
    (count : Nat) : ∃ f, hexDigits true (count + 1) r = .error f := by
  rw [hexDigits]
  simp only [Bool.not_true, Bool.false_eq_true, if_false, peek_bind]
  cases hc : r.rest.head? with
  | none => exact ⟨_, faultHere_run r _⟩
  | some c =>
    simp only [h c hc, if_true]
    exact ⟨_, bind_of_error r (faultAtChar_run r _) _⟩

/-- Behind a digit the next one comes after blanks. -/
theorem hexDigits_false_run (count : Nat) :
    hexDigits false (count + 1) r = if r.passOver.rest.isEmpty then
      .error ⟨.escapeUnfinished, ⟨r.passOver.pos, r.passOver.pos⟩, none⟩
      else hexDigits true (count + 1) r.passOver := by
  rw [hexDigits, hexDigits]
  simp only [Bool.not_false, if_true, Bool.not_true, Bool.false_eq_true, if_false, bumpOver_bind,
    Bool.not_not]
  split
  · exact bind_of_error _ (faultHere_run _ _) _
  · rfl

theorem hexDigit?_behind : ∀ c ∈ behind.head?, (Table.hexDigit? c).isNone = true := by
  rintro c ⟨⟩
  decide

/-- What comes where the text is at its end is no digit. -/
theorem hexDigits_of_end (h : Enclosed P r r') (hend : r.rest = []) (count : Nat) :
    ∃ f, hexDigits true (count + 1) r' = .error f := by
  refine hexDigits_of_not_digit ?_ count
  rcases h.cases with ⟨-, hne, -⟩ | ⟨-, hr'⟩ | ⟨-, hr'⟩
  · exact absurd hend hne
  · rw [hr']
    exact hexDigit?_behind
  · simp [hr']

theorem alike_hexDigits_succ (h : Enclosed P r r') {count n : Nat}
    (hmore : r.rest ≠ [] →
      Alike (Inside P Eq n) Prompt (hexDigits false count r) (hexDigits false count r')) :
    Alike (Inside P Eq n) Prompt (hexDigits true (count + 1) r)
      (hexDigits true (count + 1) r') := by
  rcases h.cases with ⟨⟨c, hc, hc'⟩, hne, -⟩ | ⟨hend, -⟩ | ⟨hend, -⟩
  · rw [hexDigits]
    simp only [Bool.not_true, Bool.false_eq_true, if_false, peek_bind, hc, hc']
    split
    · exact (Alike.error _ _ : Alike _ _ (.error _) (.error _))
    · refine (hmore hne).bind_prompt ?_
      rintro ⟨t, s⟩ ⟨_, s'⟩ ⟨⟨rfl, hs, hlength⟩, hsne⟩
      exact .ok ⟨⟨rfl, hs, hlength⟩, hsne⟩
  all_goals
    obtain ⟨f, hf⟩ := hexDigits_of_not_digit (r := r) (by simp [hend]) count
    obtain ⟨f', hf'⟩ := hexDigits_of_end h hend count
    rw [hf, hf']
    exact .error _ _

theorem alike_hexDigits (h : Enclosed P r r') {n : Nat} (hn : r.rest.length ≤ n) (count : Nat) :
    Alike (Inside P Eq n) Prompt (hexDigits true (count + 1) r)
      (hexDigits true (count + 1) r') := by
  induction count generalizing r r' with
  | zero => exact alike_hexDigits_succ h fun hne ↦ .ok ⟨⟨rfl, h, hn⟩, hne⟩
  | succ count ih =>
    refine alike_hexDigits_succ h fun hne ↦ ?_
    have hover := h.passOver hne
    have hlt := Reader.length_passOver_lt hne
    rw [hexDigits_false_run, hexDigits_false_run]
    refine alike_unlessEmpty hover (fun _ _ ↦ ih hover (by omega)) fun hend _ f ↦ ?_
    obtain ⟨f', hf'⟩ := hexDigits_of_end hover hend count
    rw [hf']
    exact .error f f'

/-! ### Characters by their numbers -/

/-- The pieces of pattern are the same but for spans and the number of groups in front. -/
def SamePattern (p q : Pattern) : Prop := q.bare 0 = p.bare 1

theorem alike_charOfHex (h : Enclosed P r r') {n : Nat} (hn : r.rest.length ≤ n) (digits : Text)
    (start start' : Position) (span span' : Span) (isByte : Bool) :
    Alike (Beside P SamePattern n) Prompt (charOfHex digits start span isByte r)
      (charOfHex digits start' span' isByte r') := by
  rw [charOfHex, charOfHex]
  split
  · exact .ok ⟨rfl, h, hn⟩
  · exact .error _ _

theorem alike_hexFixed (h : Enclosed P r r') {n : Nat} (hn : r.rest.length ≤ n)
    (start start' : Position) (count : Nat) (isByte : Bool) :
    Alike (Beside P SamePattern n) Prompt (hexFixed start (count + 1) isByte r)
      (hexFixed start' (count + 1) isByte r') := by
  rw [hexFixed, hexFixed, pos_bind, pos_bind]
  refine (alike_hexDigits h hn count).bind_prompt ?_
  rintro ⟨digits, s⟩ ⟨_, s'⟩ ⟨⟨rfl, hs, hlength⟩, hne⟩
  have hlt := Reader.length_passOver_lt hne
  simp only [bumpOver_bind, pos_bind]
  exact alike_charOfHex (hs.passOver hne) (by omega) digits _ _ _ _ isByte

/-! ### Texts up to a delimiter -/

/-- The text up to a delimiter was read by both, or the first reading met the end of the pattern and
the second one failed or has nothing left. -/
inductive Delimited (P : Text) (n : Nat) :
    Except Fault (Text × Reader) → Except Fault (Text × Reader) → Prop where
  | ok {t : Text} {r r' : Reader} (h : Inside P Eq n (t, r) (t, r')) :
    Delimited P n (.ok (t, r)) (.ok (t, r'))
  | error (f f' : Fault) : Delimited P n (.error f) (.error f')
  | unclosed {z : Text × Reader} {y : Except Fault (Text × Reader)} (h : z.2.rest = [])
    (h' : ∀ z', y = .ok z' → z'.2.rest = []) : Delimited P n (.ok z) y

/-- A character in front. -/
theorem Delimited.cons {n : Nat} {x y : Except Fault (Text × Reader)} (h : Delimited P n x y)
    (c : Char) : Delimited P n (x >>= fun z ↦ .ok (c :: z.1, z.2))
      (y >>= fun z ↦ .ok (c :: z.1, z.2)) := by
  cases h with
  | ok h => exact .ok ⟨⟨rfl, h.1.2⟩, h.2⟩
  | error f f' => exact .error f f'
  | unclosed h h' =>
    refine .unclosed h fun z' heq ↦ ?_
    cases y with
    | error f => cases heq
    | ok z =>
      cases heq
      exact h' z rfl

/-- Where nothing is left behind the delimited text, both readings fail. -/
theorem Delimited.bind {γ δ : Type} {S : γ → δ → Prop} {late : δ → Prop} {n : Nat}
    {x y : Except Fault (Text × Reader)} {g : Text × Reader → Except Fault γ}
    {g' : Text × Reader → Except Fault δ} (h : Delimited P n x y)
    (hok : ∀ t r r', Inside P Eq n (t, r) (t, r') → Alike S late (g (t, r)) (g' (t, r')))
    (hend : ∀ z, z.2.rest = [] → ∃ f, g z = .error f)
    (hend' : ∀ z, z.2.rest = [] → ∃ f, g' z = .error f) : Alike S late (x >>= g) (y >>= g') := by
  cases h with
  | ok h => exact hok _ _ _ h
  | error f f' => exact .error f f'
  | @unclosed z _ h h' =>
    obtain ⟨f, hf⟩ := hend z h
    show Alike S late (g z) _
    rw [hf]
    cases y with
    | error f' => exact .error f f'
    | ok z' =>
      obtain ⟨f', hf'⟩ := hend' z' (h' z' rfl)
      show Alike S late _ (g' z')
      rw [hf']
      exact .error f f'

/-- What is read up to the closing brace, from what comes behind the next character. -/
def readOver (r : Reader) (next : Char → Reader → Except Fault (Text × Reader)) :
    Except Fault (Text × Reader) :=
  match r.passOver.rest.head? with
  | none => .ok ([], r.passOver)
  | some c => if c = '}' then .ok ([], r.passOver) else next c r.passOver

theorem delimited_readOver (h : Enclosed P r r') (hne : r.rest ≠ []) {n : Nat}
    (hn : r.rest.length ≤ n) {next next' : Char → Reader → Except Fault (Text × Reader)}
    (hmore : ∀ c, Enclosed P r.passOver r'.passOver → r.passOver.rest ≠ [] →
      Delimited P n (next c r.passOver) (next' c r'.passOver))
    (hbehind : r'.passOver.rest = behind →
      ∀ z, next' ')' r'.passOver = .ok z → z.2.rest = []) :
    Delimited P n (readOver r next) (readOver r' next') := by
  have hover := h.passOver hne
  have hlt := Reader.length_passOver_lt hne
  rw [readOver, readOver]
  rcases hover.cases with ⟨⟨c, hc, hc'⟩, hpast, -⟩ | ⟨hend, hend'⟩ | ⟨hend, hend'⟩
  · rw [hc, hc']
    dsimp only
    split
    · exact .ok ⟨⟨rfl, hover, by omega⟩, hpast⟩
    · exact hmore c hover hpast
  · rw [hend]
    refine .unclosed hend ?_
    rw [hend']
    exact hbehind hend'
  · rw [hend, hend']
    exact .unclosed hend fun z hz ↦ by cases hz; exact hend'

theorem bracedDigits_succ_run (fuel : Nat) : bracedDigits (fuel + 1) r =
    readOver r fun c s ↦ if (Table.hexDigit? c).isNone then
        .error ⟨.escapeHexInvalidDigit, ⟨s.pos, s.pass.pos⟩, none⟩
      else bracedDigits fuel s >>= fun z ↦ .ok (c :: z.1, z.2) := by
  rw [bracedDigits, bumpOver_bind, readOver]
  cases hc : r.passOver.rest with
  | nil => rfl
  | cons c u =>
    simp only [List.isEmpty_cons, Bool.not_false, if_true, peek_bind, hc, List.head?_cons]
    split
    · rfl
    · split
      · exact faultAtChar_run _ _
      · rfl

theorem bracedName_succ_run (fuel : Nat) : bracedName (fuel + 1) r =
    readOver r fun c s ↦ bracedName fuel s >>= fun z ↦ .ok (c :: z.1, z.2) := by
  rw [bracedName, bumpOver_bind, readOver]
  cases hc : r.passOver.rest with
  | nil => rfl
  | cons c u =>
    simp only [List.isEmpty_cons, Bool.not_false, if_true, peek_bind, hc, List.head?_cons]
    split <;> rfl

/-- Without a closing brace a name goes to the end. -/
theorem rest_of_bracedName {fuel : Nat} {z : Text × Reader} (hfuel : r.rest.length ≤ fuel)
    (hbrace : '}' ∉ r.rest) (hz : bracedName fuel r = .ok z) : z.2.rest = [] := by
  induction fuel generalizing r z with
  | zero =>
    cases hz
    exact List.length_eq_zero_iff.1 (Nat.le_zero.1 hfuel)
  | succ fuel ih =>
    have hover : '}' ∉ r.passOver.rest := fun hmem ↦
      hbrace (List.mem_of_mem_tail (Reader.rest_passOver_suffix r |>.subset hmem))
    have hlength := (Reader.rest_passOver_suffix r).length_le
    rw [List.length_tail] at hlength
    rw [bracedName_succ_run, readOver] at hz
    cases hc : r.passOver.rest with
    | nil =>
      rw [hc] at hz
      cases hz
      exact hc
    | cons c u =>
      have hne : c ≠ '}' := fun heq ↦ hover (by simp [hc, heq])
      rw [hc, List.head?_cons] at hz
      simp only [hne, if_false] at hz
      cases hname : bracedName fuel r.passOver with
      | error f =>
        rw [hname] at hz
        cases hz
      | ok z' =>
        rw [hname] at hz
        cases hz
        show z'.2.rest = []
        exact ih (by omega) hover hname

/-- Behind a character the rest is shorter on both sides. -/
theorem lt_and_lt (h : Enclosed P r r') (hne : r.rest ≠ []) :
    r.passOver.rest.length < r.rest.length ∧ r'.passOver.rest.length < r'.rest.length :=
  ⟨Reader.length_passOver_lt hne, Reader.length_passOver_lt (h.ne hne)⟩

theorem alike_bracedDigits (h : Enclosed P r r') (hne : r.rest ≠ []) {fuel fuel' n : Nat}
    (hfuel : r.rest.length ≤ fuel) (hfuel' : r'.rest.length ≤ fuel') (hn : r.rest.length ≤ n) :
    Delimited P n (bracedDigits fuel r) (bracedDigits fuel' r') := by
  induction fuel generalizing fuel' r r' with
  | zero => exact absurd (List.length_eq_zero_iff.1 (Nat.le_zero.1 hfuel)) hne
  | succ fuel ih =>
    obtain ⟨hlt, hlt'⟩ := lt_and_lt h hne
    obtain ⟨fuel', rfl⟩ := Nat.exists_eq_succ_of_ne_zero (show fuel' ≠ 0 by omega)
    rw [bracedDigits_succ_run, bracedDigits_succ_run]
    refine delimited_readOver h hne hn (fun c hover hpast ↦ ?_) fun hend z hz ↦ nomatch hz
    split
    · exact .error _ _
    · exact (ih hover hpast (by omega) (by omega) (by omega)).cons c

theorem alike_bracedName (h : Enclosed P r r') (hne : r.rest ≠ []) {fuel fuel' n : Nat}
    (hfuel : r.rest.length ≤ fuel) (hfuel' : r'.rest.length ≤ fuel') (hn : r.rest.length ≤ n) :
    Delimited P n (bracedName fuel r) (bracedName fuel' r') := by
  induction fuel generalizing fuel' r r' with
  | zero => exact absurd (List.length_eq_zero_iff.1 (Nat.le_zero.1 hfuel)) hne
  | succ fuel ih =>
    obtain ⟨hlt, hlt'⟩ := lt_and_lt h hne
    obtain ⟨fuel', rfl⟩ := Nat.exists_eq_succ_of_ne_zero (show fuel' ≠ 0 by omega)
    rw [bracedName_succ_run, bracedName_succ_run]
    refine delimited_readOver h hne hn (fun c hover hpast ↦
      (ih hover hpast (by omega) (by omega) (by omega)).cons c) fun hend z hz ↦ ?_
    cases hname : bracedName fuel' r'.passOver with
    | error f =>
      rw [hname] at hz
      cases hz
    | ok z' =>
      rw [hname] at hz
      cases hz
      have hbrace : '}' ∉ r'.passOver.rest := by
        rw [hend]
        decide
      show z'.2.rest = []
      exact rest_of_bracedName (by omega) hbrace hname

theorem alike_hexBraced (h : Enclosed P r r') (hne : r.rest ≠ []) {n : Nat}
    (hn : r.rest.length ≤ n) (start start' : Position) :
    Alike (Beside P SamePattern n) Prompt (hexBraced start r) (hexBraced start' r') := by
  rw [hexBraced, hexBraced, pos_bind, pos_bind, charSpan_bind, charSpan_bind, get_bind, get_bind]
  refine (alike_bracedDigits h hne (Nat.le_refl _) (Nat.le_refl _) hn).bind ?_ ?_ ?_
  · rintro t s s' ⟨⟨-, hs, hlength⟩, hsne⟩
    obtain ⟨hlt, -⟩ := lt_and_lt hs hsne
    simp only [atEnd_bind, List.isEmpty_eq_false_iff.2 hsne,
      List.isEmpty_eq_false_iff.2 (hs.ne hsne), Bool.false_eq_true, if_false, pos_bind,
      bumpOver_bind]
    by_cases hdigits : t.isEmpty = true
    · simp only [hdigits, if_true, pos_bind, faultFrom_bind]
      exact .error _ _
    · simp only [hdigits]
      by_cases hscalar : isScalar (Table.hexValue t) = true
      · simp only [hscalar]
        exact .ok ⟨rfl, hs.passOver hsne, by omega⟩
      · simp only [hscalar]
        exact .error _ _
  · rintro ⟨t, s⟩ (hend : s.rest = [])
    simp only [atEnd_bind, hend, List.isEmpty_nil, if_true, pos_bind, faultFrom_bind]
    exact ⟨_, rfl⟩
  · rintro ⟨t, s⟩ (hend : s.rest = [])
    simp only [atEnd_bind, hend, List.isEmpty_nil, if_true, pos_bind, faultFrom_bind]
    exact ⟨_, rfl⟩

/-- No digit follows the pattern. -/
theorem hexFixed_of_end (h : Enclosed P r r') (hend : r.rest = []) (start : Position) (count : Nat)
    (isByte : Bool) : ∃ f, hexFixed start (count + 1) isByte r' = .error f := by
  obtain ⟨f, hf⟩ := hexDigits_of_end h hend count
  rw [hexFixed, pos_bind]
  exact ⟨f, bind_of_error r' hf _⟩

theorem alike_hex (h : Enclosed P r r') (hne : r.rest ≠ []) {n : Nat}
    (hn : r.rest.length ≤ n) (start start' : Position) (kind : Char) :
    Alike (Beside P SamePattern n) Prompt (hex start kind r) (hex start' kind r') := by
  have hover := h.passOver hne
  obtain ⟨hlt, -⟩ := lt_and_lt h hne
  obtain ⟨count, hcount⟩ :
      ∃ count, (if kind = 'x' then 2 else if kind = 'u' then 4 else 8) = count + 1 := by
    split
    · exact ⟨1, rfl⟩
    · split
      · exact ⟨3, rfl⟩
      · exact ⟨7, rfl⟩
  have hrun (start : Position) (r : Reader) : hex start kind r = if r.passOver.rest.isEmpty then
      .error ⟨.escapeUnfinished, ⟨r.passOver.pos, r.passOver.pos⟩, none⟩
      else if r.passOver.rest.head? = some '{' then hexBraced start r.passOver
      else hexFixed start (count + 1) (kind = 'x') r.passOver := by
    rw [hex, bumpOver_bind, hcount]
    cases r.passOver.rest.isEmpty with
    | true => rfl
    | false =>
      simp only [Bool.not_false, Bool.not_true, Bool.false_eq_true, if_false, peek_bind]
      split <;> rfl
  rw [hrun, hrun]
  refine alike_unlessEmpty hover (fun hpast hpast' ↦ ?_) fun hend hend' f ↦ ?_
  · rw [hover.head_eq hpast]
    split
    · exact alike_hexBraced hover hpast (by omega) start start'
    · exact alike_hexFixed hover (by omega) start start' count _
  · obtain ⟨f', hf'⟩ := hexFixed_of_end hover hend start' count (kind = 'x')
    rw [hend', if_neg (by decide), hf']
    exact .error f f'

/-! ### Classes by their properties -/

/-- Too much was read: the parenthesis behind the pattern has been passed, or there is an assertion
and a brace in front of the parenthesis that no count is in. -/
def Missed : Pattern × Reader → Prop
  | (p, r) => Gone r ∨
    ((∃ span a, p = .assertion span a) ∧ r.rest.head? = some '{' ∧ r.passOver.rest = behind)

theorem alike_propertyClass (h : Enclosed P r r') (hne : r.rest ≠ []) {n : Nat}
    (hn : r.rest.length ≤ n) (start start' : Position) (negated : Bool) :
    Alike (Beside P SamePattern n) Missed (propertyClass start negated r)
      (propertyClass start' negated r') := by
  have hover := h.passOver hne
  obtain ⟨hlt, -⟩ := lt_and_lt h hne
  rw [propertyClass, propertyClass, bumpOver_bind, bumpOver_bind]
  rcases hover.cases with ⟨⟨c, hc, hc'⟩, hpast, hpast'⟩ | ⟨hend, hend'⟩ | ⟨hend, hend'⟩
  · obtain ⟨hlt', -⟩ := lt_and_lt hover hpast
    simp only [List.isEmpty_eq_false_iff.2 hpast, List.isEmpty_eq_false_iff.2 hpast',
      Bool.not_false, Bool.not_true, Bool.false_eq_true, if_false, peek_bind, hc, hc']
    by_cases hbrace : some c = some '{'
    · simp only [hbrace, if_true, get_bind]
      have hname := alike_bracedName hover hpast (Nat.le_refl _) (Nat.le_refl _) (Nat.le_refl _)
      refine hname.bind ?_ ?_ ?_
      · rintro name s s' ⟨⟨-, hs, hlength⟩, hsne⟩
        have hlt := Reader.length_pass_lt hsne
        simp only [atEnd_bind, List.isEmpty_eq_false_iff.2 hsne,
          List.isEmpty_eq_false_iff.2 (hs.ne hsne), Bool.false_eq_true, if_false, bump_bind]
        exact .ok ⟨rfl, hs.pass hsne, by omega⟩
      · rintro ⟨name, s⟩ (hend : s.rest = [])
        simp only [atEnd_bind, hend, List.isEmpty_nil, if_true, faultHere_bind]
        exact ⟨_, rfl⟩
      · rintro ⟨name, s⟩ (hend : s.rest = [])
        simp only [atEnd_bind, hend, List.isEmpty_nil, if_true, faultHere_bind]
        exact ⟨_, rfl⟩
    · simp only [hbrace, if_false, peek_bind, hc, hc']
      split
      · exact .error _ _
      · simp only [bumpOver_bind]
        exact .ok ⟨rfl, hover.passOver hpast, by omega⟩
  · have hgone := rest_passOver_of_behind hend'
    rw [hend, hend']
    simp only [behind, List.isEmpty_nil, List.isEmpty_cons, Bool.not_false, Bool.not_true,
      Bool.false_eq_true, if_false, if_true, faultHere_bind, peek_bind, hend', List.head?_cons]
    rw [if_neg (by decide), peek_bind, hend']
    simp only [behind, List.head?_cons]
    rw [if_neg (by decide), bumpOver_bind]
    exact .late _ (Or.inl (Gone.of_eq hgone))
  · rw [hend, hend']
    exact .error _ _

/-! ### Edges of words and escapes -/

/-- Braces that are not closed in the pattern hold no edge of a word; they are left for a count. -/
theorem alike_edgeInBraces (h : Enclosed P r r') (hne : r.rest ≠ []) {n : Nat}
    (hn : r.rest.length ≤ n) (start start' : Position) :
    Alike (Beside P Eq n) (fun y ↦ y = (none, r') ∧ r'.passOver.rest = behind)
      (edgeInBraces? start r) (edgeInBraces? start' r') := by
  have hover := h.passOver hne
  obtain ⟨hlt, -⟩ := lt_and_lt h hne
  rw [edgeInBraces?, edgeInBraces?, get_bind, get_bind, bumpOver_bind, bumpOver_bind]
  rcases hover.cases with ⟨⟨c, hc, hc'⟩, hpast, hpast'⟩ | ⟨hend, hend'⟩ | ⟨hend, hend'⟩
  · simp only [List.isEmpty_eq_false_iff.2 hpast, List.isEmpty_eq_false_iff.2 hpast',
      Bool.not_false, Bool.not_true, Bool.false_eq_true, if_false, pos_bind, peek_bind, hc, hc']
    by_cases hedge : isEdgeChar c = true
    · simp only [hedge, Bool.not_true, Bool.false_eq_true, if_false, get_bind]
      refine (alike_collect (by decide) hover (Nat.le_refl _) (Nat.le_refl _)
        (Nat.le_refl _)).bind_prompt ?_
      rintro ⟨name, s⟩ ⟨_, s'⟩ ⟨rfl, hs, hlength⟩
      simp only [peek_bind, ne_eq, hs.head_iff (show '}' ≠ ')' by decide)]
      by_cases hclose : s.rest.head? = some '}'
      · have hsne := Reader.ne_of_head hclose
        have hlt' := Reader.length_pass_lt hsne
        simp only [hclose, not_true_eq_false, if_false, pos_bind, bump_bind]
        cases edgeOfName? name with
        | none => exact .error _ _
        | some edge => exact .ok ⟨rfl, hs.pass hsne, by omega⟩
      · simp only [hclose, not_false_eq_true, if_true, pos_bind, faultFrom_bind]
        exact .error _ _
    · simp only [hedge]
      exact .ok ⟨rfl, h, hn⟩
  · rw [hend, hend']
    simp only [behind, List.isEmpty_nil, List.isEmpty_cons, Bool.not_false, Bool.not_true,
      Bool.false_eq_true, if_false, if_true, pos_bind, faultFrom_bind, peek_bind, hend',
      List.head?_cons]
    exact .late _ ⟨rfl, trivial⟩
  · rw [hend, hend']
    exact .error _ _

/-- The assertion that an escape stands for; behind `\b` there may be the name of an edge. -/
def assertionFrom (start : Position) (span : Span) (c : Char) (a : Assertion) : Read Pattern := do
  if c = 'b' ∧ (← peek?) = some '{' then
    match ← edgeInBraces? start with
    | some edge => return .assertion ⟨start, ← pos⟩ (.word edge)
    | none => return .assertion span a
  else return .assertion span a

theorem alike_assertionFrom (h : Enclosed P r r') {n : Nat} (hn : r.rest.length ≤ n)
    (start start' : Position) (span span' : Span) (c : Char) (a : Assertion) :
    Alike (Beside P SamePattern n) Missed (assertionFrom start span c a r)
      (assertionFrom start' span' c a r') := by
  simp only [assertionFrom, peek_bind, h.head_iff (show '{' ≠ ')' by decide)]
  by_cases hbrace : c = 'b' ∧ r.rest.head? = some '{'
  · have hhead' := (h.head_iff (by decide)).2 hbrace.2
    rw [if_pos hbrace, if_pos hbrace]
    refine (alike_edgeInBraces h (Reader.ne_of_head hbrace.2) hn start start').bind ?_ ?_
    · rintro ⟨edge, s⟩ ⟨_, s'⟩ ⟨rfl, hs⟩
      cases edge <;> exact .ok ⟨rfl, hs⟩
    · rintro _ ⟨rfl, hbehind⟩ f
      exact .late f (.inr ⟨⟨_, _, rfl⟩, hhead', hbehind⟩)
  · rw [if_neg hbrace, if_neg hbrace]
    exact .ok ⟨rfl, h, hn⟩

theorem alike_escape (h : Enclosed P r r') (hne : r.rest ≠ []) {n : Nat}
    (hn : r.rest.length ≤ n + 1) :
    Alike (Beside P SamePattern n) Missed (escape r) (escape r') := by
  have hpass := h.pass hne
  have hlength : r.pass.rest.length ≤ n :=
    Nat.le_of_lt_succ (Nat.lt_of_lt_of_le (Reader.length_pass_lt hne) hn)
  rw [escape, pos_bind, pos_bind, bump_bind, bump_bind]
  rcases hpass.cases with ⟨⟨c, hc, hc'⟩, hpast, hpast'⟩ | ⟨hend, hend'⟩ | ⟨hend, hend'⟩
  · simp only [List.isEmpty_eq_false_iff.2 hpast, List.isEmpty_eq_false_iff.2 hpast',
      Bool.not_false, Bool.not_true, Bool.false_eq_true, if_false, peek_bind, hc, hc']
    split
    · exact .error _ _
    · split
      · exact (alike_hex hpass hpast hlength _ _ c).of_prompt
      · split
        · exact alike_propertyClass hpass hpast hlength _ _ _
        · have hpass' := hpass.pass hpast
          have hlength' : r.pass.pass.rest.length ≤ n :=
            Nat.le_trans (Nat.le_of_lt (Reader.length_pass_lt hpast)) hlength
          simp only [bump_bind, pos_bind]
          cases perlOf? c with
          | some perl => exact .ok ⟨rfl, hpass', hlength'⟩
          | none =>
            cases controlOf? c with
            | some control => exact .ok ⟨rfl, hpass', hlength'⟩
            | none =>
              cases assertionOf? c with
              | some a => exact alike_assertionFrom hpass' hlength' _ _ _ _ c a
              | none =>
                by_cases hescapable : isEscapable c = true
                · simp only [hescapable, if_true]
                  exact .ok ⟨rfl, hpass', hlength'⟩
                · simp only [hescapable]
                  exact .error _ _
  · have hgone : r'.pass.pass.rest = behind.tail := by rw [Reader.rest_pass, hend']
    rw [hend, hend']
    simp only [behind, List.isEmpty_nil, List.isEmpty_cons, Bool.not_false, Bool.not_true,
      Bool.false_eq_true, if_false, if_true, pos_bind, faultFrom_bind, peek_bind, hend',
      List.head?_cons]
    rw [if_neg (by decide), if_neg (by decide), if_neg (by decide), bump_bind, pos_bind]
    exact .late _ (Or.inl (Gone.of_eq hgone))
  · rw [hend, hend']
    exact .error _ _

end LineShell.Regex.Read
