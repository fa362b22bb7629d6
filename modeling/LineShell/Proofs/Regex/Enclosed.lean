import LineShell.Proofs.Regex.Renumbering
import LineShell.Regex.Reading

/-!
# A pattern in a group

To match whole words only, a pattern is pasted between `\b(` and `)\b`. What is read is then the
text of the pattern with more text behind it, and the reader stands behind one capture group
already. This module and those behind it show that it is read as it would be by itself, as long as
the parenthesis behind it is found to close the group: the escapes (`EnclosedEscapes`), the classes
in brackets (`EnclosedClasses`), the groups and repetitions (`EnclosedGroups`) and at last the whole
pattern (`EnclosedPatterns`).

Two readers are followed side by side, one that has the pattern by itself and one that has it in the
group (`Enclosed`). Up to the end of the pattern they see the same characters. At the end the first
one sees nothing and the second one the parenthesis, and what they do there may differ: what the
first one finds unfinished the second one may finish with the characters behind the pattern. Then it
has passed the parenthesis, and no other one closes the group; so it fails too, though later
(`Vain`). The second way to miss the parenthesis is a comment that is open where the pattern ends
(`EndsInComment`): both readers then have nothing left, and the second one fails for its group
alone.
-/

namespace LineShell.Regex

/-! ### The moves of a reader -/

namespace Reader

/-- The reader behind the next character. -/
def pass (r : Reader) : Reader :=
  match r.rest with
  | [] => r
  | c :: rest => { r with rest, pos := r.pos.next c }

/-- The reader behind blanks and comments, where they mean nothing. -/
def skip (r : Reader) : Reader :=
  if r.loose then
    let left := Read.skipFrom false r.pos r.rest
    { r with rest := left.1, pos := left.2 }
  else r

/-- The reader behind the next character and the blanks after it. -/
def passOver (r : Reader) : Reader := r.pass.skip

/-- The reader behind the characters up to the first that fails `p`. -/
def skipWhile (p : Char → Bool) (r : Reader) : Reader :=
  { r with rest := r.rest.dropWhile p, pos := (r.rest.takeWhile p).foldl Position.next r.pos }

variable {r : Reader}

theorem rest_pass (r : Reader) : r.pass.rest = r.rest.tail := by
  rw [pass]
  split <;> simp_all

theorem skipFrom_suffix (comment : Bool) (pos : Position) (u : Text) :
    (Read.skipFrom comment pos u).1 <:+ u := by
  induction u generalizing comment pos with
  | nil => exact List.suffix_refl _
  | cons c u ih =>
    have hmore (comment : Bool) : (Read.skipFrom comment (pos.next c) u).1 <:+ c :: u :=
      (ih comment (pos.next c)).trans (List.suffix_cons c u)
    rw [Read.skipFrom]
    split
    · exact hmore _
    · split
      · exact hmore _
      · split
        · exact hmore _
        · exact List.suffix_refl _

theorem rest_skip_suffix (r : Reader) : r.skip.rest <:+ r.rest := by
  rw [skip]
  split
  · exact skipFrom_suffix false r.pos r.rest
  · exact List.suffix_refl _

theorem rest_passOver_suffix (r : Reader) : r.passOver.rest <:+ r.rest.tail :=
  rest_pass r ▸ rest_skip_suffix r.pass

theorem ne_of_head {c : Char} (h : r.rest.head? = some c) : r.rest ≠ [] := fun hnil ↦ by
  rw [hnil] at h
  cases h

theorem length_pass_lt (h : r.rest ≠ []) : r.pass.rest.length < r.rest.length := by
  rw [rest_pass, List.length_tail]
  exact Nat.sub_one_lt fun hzero ↦ h (List.length_eq_zero_iff.1 hzero)

theorem length_passOver_lt (h : r.rest ≠ []) : r.passOver.rest.length < r.rest.length :=
  Nat.lt_of_le_of_lt (rest_skip_suffix r.pass).length_le (length_pass_lt h)

/-- There is nothing to skip in front of a character that means something. -/
theorem skip_of_head {c : Char} (h : r.rest.head? = some c) (hblank : isBlankChar c = false)
    (hmark : c ≠ '#') : r.skip = r := by
  obtain ⟨rest, pos, loose, groups, names⟩ := r
  cases loose with
  | false => rfl
  | true =>
    cases rest with
    | nil => cases h
    | cons d u =>
      obtain rfl : d = c := Option.some.inj h
      simp [skip, Read.skipFrom, hblank, hmark]

theorem skip_of_rest_eq_nil (h : r.rest = []) : r.skip = r := by
  obtain ⟨rest, pos, loose, groups, names⟩ := r
  obtain rfl : rest = [] := h
  cases loose <;> rfl

end Reader

namespace Read

section moves

variable {α β : Type} (r : Reader)

theorem pure_run (a : α) : (pure a : Read α) r = .ok (a, r) := rfl

theorem pos_bind (next : Position → Read β) : (pos >>= next) r = next r.pos r := rfl

theorem get_bind (next : Reader → Read β) : (get >>= next) r = next r r := rfl

theorem peek_bind (next : Option Char → Read β) : (peek? >>= next) r = next r.rest.head? r := rfl

theorem atEnd_bind (next : Bool → Read β) : (atEnd >>= next) r = next r.rest.isEmpty r := rfl

theorem charSpan_bind (next : Span → Read β) :
    (charSpan >>= next) r = next ⟨r.pos, r.pass.pos⟩ r := by
  obtain ⟨rest, pos, loose, groups, names⟩ := r
  cases rest <;> rfl

theorem bump_bind (next : Bool → Read β) :
    (bump >>= next) r = next (!r.pass.rest.isEmpty) r.pass := by
  obtain ⟨rest, pos, loose, groups, names⟩ := r
  cases rest <;> rfl

theorem skipBlanks_bind (next : Unit → Read β) : (skipBlanks >>= next) r = next () r.skip := by
  obtain ⟨rest, pos, loose, groups, names⟩ := r
  cases loose <;> rfl

theorem skipWhile_bind (p : Char → Bool) (next : Unit → Read β) :
    (skipWhile p >>= next) r = next () (r.skipWhile p) := rfl

theorem bumpOver_bind (next : Bool → Read β) :
    (bumpOver >>= next) r = next (!r.passOver.rest.isEmpty) r.passOver := by
  rw [bumpOver, bind_assoc, bump_bind, Reader.passOver]
  cases h : r.pass.rest.isEmpty with
  | true =>
    rw [Reader.skip_of_rest_eq_nil (List.isEmpty_iff.1 h), h]
    rfl
  | false =>
    simp only [Bool.not_false, if_true]
    rw [bind_assoc, skipBlanks_bind]
    rfl

end moves

end Read

/-! ### Two readers side by side -/

/-- What is pasted behind a pattern. -/
def behind : Text := [')', '\\', 'b']

/-- A comment can be open at the end of the pattern: blanks and comments can come to mean nothing in
it, and in its last line there is the mark of a comment. -/
def EndsInComment (P : Text) : Prop :=
  'x' ∈ P ∧ ∃ front comment, P = front ++ '#' :: comment ∧ '\n' ∉ comment

/-- The first reader has what is left of the pattern by itself, the second one has it in a group. If
a comment was open at the end of the pattern both have nothing left. -/
structure Enclosed (P : Text) (r r' : Reader) : Prop where
  suffix : r.rest <:+ P
  rest : r'.rest = r.rest ++ behind ∨ (EndsInComment P ∧ r.rest = [] ∧ r'.rest = [])
  loose : r'.loose = r.loose
  flag : r.loose = true → 'x' ∈ P
  groups : r'.groups = r.groups + 1
  names : r'.names.map (fun n ↦ (n.1, n.2.1)) = r.names.map fun n ↦ (n.1, n.2.1 + 1)

namespace Enclosed

variable {P : Text} {r r' : Reader}

/-- Both see the same character, or the first one is at the end and the second one at the
parenthesis, or both are at the end. -/
theorem cases (h : Enclosed P r r') :
    ((∃ c, r.rest.head? = some c ∧ r'.rest.head? = some c) ∧ r.rest ≠ [] ∧ r'.rest ≠ []) ∨
      (r.rest = [] ∧ r'.rest = behind) ∨ (r.rest = [] ∧ r'.rest = []) := by
  rcases h.rest with hrest | ⟨-, hend, hend'⟩
  · cases hr : r.rest with
    | nil => exact .inr (.inl ⟨rfl, by rw [hrest, hr, List.nil_append]⟩)
    | cons c u => exact .inl ⟨⟨c, rfl, by rw [hrest, hr]; rfl⟩, nofun, by simp [hrest, hr]⟩
  · exact .inr (.inr ⟨hend, hend'⟩)

theorem ne (h : Enclosed P r r') (hne : r.rest ≠ []) : r'.rest ≠ [] := by
  rcases h.cases with ⟨-, -, hne'⟩ | ⟨hr, -⟩ | ⟨hr, -⟩
  · exact hne'
  all_goals exact absurd hr hne

theorem head_eq (h : Enclosed P r r') (hne : r.rest ≠ []) : r'.rest.head? = r.rest.head? := by
  rcases h.cases with ⟨⟨c, hc, hc'⟩, -⟩ | ⟨hr, -⟩ | ⟨hr, -⟩
  · rw [hc, hc']
  all_goals exact absurd hr hne

theorem head_iff (h : Enclosed P r r') {c : Char} (hc : c ≠ ')') :
    r'.rest.head? = some c ↔ r.rest.head? = some c := by
  rcases h.cases with ⟨⟨d, hd, hd'⟩, -⟩ | ⟨hr, hr'⟩ | ⟨hr, hr'⟩
  · rw [hd, hd']
  · simp [hr, hr', behind, hc.symm]
  · simp [hr, hr']

/-- In front of the end of the pattern the second reader has what is behind it too. -/
theorem rest_of_ne (h : Enclosed P r r') (hne : r.rest ≠ []) : r'.rest = r.rest ++ behind :=
  h.rest.resolve_right fun hend ↦ hne hend.2.1

/-- Both have nothing left only where a comment is open at the end. -/
theorem endsInComment (h : Enclosed P r r') (hend : r.rest = []) (hend' : r'.rest = []) :
    EndsInComment P := by
  rcases h.rest with hrest | ⟨hends, -⟩
  · rw [hend, hend'] at hrest
    cases hrest
  · exact hends

/-- Where the first reader goes forward so does the second one. -/
theorem length_lt {s s' : Reader} (h : Enclosed P r r') (hs : Enclosed P s s')
    (hlt : s.rest.length < r.rest.length) : s'.rest.length < r'.rest.length := by
  have hne : r.rest ≠ [] := fun hnil ↦ by
    rw [hnil] at hlt
    exact Nat.not_lt_zero _ hlt
  rw [h.rest_of_ne hne, List.length_append]
  rcases hs.rest with hrest | ⟨-, -, hend'⟩
  · rw [hrest, List.length_append]
    omega
  · rw [hend', List.length_nil]
    omega

theorem pass (h : Enclosed P r r') (hne : r.rest ≠ []) : Enclosed P r.pass r'.pass := by
  obtain ⟨c, u, hr⟩ := List.exists_cons_of_ne_nil hne
  have hr' : r'.rest = c :: (u ++ behind) := by
    rw [h.rest_of_ne hne, hr, List.cons_append]
  obtain ⟨_, pos, _, _, _⟩ := r
  obtain ⟨_, pos', _, _, _⟩ := r'
  obtain rfl : _ = c :: u := hr
  obtain rfl : _ = c :: (u ++ behind) := hr'
  obtain ⟨suffix, -, loose, flag, groups, names⟩ := h
  exact ⟨(List.suffix_cons c u).trans suffix, .inl rfl, loose, flag, groups, names⟩

end Enclosed

theorem isBlankChar_backslash : isBlankChar '\\' = false := by decide +kernel

theorem isBlankChar_parenthesis : isBlankChar ')' = false := by decide +kernel

/-- A comment is open at the end of the text; `comment` tells that one is open in front of it. -/
def OpenAtEnd (comment : Bool) (u : Text) : Prop :=
  (comment = true ∧ '\n' ∉ u) ∨ ∃ front rest, u = front ++ '#' :: rest ∧ '\n' ∉ rest

theorem OpenAtEnd.cons {comment comment' : Bool} {c : Char} {u : Text} (h : OpenAtEnd comment u)
    (hopen : comment = true → (comment' = true ∧ c ≠ '\n') ∨ c = '#') :
    OpenAtEnd comment' (c :: u) := by
  rcases h with ⟨hcomment, hu⟩ | ⟨front, rest, rfl, hrest⟩
  · rcases hopen hcomment with ⟨hcomment', hc⟩ | rfl
    · exact .inl ⟨hcomment', List.not_mem_cons_of_ne_of_not_mem hc.symm hu⟩
    · exact .inr ⟨[], u, rfl, hu⟩
  · exact .inr ⟨c :: front, rest, rfl, hrest⟩

/-- Blanks and comments are passed up to the same character, unless a comment is open at the end. -/
theorem skipFrom_append (comment : Bool) (pos pos' : Position) (u : Text) :
    (Read.skipFrom comment pos' (u ++ behind)).1 = (Read.skipFrom comment pos u).1 ++ behind ∨
      ((Read.skipFrom comment pos u).1 = [] ∧
        (Read.skipFrom comment pos' (u ++ behind)).1 = [] ∧ OpenAtEnd comment u) := by
  induction u generalizing comment pos pos' with
  | nil =>
    cases comment with
    | true => exact .inr ⟨rfl, rfl, .inl ⟨rfl, List.not_mem_nil⟩⟩
    | false => exact .inl (by simp [behind, Read.skipFrom, isBlankChar_parenthesis])
  | cons c u ih =>
    simp only [List.cons_append, Read.skipFrom]
    cases comment with
    | true =>
      refine (ih (c != '\n') (pos.next c) (pos'.next c)).imp id fun ⟨hend, hend', hopen⟩ ↦
        ⟨hend, hend', hopen.cons fun hne ↦ .inl ⟨rfl, ?_⟩⟩
      simpa using hne
    | false =>
      simp only [Bool.false_eq_true, if_false]
      split
      · exact (ih false (pos.next c) (pos'.next c)).imp id fun ⟨hend, hend', hopen⟩ ↦
          ⟨hend, hend', hopen.cons nofun⟩
      · split
        · next hmark =>
          exact (ih true (pos.next c) (pos'.next c)).imp id fun ⟨hend, hend', hopen⟩ ↦
            ⟨hend, hend', hopen.cons fun _ ↦ .inr hmark⟩
        · exact .inl rfl

theorem OpenAtEnd.endsInComment {u P : Text} (h : OpenAtEnd false u) (hsuffix : u <:+ P)
    (hflag : 'x' ∈ P) : EndsInComment P := by
  rcases h with ⟨hfalse, -⟩ | ⟨front, comment, rfl, hcomment⟩
  · cases hfalse
  · obtain ⟨before, rfl⟩ := hsuffix
    exact ⟨hflag, before ++ front, comment, by rw [List.append_assoc], hcomment⟩

namespace Enclosed

variable {P : Text} {r r' : Reader}

theorem skip (h : Enclosed P r r') : Enclosed P r.skip r'.skip := by
  obtain ⟨suffix, rest, loose, flag, groups, names⟩ := h
  obtain ⟨u, pos, l, _, _⟩ := r
  obtain ⟨u', pos', l', _, _⟩ := r'
  obtain rfl : l' = l := loose
  cases l' with
  | false => exact ⟨suffix, rest, rfl, flag, groups, names⟩
  | true =>
    refine ⟨(Reader.skipFrom_suffix false pos u).trans suffix, ?_, rfl, flag, groups, names⟩
    rcases rest with rfl | ⟨hends, rfl, rfl⟩
    · exact (skipFrom_append false pos pos' u).imp id fun ⟨hend, hend', hopen⟩ ↦
        ⟨hopen.endsInComment suffix (flag rfl), hend, hend'⟩
    · exact .inr ⟨hends, rfl, rfl⟩

theorem passOver (h : Enclosed P r r') (hne : r.rest ≠ []) : Enclosed P r.passOver r'.passOver :=
  (h.pass hne).skip

theorem skipWhile (h : Enclosed P r r') {p : Char → Bool} (hp : p ')' = false) :
    Enclosed P (r.skipWhile p) (r'.skipWhile p) := by
  have hsuffix := List.dropWhile_suffix (l := r.rest) p
  refine ⟨hsuffix.trans h.suffix, ?_, h.loose, h.flag, h.groups, h.names⟩
  show r'.rest.dropWhile p = r.rest.dropWhile p ++ behind ∨
    (_ ∧ r.rest.dropWhile p = [] ∧ r'.rest.dropWhile p = [])
  rcases h.rest with hrest | ⟨hends, hend, hend'⟩
  · refine .inl ?_
    rw [hrest]
    induction r.rest with
    | nil => simp [behind, hp]
    | cons c u ih =>
      rw [List.cons_append, List.dropWhile_cons, List.dropWhile_cons]
      split
      · exact ih
      · rfl
  · exact .inr ⟨hends, by rw [hend]; rfl, by rw [hend']; rfl⟩

end Enclosed

/-! ### What two readings come to -/

/-- Two readings give related values and leave their readers side by side, with at most `n`
characters left. -/
def Beside {α β : Type} (P : Text) (R : α → β → Prop) (n : Nat) :
    α × Reader → β × Reader → Prop
  | (a, r), (b, r') => R a b ∧ Enclosed P r r' ∧ r.rest.length ≤ n

/-- Two readings give related values and leave their readers side by side in front of the end of the
pattern. -/
def Inside {α β : Type} (P : Text) (R : α → β → Prop) (n : Nat) :
    α × Reader → β × Reader → Prop
  | (a, r), (b, r') => Beside P R n (a, r) (b, r') ∧ r.rest ≠ []

/-- A reading fails, or what it gives comes too late. -/
def Vain {β : Type} (late : β → Prop) (y : Except Fault β) : Prop := ∀ z, y = .ok z → late z

namespace Vain

variable {α β γ : Type} {late late' : β → Prop} {y : Except Fault β}

theorem error (f : Fault) : Vain late (.error f) := nofun

theorem ok {b : β} (h : late b) : Vain late (.ok b) := fun _ heq ↦ Except.ok.inj heq ▸ h

theorem bind {late'' : γ → Prop} {g : β → Except Fault γ} (hy : Vain late y)
    (hg : ∀ b, late b → Vain late'' (g b)) : Vain late'' (y >>= g) := by
  cases y with
  | error f => exact .error f
  | ok b => exact hg b (hy b rfl)

theorem imp (hy : Vain late y) (h : ∀ b, late b → late' b) : Vain late' y :=
  fun z hz ↦ h z (hy z hz)

/-- What comes to nothing, or too late, goes with a fault. -/
theorem alike {R : α → β → Prop} (hy : Vain late y) (f : Fault) : Alike R late (.error f) y := by
  cases y with
  | error f' => exact .error f f'
  | ok b => exact .late f (hy b rfl)

end Vain

/-- The parenthesis behind the pattern has been passed. -/
def Gone (r : Reader) : Prop := r.rest <:+ behind.tail

theorem Gone.of_eq {r : Reader} (h : r.rest = behind.tail) : Gone r :=
  List.suffix_iff_eq_append.2 (by rw [h]; rfl)

/-- Behind the parenthesis there are no blanks. -/
theorem rest_passOver_of_behind {r : Reader} (h : r.rest = behind) :
    r.passOver.rest = behind.tail := by
  have hpass : r.pass.rest = behind.tail := by rw [Reader.rest_pass, h]
  rw [Reader.passOver, Reader.skip_of_head (by rw [hpass]; rfl) isBlankChar_backslash
    (by decide), hpass]

variable {P : Text} {r r' : Reader}

namespace Read

/-! ### Numbers -/

/-- Nothing is collected in front of a character that does not pass. -/
theorem collect_of_stop {p : Char → Bool} (h : ∀ c ∈ r.rest.head?, p c = false) (fuel : Nat) :
    collect p fuel r = .ok ([], r) := by
  cases fuel with
  | zero => rfl
  | succ fuel =>
    rw [collect, peek_bind]
    cases hc : r.rest.head? with
    | none => rfl
    | some c => simp [h c hc, pure_run]

theorem alike_collect {p : Char → Bool} (hp : p ')' = false) (h : Enclosed P r r')
    {fuel fuel' n : Nat} (hfuel : r.rest.length ≤ fuel) (hfuel' : r'.rest.length ≤ fuel')
    (hn : r.rest.length ≤ n) :
    Alike (Beside P Eq n) Prompt (collect p fuel r) (collect p fuel' r') := by
  have hstopped {r r' : Reader} (h : Enclosed P r r') (hn : r.rest.length ≤ n)
      (hstop : ∀ c ∈ r.rest.head?, p c = false) (fuel fuel' : Nat) :
      Alike (Beside P Eq n) Prompt (collect p fuel r) (collect p fuel' r') := by
    have hstop' : ∀ c ∈ r'.rest.head?, p c = false := by
      rcases h.cases with ⟨⟨c, hc, hc'⟩, -⟩ | ⟨-, hr'⟩ | ⟨-, hr'⟩
      · rwa [hc', ← hc]
      · simpa [hr', behind] using hp
      · simp [hr']
    rw [collect_of_stop hstop, collect_of_stop hstop']
    exact .ok ⟨rfl, h, hn⟩
  induction fuel generalizing fuel' r r' with
  | zero => exact hstopped h hn (by simp [List.length_eq_zero_iff.1 (Nat.le_zero.1 hfuel)]) _ _
  | succ fuel ih =>
    rcases h.cases with ⟨⟨c, hc, hc'⟩, hne, hne'⟩ | ⟨hr, -⟩ | ⟨hr, -⟩
    · by_cases hpc : p c = true
      · have hlt := Reader.length_passOver_lt hne
        have hlt' := Reader.length_passOver_lt hne'
        obtain ⟨fuel', rfl⟩ := Nat.exists_eq_succ_of_ne_zero (show fuel' ≠ 0 by omega)
        rw [collect, collect, peek_bind, peek_bind, hc, hc']
        simp only [hpc, if_true, bumpOver_bind]
        refine (ih (h.passOver hne) (by omega) (by omega) (by omega)).bind_prompt ?_
        rintro ⟨t, s⟩ ⟨_, s'⟩ ⟨rfl, hs, hlength⟩
        exact .ok ⟨rfl, hs, hlength⟩
      · exact hstopped h hn (by simpa [hc] using hpc) _ _
    · exact hstopped h hn (by simp [hr]) _ _
    · exact hstopped h hn (by simp [hr]) _ _

/-- Two numbers that are read are the same, or neither is one. -/
def SameNumber (x y : Except Fault Nat) : Prop := Alike Eq Prompt x y

theorem alike_decimal (h : Enclosed P r r') {n : Nat} (hn : r.rest.length ≤ n) :
    Alike (Beside P SameNumber n) Prompt (decimal r) (decimal r') := by
  have hblank := isBlankChar_parenthesis
  have hdigit : (fun c ↦ (Text.digit? c).isSome) ')' = false := by decide
  have hskipped (r : Reader) : (r.skipWhile isBlankChar).rest.length ≤ r.rest.length :=
    (List.dropWhile_suffix _).length_le
  have hle := hskipped r
  rw [decimal, skipWhile_bind, skipWhile_bind, pos_bind, pos_bind, get_bind, get_bind]
  refine (alike_collect hdigit (h.skipWhile hblank) (Nat.le_refl _) (Nat.le_refl _)
    (Nat.le_refl _)).bind_prompt ?_
  rintro ⟨digits, s⟩ ⟨_, s'⟩ ⟨rfl, hs, hlength⟩
  have hle' := hskipped s
  have hlength' : (s.skipWhile isBlankChar).rest.length ≤ n := by omega
  simp only [pos_bind, skipWhile_bind]
  cases Text.toNat? digits with
  | none => exact .ok ⟨.error _ _, hs.skipWhile hblank, hlength'⟩
  | some k =>
    dsimp only
    by_cases hk : k ≤ maxCount
    · simp only [hk, if_true]
      exact .ok ⟨.ok rfl, hs.skipWhile hblank, hlength'⟩
    · simp only [hk, if_false]
      exact .ok ⟨.error _ _, hs.skipWhile hblank, hlength'⟩

/-! ### Faults -/

section faults

variable {α β : Type} (r : Reader) (kind : FaultKind)

theorem faultHere_run : (faultHere kind : Read α) r = .error ⟨kind, ⟨r.pos, r.pos⟩, none⟩ := rfl

theorem faultAtChar_run :
    (faultAtChar kind : Read α) r = .error ⟨kind, ⟨r.pos, r.pass.pos⟩, none⟩ :=
  charSpan_bind r fun span ↦ fault kind span none

theorem faultHere_bind (next : α → Read β) :
    ((faultHere kind : Read α) >>= next) r = .error ⟨kind, ⟨r.pos, r.pos⟩, none⟩ := rfl

theorem faultFrom_bind (start stop : Position) (next : α → Read β) :
    ((faultFrom kind start stop : Read α) >>= next) r = .error ⟨kind, ⟨start, stop⟩, none⟩ := rfl

theorem bind_of_ok {m : Read α} {a : α} {s : Reader} (h : m r = .ok (a, s)) (next : α → Read β) :
    (m >>= next) r = next a s := by
  show (m r >>= fun x ↦ next x.1 x.2) = _
  rw [h]
  rfl

/-- Behind a fault nothing is read. -/
theorem bind_of_error {m : Read α} {f : Fault} (h : m r = .error f) (next : α → Read β) :
    (m >>= next) r = .error f := by
  show (m r >>= fun x ↦ next x.1 x.2) = _
  rw [h]
  rfl

end faults

/-- Where something must follow, only the second reader goes on at the end of the pattern. -/
theorem alike_unlessEmpty {α β : Type} {R : α → β → Prop} {late : β → Prop} {f f' : Fault}
    {x : Except Fault α} {y : Except Fault β} (h : Enclosed P r r')
    (hmore : r.rest ≠ [] → r'.rest ≠ [] → Alike R late x y)
    (hend : r.rest = [] → r'.rest = behind → ∀ f, Alike R late (.error f) y) :
    Alike R late (if r.rest.isEmpty then .error f else x)
      (if r'.rest.isEmpty then .error f' else y) := by
  rcases h.cases with ⟨-, hne, hne'⟩ | ⟨hr, hr'⟩ | ⟨hr, hr'⟩
  · rw [if_neg (by simpa using hne), if_neg (by simpa using hne')]
    exact hmore hne hne'
  · rw [if_pos (List.isEmpty_iff.2 hr), if_neg (by simp [hr', behind])]
    exact hend hr hr' f
  · rw [if_pos (List.isEmpty_iff.2 hr), if_pos (List.isEmpty_iff.2 hr')]
    exact .error f f'

end Read

end LineShell.Regex
