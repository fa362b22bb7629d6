import LineShell.Proofs.Application.NamedFiles
import LineShell.Proofs.Regex.Boundaries

/-!
# Whole words

With `-w` the pattern of `grep` stands as a text in a group between word boundaries. Where the
pattern is accepted alone and in the group, the switch does what it is for: a line is selected if a
match of the pattern by itself begins and ends at the boundary of a word, whatever alternatives,
groups and flags the pattern has (`whole_words_restrict`).

The two are not accepted together in a few cases. A parenthesis of the pattern can close the group,
and a question mark at its beginning can change the group, so that a pattern that is refused by
itself is accepted with `-w`. A comment that is open at the end of the pattern takes the end of the
group, and the group counts for the nesting, so that a pattern that is accepted is refused with
`-w`. There are no other cases as long as the size of a matcher is not limited, which is assumed
(`Matcher.compile`): the group and its boundaries make the matcher of a pattern a little larger, so
that a limit could fall between the two.
-/

namespace LineShell

/-- Whether something is wrong with a pattern. -/
def ShellError.isPattern : ShellError → Bool
  | pattern _ _ => true
  | _ => false

namespace Application

open Act Regex

variable {arguments paths : List Text} {whole ignoreCase : Bool} {P : Text} {context : Nat}

/-! ### Arguments -/

/-- Accepted arguments of `grep`, and what they give. -/
def Greps (arguments : List Text) (whole ignoreCase : Bool) (pattern : Text) (context : Nat)
    (paths : List Text) : Prop :=
  ∃ given, grepUsage.read arguments = .ok (.run given) ∧ given.texts = pattern :: paths ∧
    given.has 'w' = whole ∧ given.has 'i' = ignoreCase ∧ given.count 'A' 0 = context

/-- There is a place for every operand of `grep`, and none is for a number. -/
theorem exists_place_grepUsage (count : Nat) :
    ∃ place, grepUsage.place? count = some place ∧ place.isNumber = false := by
  rcases count with _ | _ | count
  · exact ⟨_, rfl, rfl⟩
  · exact ⟨_, rfl, rfl⟩
  · exact ⟨_, rfl, rfl⟩

/-- Arguments that search for the pattern, whatever it begins with. -/
def searching (whole ignoreCase : Bool) (pattern : Text) (paths : List Text) : List Text :=
  (if whole then ["-w".toList] else []) ++ (if ignoreCase then ["-i".toList] else []) ++
    Usage.dashes :: pattern :: paths

/-- Every pattern can be searched for. -/
theorem greps_searching (whole ignoreCase : Bool) (P : Text) (paths : List Text) :
    Greps (searching whole ignoreCase P paths) whole ignoreCase P 0 paths := by
  let options : List (Char × Option ArgumentValue) :=
    (if ignoreCase then [('i', none)] else []) ++ if whole then [('w', none)] else []
  have hfront : ((if whole then ["-w".toList] else []) ++
      (if ignoreCase then ["-i".toList] else []) ++ [Usage.dashes]).foldlM grepUsage.readArgument
      {} = .ok { ended := true, given := ⟨options, []⟩ } := by
    cases whole <;> cases ignoreCase <;> rfl
  have hback : (P :: paths).foldlM grepUsage.readArgument
      { ended := true, given := ⟨options, []⟩ } =
        .ok { ended := true, given := ⟨options, (P :: paths).map .text⟩ } :=
    Usage.foldlM_operands exists_place_grepUsage rfl rfl _
  have hall : (searching whole ignoreCase P paths).foldlM grepUsage.readArgument {} =
      .ok { ended := true, given := ⟨options, (P :: paths).map .text⟩ } := by
    rw [searching, List.append_cons, List.foldlM_append, hfront]
    exact hback
  have htexts : (Given.mk options ((P :: paths).map .text)).texts = P :: paths := by
    rw [Given.texts, List.filterMap_map]
    exact List.filterMap_some
  have hmissing : grepUsage.missing ⟨options, (P :: paths).map .text⟩ = [] := by
    cases paths with
    | nil => rfl
    | cons path rest =>
      have hlength : grepUsage.operands.length ≤
          ((P :: path :: rest).map ArgumentValue.text).length := Nat.le_add_left 2 _
      rw [Usage.missing, List.drop_eq_nil_of_le hlength]
      rfl
  refine ⟨⟨options, (P :: paths).map .text⟩, ?_, htexts, ?_, ?_, ?_⟩
  · rw [Usage.read, hall]
    simp only [bind, Except.bind, hmissing]
    rfl
  · cases whole <;> cases ignoreCase <;> rfl
  · cases whole <;> cases ignoreCase <;> rfl
  · cases whole <;> cases ignoreCase <;> rfl

/-! ### Running -/

/-- Shows the matching lines of the files, or of the input. -/
def showMatches (r : Matcher) (context : Nat) : List Text → Act Unit
  | [] => do
    writeLines grepName (matchingLines r context [] (← readInput grepName Source.readLines))
  | paths => searchFiles r context (1 < paths.length) paths

theorem run_of_greps (h : Greps arguments whole ignoreCase P context paths) :
    grep.run arguments =
      match Matcher.compile ignoreCase (if whole then wholeWords P else P) with
      | .error f => throw (.pattern grepName (.regex (if whole then wholeWords P else P) f))
      | .ok r => showMatches r context paths := by
  obtain ⟨given, hread, htexts, rfl, rfl, rfl⟩ := h
  simp only [grep, Application.ofUsage, hread, htexts, List.head?_cons, Option.getD_some,
    List.drop_one, List.tail_cons]
  cases Matcher.compile (given.has 'i') (if given.has 'w' then wholeWords P else P) with
  | error f => rfl
  | ok r => cases paths <;> rfl

/-- `grep` fails because of its pattern. -/
def FailsBy (arguments : List Text) (w : World) (f : Fault) : Prop :=
  ∃ pattern, ((grep.run arguments).run.run w).1 = .error (.pattern grepName (.regex pattern f))

/-- Once there is a matcher nothing is wrong with a pattern. -/
theorem raises_showMatches (r : Matcher) (context : Nat) (paths : List Text) :
    (showMatches r context paths).Raises fun e ↦ e.isPattern = false := by
  have hstream : ∀ f, (ShellError.stream grepName f).isPattern = false := fun _ ↦ rfl
  have hfiles : ∀ labelled paths,
      (searchFiles r context labelled paths).Raises fun e ↦ e.isPattern = false := by
    intro labelled paths
    induction paths with
    | nil => exact .pure _
    | cons path rest ih =>
      exact .bind (.bind (.openFile rfl fun _ ↦ rfl) fun _ ↦ .ofReading hstream _) fun _ ↦
        .bind (.write hstream _) fun _ ↦ ih
  cases paths with
  | nil => exact .bind (.readInput hstream (by rfl) _) fun _ ↦ .write hstream _
  | cons path rest => exact hfiles _ _

theorem failsBy_iff (h : Greps arguments whole ignoreCase P context paths) (w : World) (f : Fault) :
    FailsBy arguments w f ↔
      Matcher.compile ignoreCase (if whole then wholeWords P else P) = .error f := by
  rw [FailsBy, run_of_greps h]
  cases Matcher.compile ignoreCase (if whole then wholeWords P else P) with
  | error f' =>
    constructor
    · rintro ⟨pattern, hfail⟩
      injection hfail with hfail
      injection hfail with _ hfail
      injection hfail with _ hfail
      rw [hfail]
    · intro hfail
      obtain rfl := Except.error.inj hfail
      exact ⟨_, rfl⟩
  | ok r =>
    refine ⟨?_, nofun⟩
    rintro ⟨pattern, hfail⟩
    cases raises_showMatches r context paths w _ hfail

/-! ### Lines without context -/

theorem shownFrom_zero (matched : List Bool) : shownFrom 0 0 matched = matched := by
  induction matched with
  | nil => rfl
  | cons m rest ih =>
    cases m with
    | true => exact congrArg (true :: ·) ih
    | false => exact congrArg (false :: ·) ih

theorem withMarks_false (isMatch : Text → Bool) (label : Text) (shown skipped : Bool)
    (lines : List Text) :
    withMarks false shown skipped ((lines.map (label ++ ·)).zip (lines.map isMatch)) =
      (lines.filter isMatch).map (label ++ ·) := by
  induction lines generalizing shown skipped with
  | nil => rfl
  | cons line lines ih =>
    rw [List.map_cons, List.map_cons, List.zip_cons_cons]
    cases hmatch : isMatch line with
    | true =>
      rw [List.filter_cons_of_pos hmatch, List.map_cons, withMarks, ih]
      rfl
    | false => rw [List.filter_cons_of_neg (Bool.eq_false_iff.1 hmatch), withMarks, ih]

/-- Without context the lines that match are shown. -/
theorem matchingLines_zero (r : Matcher) (label : Text) (lines : List Text) :
    matchingLines r 0 label lines = (lines.filter r.isMatch).map (label ++ ·) := by
  rw [matchingLines, shownFrom_zero]
  exact withMarks_false r.isMatch label false false lines

/-! ### The switch -/

/-- **The switch for whole words restricts.** Where `grep` fails because of a pattern it fails with
`-w` too, unless a parenthesis of the pattern closes nothing or the pattern begins with a mark; and
where it fails with `-w` it fails without, unless the group makes it nest too deep or a comment at
the end of the pattern takes the end of the group. Where it fails neither way both ways show lines
alike, without the switch those in which the expression of the pattern matches, and with it those in
which it does between two word boundaries. -/
theorem whole_words_restrict {plain words : List Text}
    (hplain : Greps plain false ignoreCase P context paths)
    (hwords : Greps words true ignoreCase P context paths) :
    (∀ w f, FailsBy plain w f → f.kind ≠ .groupUnopened → P.head? ≠ some '?' →
      ∃ f', FailsBy words w f') ∧
    (∀ w f, FailsBy words w f → f.kind ≠ .nestedTooDeep →
      ¬ (f.kind = .groupUnclosed ∧ EndsInComment P) → ∃ f', FailsBy plain w f') ∧
    ∀ w, (∀ f, ¬ FailsBy plain w f) → (∀ f, ¬ FailsBy words w f) →
      ∃ e m m', Means ignoreCase P e ∧
        grep.run plain = showMatches m context paths ∧
        grep.run words = showMatches m' context paths ∧
        (∀ line, m.isMatch line = true ↔ ∃ p q, e.MatchesIn line p q) ∧
        (∀ line, m'.isMatch line = true ↔
          ∃ p q, e.MatchesIn line p q ∧ p.AtBoundary ∧ q.AtBoundary) ∧
        ∀ label lines,
          (matchingLines m' 0 label lines).Sublist (matchingLines m 0 label lines) := by
  have hrun := run_of_greps hplain
  have hrun' := run_of_greps hwords
  simp only [failsBy_iff hplain, failsBy_iff hwords, if_true, Bool.false_eq_true, if_false]
    at hrun hrun' ⊢
  have hrestricts := restricts_compile ignoreCase P
  generalize Matcher.compile ignoreCase P = x at *
  generalize Matcher.compile ignoreCase (wholeWords P) = x' at *
  cases hrestricts with
  | neither f f' =>
    exact ⟨fun _ _ _ _ _ ↦ ⟨f', rfl⟩, fun _ _ _ _ _ ↦ ⟨f, rfl⟩,
      fun _ hnone _ ↦ (hnone f rfl).elim⟩
  | @first m f h =>
    refine ⟨fun _ _ hfail ↦ (nomatch hfail), fun _ _ hfail hdeep hcomment ↦ ?_,
      fun _ _ hnone ↦ (hnone f rfl).elim⟩
    obtain rfl := Except.error.inj hfail
    exact (h.elim hdeep hcomment).elim
  | @second f m h =>
    refine ⟨fun _ _ hfail hunopened hmark ↦ ?_, fun _ _ hfail ↦ (nomatch hfail),
      fun _ hnone _ ↦ (hnone f rfl).elim⟩
    obtain rfl := Except.error.inj hfail
    exact (h.elim hunopened hmark).elim
  | @both e m m' hmeans h h' =>
    refine ⟨fun _ _ hfail ↦ (nomatch hfail), fun _ _ hfail ↦ (nomatch hfail), fun _ _ _ ↦
      ⟨e, m, m', hmeans, hrun, hrun', h, h', fun label lines ↦ ?_⟩⟩
    rw [matchingLines_zero, matchingLines_zero]
    refine (List.monotone_filter_right lines fun line hline ↦ ?_).map _
    obtain ⟨p, q, hmatch, -⟩ := (h' line).1 hline
    exact (h line).2 ⟨p, q, hmatch⟩

/-- Both alternatives are held to the boundaries. -/
theorem whole_words_restrict_alternatives :
    let P := "ab|c".toList
    let plain := searching false false P []
    let words := searching true false P []
    let w : World := ⟨{ workingDir := [Path.slash] }, .empty,
      some (.bytes (Text.encode "ab c\nxc\nxab\n".toList)), .sink .fresh⟩
    let written (arguments : List Text) : Bytes :=
      match ((grep.run arguments).run.run w).2.output with
      | .sink s => s.bytes
      | .file _ => []
    Greps plain false false P 0 [] ∧ Greps words true false P 0 [] ∧
    (∀ f, ¬ FailsBy plain w f) ∧ (∀ f, ¬ FailsBy words w f) ∧
    written plain = Text.encode "ab c\nxc\nxab\n".toList ∧
    written words = Text.encode "ab c\n".toList ∧
    ∃ e m m', Means false P e ∧
      grep.run plain = showMatches m 0 [] ∧ grep.run words = showMatches m' 0 [] ∧
      (∀ line, m.isMatch line = true ↔ ∃ p q, e.MatchesIn line p q) ∧
      ∀ line, m'.isMatch line = true ↔
        ∃ p q, e.MatchesIn line p q ∧ p.AtBoundary ∧ q.AtBoundary := by
  intro P plain words w written
  have hplain : Greps plain false false P 0 [] := greps_searching false false P []
  have hwords : Greps words true false P 0 [] := greps_searching true false P []
  have hran : ((grep.run plain).run.run w).1 = .ok () := by decide +kernel
  have hran' : ((grep.run words).run.run w).1 = .ok () := by decide +kernel
  have hnone : ∀ f, ¬ FailsBy plain w f := by
    rintro f ⟨pattern, hfail⟩
    cases hran.symm.trans hfail
  have hnone' : ∀ f, ¬ FailsBy words w f := by
    rintro f ⟨pattern, hfail⟩
    cases hran'.symm.trans hfail
  obtain ⟨e, m, m', hmeans, hrun, hrun', h, h', -⟩ :=
    (whole_words_restrict hplain hwords).2.2 w hnone hnone'
  exact ⟨hplain, hwords, hnone, hnone', by decide +kernel, by decide +kernel, e, m, m', hmeans,
    hrun, hrun', h, h'⟩

/-- A parenthesis of the pattern closes the group, so that what is refused is accepted with the
switch; and a comment takes the end of the group, so that what is accepted is refused with it. -/
theorem whole_words_lose_the_group :
    let w : World := ⟨{ workingDir := [Path.slash] }, .empty,
      some (.bytes (Text.encode "ab\n".toList)), .sink .fresh⟩
    let closing := "a)(b".toList
    let comment := "(?x)ab #c".toList
    (∃ f, FailsBy (searching false false closing []) w f) ∧
    (∀ f, ¬ FailsBy (searching true false closing []) w f) ∧
    (∀ f, ¬ FailsBy (searching false false comment []) w f) ∧
    ∃ f, FailsBy (searching true false comment []) w f := by
  intro w closing comment
  have hran : ((grep.run (searching true false closing [])).run.run w).1 = .ok () := by
    decide +kernel
  have hran' : ((grep.run (searching false false comment [])).run.run w).1 = .ok () := by
    decide +kernel
  refine ⟨?_, ?_, ?_, ?_⟩
  · refine ⟨⟨.groupUnopened, ⟨⟨1, 1, 2⟩, ⟨2, 1, 3⟩⟩, none⟩, closing, ?_⟩
    decide +kernel
  · rintro f ⟨pattern, hfail⟩
    cases hran.symm.trans hfail
  · rintro f ⟨pattern, hfail⟩
    cases hran'.symm.trans hfail
  · refine ⟨⟨.groupUnclosed, ⟨⟨2, 1, 3⟩, ⟨3, 1, 4⟩⟩, none⟩, wholeWords comment, ?_⟩
    decide +kernel

end Application

end LineShell
