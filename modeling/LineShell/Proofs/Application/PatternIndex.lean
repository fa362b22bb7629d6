import LineShell.Application.Find
import LineShell.Application.Search
import LineShell.Application.Substitute
import LineShell.Glob.Expansion
import LineShell.Proofs.Options.FirstOperand

/-!
# The argument that is not expanded

`grep`, `sed` and `find` have a pattern of their own among their arguments, which is not expanded to
paths. It is found before the arguments are read, so each of them finds it in its own way: `grep`
looks for the first argument that is neither an option nor the value of one, `sed` takes the first
argument, and `find` the last.

The way of `find` always agrees with its reading. Those of `grep` and `sed` do not know what `--`
means. `patternIndex_eq_iff` says where they agree with the reading of the arguments: that of `grep`
unless the pattern itself begins with a dash, that of `sed` unless `--` stands in front.
-/

namespace LineShell

namespace Application

open Usage (Front TakesFirst dashes)

/-! ### Expansion around one argument -/

variable {files : Files} {dir : Path} {arguments front back : List Text} {pattern : Text} {i : Nat}

/-- What one argument is expanded to when it is not kept. -/
def expandOne (files : Files) (dir : Path) (argument : Text) : List Text :=
  if star ∉ argument then [argument] else Glob.expand files dir argument

theorem flatMap_zipIdx_eq (files : Files) (dir : Path) (arguments : List Text)
    {kept : Option Nat} (k : Nat)
    (h : ∀ j, k ≤ j → j < k + arguments.length → some j ≠ kept) :
    (arguments.zipIdx k).flatMap (fun (argument, j) ↦
      if some j = kept ∨ star ∉ argument then [argument] else Glob.expand files dir argument) =
      arguments.flatMap (expandOne files dir) := by
  induction arguments generalizing k with
  | nil => rfl
  | cons argument rest ih =>
    have hfirst : some k ≠ kept := h k (Nat.le_refl k) (by simp)
    have hrest := ih (k + 1) fun j hj hlt ↦ h j (by omega) (by rw [List.length_cons]; omega)
    rw [List.zipIdx_cons, List.flatMap_cons, List.flatMap_cons, hrest]
    simp only [hfirst, false_or, expandOne]

theorem expandArguments_append (files : Files) (dir : Path) (front : List Text) (pattern : Text)
    (back : List Text) :
    Glob.expandArguments files dir (some front.length) (front ++ pattern :: back) =
      front.flatMap (expandOne files dir) ++ pattern :: back.flatMap (expandOne files dir) := by
  rw [Glob.expandArguments, List.zipIdx_append, List.flatMap_append, List.zipIdx_cons,
    List.flatMap_cons, Nat.zero_add, flatMap_zipIdx_eq files dir front 0,
    flatMap_zipIdx_eq files dir back (front.length + 1)]
  · simp
  · intro j hle _ hj
    obtain rfl := Option.some.inj hj
    omega
  · intro j _ hlt hj
    obtain rfl := Option.some.inj hj
    omega

/-- **The argument at the kept index is not expanded**, and every other one is. -/
theorem expandArguments_kept (files : Files) (dir : Path) (h : arguments[i]? = some pattern) :
    Glob.expandArguments files dir (some i) arguments =
      (arguments.take i).flatMap (expandOne files dir) ++
        pattern :: (arguments.drop (i + 1)).flatMap (expandOne files dir) := by
  obtain ⟨hi, hpattern⟩ := List.getElem?_eq_some_iff.1 h
  have hexpanded := expandArguments_append files dir (arguments.take i) arguments[i]
    (arguments.drop (i + 1))
  rw [← List.drop_eq_getElem_cons hi, List.take_append_drop, List.length_take,
    Nat.min_eq_left (Nat.le_of_lt hi), hpattern] at hexpanded
  exact hexpanded

/-! ### The scan of `grep` -/

/-- The arguments behind which the scan goes on with the next one. -/
def Skipped (argument : Text) : Prop :=
  argument.head? = some '-' ∧ 1 < argument.length ∧
    ¬ (argument = "-A".toList ∨ argument = "--after-context".toList)

instance (argument : Text) : Decidable (Skipped argument) := inferInstanceAs (Decidable (_ ∧ _ ∧ _))

theorem grepPatternFrom_skipped {argument : Text} (h : Skipped argument) (index : Nat)
    (rest : List Text) :
    grepPatternFrom index (argument :: rest) = grepPatternFrom (index + 1) rest := by
  rw [grepPatternFrom.eq_def]
  simp only [if_neg h.2.2]
  exact if_pos ⟨h.1, h.2.1⟩

/-- The scan knows the switches, and the option with a value. -/
theorem option_grepUsage {name : Text} {o : OptionSpec} (h : grepUsage.option? name = some o) :
    (o.kind = .switch → Skipped name) ∧
      (o.kind ≠ .switch → name = "-A".toList ∨ name = "--after-context".toList) := by
  have hall : ∀ o ∈ grepUsage.options, ∀ name ∈ [o.shortName, o.longName],
      (o.kind = .switch → Skipped name) ∧
        (o.kind ≠ .switch → name = "-A".toList ∨ name = "--after-context".toList) := by
    decide
  obtain ⟨ho, hname⟩ := Usage.mem_of_option?_eq_some h
  exact hall o ho name hname

/-- The scan passes over all that can stand in front of the pattern. -/
theorem grepPatternFrom_front (h : Front grepUsage front) (index : Nat) (rest : List Text) :
    grepPatternFrom index (front ++ rest) = grepPatternFrom (index + front.length) rest := by
  induction h generalizing index with
  | nil => rfl
  | @switch name o front ho hkind _ ih =>
    have hstep := grepPatternFrom_skipped ((option_grepUsage ho).1 hkind) index (front ++ rest)
    rw [List.cons_append, hstep, ih, List.length_cons]
    congr 1
    omega
  | @value name value o front ho hkind _ ih =>
    have hstep : grepPatternFrom index (name :: value :: (front ++ rest)) =
        grepPatternFrom (index + 2) (front ++ rest) := by
      rw [grepPatternFrom, if_pos ((option_grepUsage ho).2 hkind)]
    rw [List.cons_append, List.cons_append, hstep, ih, List.length_cons, List.length_cons]
    congr 1
    omega
  | ended => exact grepPatternFrom_skipped (by decide) index rest

theorem le_of_grepPatternFrom {index : Nat} (h : grepPatternFrom index arguments = some i) :
    index ≤ i := by
  fun_induction grepPatternFrom index arguments with
  | case1 => cases h
  | case2 => cases h
  | case3 index argument hoption value rest ih => exact Nat.le_of_add_right_le (ih h)
  | case4 index argument rest hoption hdash ih => exact Nat.le_of_add_right_le (ih h)
  | case5 index => exact Nat.le_of_eq (Option.some.inj h)

/-- The scan stops at an argument unless it begins with a dash and has more. -/
theorem grepPatternFrom_cons_eq_iff (index : Nat) :
    grepPatternFrom index (pattern :: back) = some index ↔
      ¬ (pattern.head? = some '-' ∧ 1 < pattern.length) := by
  rw [grepPatternFrom.eq_def]
  dsimp only
  split
  next hoption =>
    have hdash : pattern.head? = some '-' ∧ 1 < pattern.length := by
      rcases hoption with rfl | rfl <;> decide
    refine iff_of_false ?_ (not_not_intro hdash)
    split
    · intro h
      cases h
    · intro h
      have := le_of_grepPatternFrom h
      omega
  next =>
    split
    next hdash =>
      refine iff_of_false (fun h ↦ ?_) (not_not_intro hdash)
      have := le_of_grepPatternFrom h
      omega
    next hdash => exact iff_of_true rfl hdash

/-! ### The place of `sed` -/

/-- Only `--` can stand in front of the expression. -/
theorem front_sedUsage (h : Front sedUsage front) : front = [] ∨ front = [dashes] := by
  cases h with
  | nil => exact .inl rfl
  | switch ho => cases ho
  | value ho => cases ho
  | ended => exact .inr rfl

/-! ### The agreement -/

theorem patternIndex_grep_iff {given : Given}
    (hread : grepUsage.read arguments = .ok (.run given))
    (h : grepUsage.TakesFirst arguments i pattern) :
    grep.patternIndex arguments = some i ↔ ¬ (pattern.head? = some '-' ∧ 1 < pattern.length) := by
  obtain ⟨front, operand, back, rfl, hdivides, htakes⟩ :=
    Usage.exists_takesFirst (u := grepUsage) rfl rfl rfl hread
  obtain ⟨rfl, rfl⟩ := h.unique htakes
  show grepPatternFrom 0 _ = _ ↔ _
  rw [grepPatternFrom_front hdivides.isFront, Nat.zero_add, grepPatternFrom_cons_eq_iff]

theorem patternIndex_sed_iff {given : Given}
    (hread : sedUsage.read arguments = .ok (.run given))
    (h : sedUsage.TakesFirst arguments i pattern) :
    sed.patternIndex arguments = some i ↔ arguments.head? ≠ some dashes := by
  obtain ⟨front, operand, back, rfl, hdivides, htakes⟩ :=
    Usage.exists_takesFirst (u := sedUsage) rfl rfl rfl hread
  obtain ⟨rfl, rfl⟩ := h.unique htakes
  show some 0 = _ ↔ _
  rcases front_sedUsage hdivides.isFront with rfl | rfl
  · refine iff_of_true rfl fun hdashes ↦ ?_
    obtain rfl := Option.some.inj hdashes
    rcases hdivides.dash with hlast | hfirst
    · cases hlast
    · exact hfirst rfl
  · exact iff_of_false (fun h ↦ nomatch Option.some.inj h) (not_not_intro rfl)

/-- Arguments with which `find` does not fail at once end with the pattern. -/
theorem run_find_cases (arguments : List Text) :
    (∃ f, find.run arguments = Act.failArgument findName f) ∨
      ∃ root flag pattern i, find.run arguments = searchRoot root flag pattern ∧
        arguments[i]? = some pattern ∧ find.patternIndex arguments = some i := by
  obtain _ | ⟨first, _ | ⟨second, _ | ⟨third, _ | ⟨fourth, rest⟩⟩⟩⟩ := arguments
  · exact .inl ⟨_, rfl⟩
  · exact .inl ⟨_, rfl⟩
  · exact .inr ⟨['.'], first, second, 1, rfl, rfl, rfl⟩
  · exact .inr ⟨first, second, third, 2, rfl, rfl, rfl⟩
  · exact .inl ⟨_, rfl⟩

/-- **Where the argument that is not expanded is the pattern.** Accepted arguments of `grep` and of
`sed` have a first operand, which is the pattern. That of `grep` is kept from expansion unless it
begins with a dash and has more, and so stands behind `--`; that of `sed` is kept unless `--` stands
in front of it. Whatever `find` takes as its pattern is kept. And an argument that is kept comes to
the application as it was written, between what the others are expanded to. -/
theorem patternIndex_eq_iff (arguments : List Text) :
    (∀ given, grepUsage.read arguments = .ok (.run given) →
      (∃ i pattern, grepUsage.TakesFirst arguments i pattern) ∧
      ∀ i pattern, grepUsage.TakesFirst arguments i pattern →
        given.texts.head? = some pattern ∧
        (grep.patternIndex arguments = some i ↔
          ¬ (pattern.head? = some '-' ∧ 1 < pattern.length))) ∧
    (∀ given, sedUsage.read arguments = .ok (.run given) →
      (∃ i pattern, sedUsage.TakesFirst arguments i pattern) ∧
      ∀ i pattern, sedUsage.TakesFirst arguments i pattern →
        given.texts.head? = some pattern ∧
        (sed.patternIndex arguments = some i ↔ arguments.head? ≠ some dashes)) ∧
    ((∃ f, find.run arguments = Act.failArgument findName f) ∨
      ∃ root flag pattern i, find.run arguments = searchRoot root flag pattern ∧
        arguments[i]? = some pattern ∧ find.patternIndex arguments = some i) ∧
    ∀ (app : Application) files dir i pattern, arguments[i]? = some pattern →
      app.patternIndex arguments = some i →
      Glob.expandArguments files dir (app.patternIndex arguments) arguments =
        (arguments.take i).flatMap (expandOne files dir) ++
          pattern :: (arguments.drop (i + 1)).flatMap (expandOne files dir) := by
  refine ⟨fun given hread ↦ ⟨?_, fun i pattern h ↦ ?_⟩,
    fun given hread ↦ ⟨?_, fun i pattern h ↦ ?_⟩, run_find_cases arguments,
    fun app files dir i pattern h hkept ↦ ?_⟩
  · obtain ⟨front, operand, back, -, -, htakes⟩ :=
      Usage.exists_takesFirst (u := grepUsage) rfl rfl rfl hread
    exact ⟨_, _, htakes⟩
  · exact ⟨h.head?_texts hread, patternIndex_grep_iff hread h⟩
  · obtain ⟨front, operand, back, -, -, htakes⟩ :=
      Usage.exists_takesFirst (u := sedUsage) rfl rfl rfl hread
    exact ⟨_, _, htakes⟩
  · exact ⟨h.head?_texts hread, patternIndex_sed_iff hread h⟩
  · rw [hkept]
    exact expandArguments_kept files dir h

/-- A pattern behind a count, a switch and `--`. -/
theorem patternIndex_eq_iff_behind_options :
    let arguments := ["-A", "2", "-i", "--", "b*", "*.c"].map String.toList
    let given : Given :=
      ⟨[('i', none), ('A', some (.count 2))], [.text "b*".toList, .text "*.c".toList]⟩
    let files := Files.empty.writeFile (Path.ofText "/b.c".toList) []
    grepUsage.read arguments = .ok (.run given) ∧ grepUsage.TakesFirst arguments 4 "b*".toList ∧
    grep.patternIndex arguments = some 4 ∧
    Glob.expandArguments files [Path.slash] (grep.patternIndex arguments) arguments =
      ["-A", "2", "-i", "--", "b*", "b.c"].map String.toList := by
  intro arguments given files
  have hread : grepUsage.read arguments = .ok (.run given) := rfl
  have htakes : grepUsage.TakesFirst arguments 4 "b*".toList := ⟨rfl, _, _, rfl, rfl, rfl, rfl⟩
  obtain ⟨hgrep, -, -, hexpanded⟩ := patternIndex_eq_iff arguments
  have hkept : grep.patternIndex arguments = some 4 :=
    ((hgrep given hread).2 4 _ htakes).2.2 (by decide)
  refine ⟨hread, htakes, hkept, ?_⟩
  rw [hexpanded grep files _ 4 _ rfl hkept]
  decide +kernel

/-- Behind `--` the expression of `sed` is expanded to the path of a file. -/
theorem sed_expands_expression :
    let arguments := ["--", "s/a*/b/"].map String.toList
    let given : Given := ⟨[], [.text "s/a*/b/".toList]⟩
    let files := (Files.empty.makeDirectory (Path.ofText "/s".toList)).writeFile
      (Path.ofText "/s/aa".toList) []
    sedUsage.read arguments = .ok (.run given) ∧ sedUsage.TakesFirst arguments 1 "s/a*/b/".toList ∧
    sed.patternIndex arguments = some 0 ∧
    Glob.expandArguments files [Path.slash] (sed.patternIndex arguments) arguments =
      ["--", "s/aa/b"].map String.toList ∧
    ¬ ∀ arguments given i pattern, sedUsage.read arguments = .ok (.run given) →
      sedUsage.TakesFirst arguments i pattern → sed.patternIndex arguments = some i := by
  intro arguments given files
  have hread : sedUsage.read arguments = .ok (.run given) := rfl
  have htakes : sedUsage.TakesFirst arguments 1 "s/a*/b/".toList := ⟨rfl, _, _, rfl, rfl, rfl, rfl⟩
  refine ⟨hread, htakes, rfl, by decide +kernel, fun hall ↦ ?_⟩
  cases hall arguments given 1 _ hread htakes

end Application

end LineShell
