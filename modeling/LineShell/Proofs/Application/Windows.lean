import LineShell.Application.Windows
import LineShell.Proofs.Application.Scheme
import LineShell.Proofs.Stream.Sink

/-!
# What `grep` shows

`grep` shows the lines that stand in the window of a match: the line that matches and the lines of
context behind it. The windows may overlap, touch, or be cut off at the end; what is shown is their
union (`windowed`), every line once and in order, with a separator where lines were left out between
two shown ones (`inGroups`).

This is shown of both ways to find the lines. The one that counts down how many lines are still owed
shows a line exactly when it is in a window (`getElem?_shownFrom`). The one by indices marks exactly
the lines in a window (`marks?_eq`); it never takes an index that is out of range, since a window
starts at a line and is cut off behind the last one.

With several files `grep` shows the lines of one after the other, each as if it were alone
(`searchFiles_append`, `run_searchFiles`).
-/

namespace LineShell

/-! ### Lines of files, lines for a sink -/

/-- The path leads to a file with these lines. -/
def World.HasLines (w : World) (path : Text) (lines : List Text) : Prop :=
  ∃ content, w.files.read (w.env.resolve path) = .ok (.file content) ∧
    (Source.bytes content).readLines.1 = .ok lines

/-- The world with a sink for its output. -/
def World.withSink (w : World) (s : Sink) : World := { w with output := .sink s }

namespace Act

variable {w w' : World} {lines : List Text}

/-- Behind an action that succeeds the next one runs in the world that it left. -/
theorem run_bind_of_ok {α β : Type} {act : Act α} {next : α → Act β} {a : α}
    (h : act.run.run w = (.ok a, w')) : (act >>= next).run.run w = (next a).run.run w' := by
  simp only [ExceptT.run_bind, StateT.run_bind, h]
  rfl

theorem run_fileLines {path : Text} (h : w.HasLines path lines) (app : Text) :
    (fileLines app path).run.run w = (.ok lines, w) := by
  obtain ⟨content, hread, hlines⟩ := h
  have hopen : (openFile app path).run.run w = (.ok (.bytes content), w) := by
    rw [openFile, run_get_bind, hread]
    rfl
  rw [fileLines, run_bind_of_ok hopen, hlines]
  rfl

/-- A sink that accepts holds the lines that are written behind what it held. -/
theorem run_writeLines {s : Sink} (hsink : w.output = .sink s) (haccepts : s.refuses = false)
    (app : Text) (lines : List Text) :
    (writeLines app lines).run.run w =
      (.ok (), w.withSink (s.append (Text.unlines lines).encode)) := by
  simp only [writeLines, run_write, hsink, Sink.write_of_accepts haccepts, World.withSink]

end Act

namespace Application

open Act

variable {isMatch : Text → Bool} {context : Nat} {lines : List Text}

/-! ### The lines in windows -/

/-- The line at an index is in the window of a match. -/
def InWindow (isMatch : Text → Bool) (context : Nat) (lines : List Text) (i : Nat) : Prop :=
  ∃ j ≤ i, i ≤ j + context ∧ lines[j]?.any isMatch = true

instance : DecidablePred (InWindow isMatch context lines) := fun i ↦
  inferInstanceAs (Decidable (∃ j ≤ i, i ≤ j + context ∧ lines[j]?.any isMatch = true))

/-- The lines in windows, with their indices. -/
def windowed (isMatch : Text → Bool) (context : Nat) (lines : List Text) : List (Text × Nat) :=
  lines.zipIdx.filter fun numbered ↦ InWindow isMatch context lines numbered.2

/-- The separator between the lines at two indices, if it stands there. -/
def gap (separated : Bool) (i k : Nat) : List Text :=
  if separated ∧ k ≠ i + 1 then [groupMark] else []

/-- Numbered lines with the separators between them. -/
def inGroups (separated : Bool) (label : Text) : List (Text × Nat) → List Text
  | [] => []
  | [(line, _)] => [label ++ line]
  | (line, i) :: (next, k) :: rest =>
    (label ++ line) :: gap separated i k ++ inGroups separated label ((next, k) :: rest)

theorem mem_windowed_iff {line : Text} {i : Nat} :
    (line, i) ∈ windowed isMatch context lines ↔
      lines[i]? = some line ∧ InWindow isMatch context lines i := by
  rw [windowed, List.mem_filter, List.mem_zipIdx_iff_getElem?, decide_eq_true_iff]

/-- Every line stands there once, in order. -/
theorem windowed_sorted :
    (windowed isMatch context lines).Pairwise fun first next ↦ first.2 < next.2 := by
  have hindices : (lines.zipIdx.map Prod.snd).Pairwise (· < ·) := by
    rw [List.zipIdx_map_snd]
    exact List.pairwise_lt_range'
  exact (List.pairwise_map.1 hindices).filter _

/-- Numbered lines behind the one that was shown last, if there is one. -/
def groupsBehind (separated : Bool) (label : Text) (last : Option Nat) :
    List (Text × Nat) → List Text
  | [] => []
  | (line, i) :: rest =>
    (last.map (gap separated · i)).getD [] ++ inGroups separated label ((line, i) :: rest)

theorem groupsBehind_none (separated : Bool) (label : Text) (numbered : List (Text × Nat)) :
    groupsBehind separated label none numbered = inGroups separated label numbered := by
  cases numbered <;> rfl

theorem inGroups_cons (separated : Bool) (label line : Text) (i : Nat)
    (rest : List (Text × Nat)) :
    inGroups separated label ((line, i) :: rest) =
      (label ++ line) :: groupsBehind separated label (some i) rest := by
  cases rest <;> rfl

/-! ### Counting the lines that are owed -/

/-- **A line is shown if it is owed or in a window.** -/
theorem getElem?_shownFrom {left : Nat} (hleft : left ≤ context) (matched : List Bool) (i : Nat) :
    (shownFrom context left matched)[i]? = some true ↔
      i < matched.length ∧
        (i < left ∨ ∃ j ≤ i, i ≤ j + context ∧ matched[j]? = some true) := by
  induction matched generalizing left i with
  | nil => simp [shownFrom]
  | cons m rest ih =>
    cases i with
    | zero => cases m <;> simp [shownFrom]
    | succ i =>
      -- A match in front of the line is the first line or one of the others.
      have hfront : (∃ j ≤ i + 1, i + 1 ≤ j + context ∧ (m :: rest)[j]? = some true) ↔
          (i < context ∧ m = true) ∨ ∃ j ≤ i, i ≤ j + context ∧ rest[j]? = some true := by
        constructor
        · rintro ⟨_ | j, hj, hij, hmatch⟩
          · exact .inl ⟨by omega, Option.some.inj hmatch⟩
          · exact .inr ⟨j, by omega, by omega, hmatch⟩
        · rintro (⟨hi, rfl⟩ | ⟨j, hj, hij, hmatch⟩)
          · exact ⟨0, by omega, by omega, rfl⟩
          · exact ⟨j + 1, by omega, by omega, hmatch⟩
      cases m with
      | true =>
        rw [shownFrom, List.getElem?_cons_succ, ih (Nat.le_refl context), hfront]
        simp only [List.length_cons, and_true]
        have : i + 1 < left → i < context := by omega
        grind
      | false =>
        rw [shownFrom, List.getElem?_cons_succ, ih (by omega), hfront]
        simp only [List.length_cons, Bool.false_eq_true, and_false, false_or]
        grind

/-- Two lists of marks are the same if they are as long and mark the same places. -/
theorem eq_of_marked {marks marks' : List Bool} (hlength : marks.length = marks'.length)
    (h : ∀ i : Nat, marks[i]? = some true ↔ marks'[i]? = some true) : marks = marks' := by
  refine List.ext_getElem hlength fun i hi hi' ↦ Bool.eq_iff_iff.2 ?_
  simpa [hi, hi'] using h i

/-- The marks of the lines in windows. -/
def windowMarks (isMatch : Text → Bool) (context : Nat) (lines : List Text) : List Bool :=
  lines.zipIdx.map fun numbered ↦ InWindow isMatch context lines numbered.2

theorem getElem?_windowMarks (i : Nat) :
    (windowMarks isMatch context lines)[i]? = some true ↔
      i < lines.length ∧ InWindow isMatch context lines i := by
  rw [windowMarks, List.getElem?_map, List.getElem?_zipIdx]
  by_cases hi : i < lines.length
  · simp [hi]
  · simp [hi]

theorem length_shownFrom (left : Nat) (matched : List Bool) :
    (shownFrom context left matched).length = matched.length := by
  fun_induction shownFrom context left matched <;> simp_all

theorem shownFrom_eq :
    shownFrom context 0 (lines.map isMatch) = windowMarks isMatch context lines := by
  refine eq_of_marked ?_ fun i ↦ ?_
  · simp [length_shownFrom, windowMarks]
  · rw [getElem?_windowMarks, getElem?_shownFrom (Nat.zero_le context)]
    simp [InWindow, Option.any_eq_true]

/-- **Marked lines are shown in groups.** -/
theorem withMarks_eq (separated skipped : Bool) (label : Text) (shows : Nat → Bool)
    (last : Option Nat) (lines : List Text) (start : Nat)
    (hlast : ∀ i, last = some i → i < start ∧ skipped = (i + 1 < start : Bool)) :
    withMarks separated last.isSome skipped
        ((lines.zipIdx start).map fun numbered ↦ (label ++ numbered.1, shows numbered.2)) =
      groupsBehind separated label last
        ((lines.zipIdx start).filter fun numbered ↦ shows numbered.2) := by
  induction lines generalizing last start skipped with
  | nil => rfl
  | cons line rest ih =>
    rw [List.zipIdx_cons, List.map_cons]
    cases hshows : shows start with
    | true =>
      have hgap : (if separated && last.isSome && skipped then [groupMark] else []) =
          (last.map (gap separated · start)).getD [] := by
        cases last with
        | none => simp
        | some i =>
          obtain ⟨hi, rfl⟩ := hlast i rfl
          have : i + 1 < start ↔ start ≠ i + 1 := by omega
          simp [gap, this]
      rw [List.filter_cons, if_pos hshows, groupsBehind, inGroups_cons, withMarks, hgap,
        ← ih false (some start) (start + 1) (by simp)]
      rfl
    | false =>
      have hnext : ∀ i, last = some i → i < start + 1 ∧ true = (i + 1 < start + 1 : Bool) := by
        intro i hi
        obtain ⟨hlt, -⟩ := hlast i hi
        simp only [true_eq_decide_iff]
        omega
      rw [List.filter_cons, if_neg (by simp [hshows]), withMarks, ih true last (start + 1) hnext]

/-- **The lines that `grep` shows are those in windows, in groups.** -/
theorem matchingLines_eq (r : Regex.Matcher) (context : Nat) (label : Text) (lines : List Text) :
    matchingLines r context label lines =
      inGroups (0 < context) label (windowed r.isMatch context lines) := by
  have hlabelled : lines.map (label ++ ·) = lines.zipIdx.map fun numbered ↦ label ++ numbered.1 :=
    calc lines.map (label ++ ·) = (lines.zipIdx.map Prod.fst).map (label ++ ·) := by
          rw [List.zipIdx_map_fst]
      _ = lines.zipIdx.map fun numbered ↦ label ++ numbered.1 := List.map_map
  rw [matchingLines, shownFrom_eq, hlabelled, windowMarks, List.zip_map', ← groupsBehind_none]
  exact withMarks_eq _ false label (fun i ↦ InWindow r.isMatch context lines i) none lines 0
    (by simp)

/-! ### Marking by indices -/

namespace Windows

theorem add?_eq {a b : Nat} (h : a + b ≤ Text.maxCount) : add? a b = some (a + b) :=
  if_pos h

/-- A range in the list is marked, and nothing else is changed. -/
theorem exists_markRange? {marks : List Bool} {start stop : Nat} (hstart : start ≤ stop)
    (hstop : stop ≤ marks.length) :
    ∃ marks', markRange? marks start stop = some marks' ∧ marks'.length = marks.length ∧
      ∀ i : Nat, marks'[i]? = some true ↔ marks[i]? = some true ∨ start ≤ i ∧ i < stop := by
  refine ⟨_, if_pos ⟨hstart, hstop⟩, ?_, fun i ↦ ?_⟩
  · simp only [List.length_append, List.length_take, List.length_replicate, List.length_drop]
    omega
  · have hfront : (marks.take start ++ List.replicate (stop - start) true).length = stop := by
      simp only [List.length_append, List.length_take, List.length_replicate]
      omega
    have htake : (marks.take start).length = start := List.length_take_of_le (by omega)
    by_cases hbefore : i < stop
    · rw [List.getElem?_append_left (by omega), List.getElem?_append, htake]
      split
      · next hlt => simp [hlt, Nat.not_le.2 hlt]
      · next hge => simp [List.getElem?_replicate, Nat.not_lt.1 hge, hbefore]
    · rw [List.getElem?_append_right (by omega), hfront, List.getElem?_drop,
        Nat.add_sub_cancel' (by omega)]
      simp [hbefore]

/-- Every sum that marking the windows takes is an index. -/
def Fits (isMatch : Text → Bool) (context : Nat) (lines : List Text) : Prop :=
  ∀ i : Nat, lines[i]?.any isMatch = true → i + context + 1 ≤ Text.maxCount

/-- **Marking windows one after the other marks their union.** -/
theorem exists_foldlM_markWindow? (numbered : List (Text × Nat)) {marks : List Bool}
    (hindex : ∀ x ∈ numbered, x.2 < marks.length)
    (hfits : ∀ x ∈ numbered, isMatch x.1 = true → x.2 + context + 1 ≤ Text.maxCount) :
    ∃ marks', numbered.foldlM (markWindow? isMatch context) marks = some marks' ∧
      marks'.length = marks.length ∧
      ∀ i : Nat, marks'[i]? = some true ↔ marks[i]? = some true ∨
        i < marks.length ∧ ∃ x ∈ numbered, isMatch x.1 = true ∧ x.2 ≤ i ∧ i ≤ x.2 + context := by
  induction numbered generalizing marks with
  | nil => exact ⟨marks, rfl, rfl, by simp⟩
  | cons x rest ih =>
    obtain ⟨line, k⟩ := x
    have hk := hindex (line, k) List.mem_cons_self
    have hrest : ∀ x ∈ rest, x.2 < marks.length := fun x hx ↦ hindex x (List.mem_cons_of_mem _ hx)
    have hfitsRest : ∀ x ∈ rest, isMatch x.1 = true → x.2 + context + 1 ≤ Text.maxCount :=
      fun x hx ↦ hfits x (List.mem_cons_of_mem _ hx)
    rw [List.foldlM_cons]
    cases hmatch : isMatch line with
    | false =>
      obtain ⟨marks', hrun, hlength, hmarks⟩ := ih hrest hfitsRest
      refine ⟨marks', by rw [markWindow?, hmatch]; exact hrun, hlength, fun i ↦ ?_⟩
      simp [hmarks, hmatch]
    | true =>
      have hsum := hfits (line, k) List.mem_cons_self hmatch
      have hstop : k ≤ min (k + context + 1) marks.length := Nat.le_min.2 ⟨by omega, by omega⟩
      obtain ⟨set, hset, hsetLength, hsetMarks⟩ := exists_markRange? hstop (Nat.min_le_right _ _)
      obtain ⟨marks', hrun, hlength, hmarks⟩ := ih (hsetLength ▸ hrest) hfitsRest
      refine ⟨marks', ?_, hlength.trans hsetLength, fun i ↦ ?_⟩
      · have hstep : markWindow? isMatch context marks (line, k) = some set := by
          simp [markWindow?, hmatch, add?_eq (Nat.le_of_succ_le hsum), add?_eq hsum, hset]
        rw [hstep]
        exact hrun
      · have hwindow : k ≤ i ∧ i < min (k + context + 1) marks.length ↔
            i < marks.length ∧ k ≤ i ∧ i ≤ k + context := by omega
        simp only [hmarks, hsetMarks, hsetLength, hwindow, List.mem_cons, exists_eq_or_imp,
          hmatch, true_and, or_assoc, ← and_or_left]

/-- The windows of all matches are marked. -/
theorem marks?_eq (h : Fits isMatch context lines) :
    marks? isMatch context lines = some (windowMarks isMatch context lines) := by
  have hget : ∀ x ∈ lines.zipIdx, lines[x.2]? = some x.1 := fun x hx ↦
    List.mem_zipIdx_iff_getElem?.1 hx
  have hindex : ∀ x ∈ lines.zipIdx, x.2 < (List.replicate lines.length false).length := by
    intro x hx
    rw [List.length_replicate]
    exact (List.getElem?_eq_some_iff.1 (hget x hx)).1
  have hfits : ∀ x ∈ lines.zipIdx, isMatch x.1 = true → x.2 + context + 1 ≤ Text.maxCount :=
    fun x hx hmatch ↦ h x.2 (by rw [hget x hx]; exact hmatch)
  obtain ⟨marks', hrun, hlength, hmarks⟩ := exists_foldlM_markWindow? lines.zipIdx hindex hfits
  rw [marks?, hrun]
  refine congrArg some (eq_of_marked ?_ fun i ↦ ?_)
  · simp [hlength, windowMarks]
  · rw [getElem?_windowMarks, hmarks, List.length_replicate]
    refine (or_iff_right (by simp [List.getElem?_replicate])).trans (and_congr_right fun _ ↦ ?_)
    constructor
    · rintro ⟨x, hx, hmatch, hi, hcontext⟩
      exact ⟨x.2, hi, hcontext, by rw [hget x hx]; exact hmatch⟩
    · rintro ⟨j, hi, hcontext, hmatch⟩
      obtain ⟨line, hline, hmatch⟩ := (Option.any_eq_true _ _).1 hmatch
      exact ⟨(line, j), List.mem_zipIdx_iff_getElem?.2 hline, hmatch, hi, hcontext⟩

/-! ### Showing by indices -/

theorem separator?_eq {last : Option Nat} {i : Nat} (hlast : ∀ k, last = some k → k < i)
    (hi : i ≤ Text.maxCount) :
    separator? context last i =
      some ((last.map (gap (0 < context) · i)).getD []) := by
  rw [separator?]
  cases last with
  | none => simp [isBehindGap?]
  | some k =>
    have hk : k + 1 ≤ i := hlast k rfl
    have hgap : k + 1 < i ↔ i ≠ k + 1 := by omega
    rw [isBehindGap?, add?_eq (Nat.le_trans hk hi)]
    by_cases hcontext : 0 < context <;> simp [gap, hgap, hcontext]

theorem showMarked?_eq (label : Text) (shows : Nat → Bool) {marks : List Bool}
    (last : Option Nat) (lines : List Text) (start : Nat)
    (hmarks : ∀ i, start ≤ i → i < start + lines.length → marks[i]? = some (shows i))
    (hlast : ∀ i, last = some i → i < start)
    (hindex : ∀ i, shows i = true → i ≤ Text.maxCount) :
    showMarked? context label marks last (lines.zipIdx start) =
      some (groupsBehind (0 < context) label last
        ((lines.zipIdx start).filter fun numbered ↦ shows numbered.2)) := by
  induction lines generalizing last start with
  | nil => rfl
  | cons line rest ih =>
    have hrest (i : Nat) (hi : start + 1 ≤ i) (hlt : i < start + 1 + rest.length) :
        marks[i]? = some (shows i) :=
      hmarks i (Nat.le_of_succ_le hi) (by rw [List.length_cons]; omega)
    rw [List.zipIdx_cons, showMarked?, hmarks start (Nat.le_refl start) (by simp),
      List.filter_cons]
    cases hshows : shows start with
    | true =>
      have hnext := ih (some start) (start + 1) hrest (by simp)
      rw [if_pos rfl, groupsBehind, inGroups_cons]
      simp [separator?_eq hlast (hindex start hshows), hnext]
    | false =>
      exact ih last (start + 1) hrest fun i hi ↦ Nat.lt_succ_of_lt (hlast i hi)

theorem matchingLines?_eq (h : Fits isMatch context lines) (name : Option Text) :
    matchingLines? isMatch context name lines =
      some (inGroups (0 < context) (labelOf name) (windowed isMatch context lines)) := by
  have hindex : ∀ i, decide (InWindow isMatch context lines i) = true → i ≤ Text.maxCount := by
    intro i hi
    obtain ⟨j, -, hcontext, hmatch⟩ := of_decide_eq_true hi
    have := h j hmatch
    omega
  rw [matchingLines?, marks?_eq h, Option.bind_eq_bind, Option.bind_some, windowed,
    showMarked?_eq _ (fun i ↦ InWindow isMatch context lines i) none lines 0 ?_ (by simp) hindex,
    groupsBehind_none]
  intro i _ hi
  rw [windowMarks, List.getElem?_map, List.getElem?_zipIdx]
  simp [Nat.zero_add _ ▸ hi]

end Windows

/-! ### Several files -/

/-- **Files are searched one after the other.** -/
theorem searchFiles_append (r : Regex.Matcher) (context : Nat) (labelled : Bool)
    (front back : List Text) :
    searchFiles r context labelled (front ++ back) = (do
      searchFiles r context labelled front
      searchFiles r context labelled back) := by
  induction front with
  | nil => rfl
  | cons path rest ih => simp only [List.cons_append, searchFiles, ih, bind_assoc]

/-- What is written of the lines of a file, which is named if there is a name. -/
def shownText (r : Regex.Matcher) (context : Nat) (name : Option Text) (lines : List Text) : Text :=
  Text.unlines (matchingLines r context (Windows.labelOf name) lines)

/-- What is shown of every file is written, in the order of the files. -/
theorem run_searchFiles (r : Regex.Matcher) (context : Nat) (labelled : Bool) {paths : List Text}
    {linesOf : Text → List Text} {w : World} {s : Sink} (hsink : w.output = .sink s)
    (haccepts : s.refuses = false) (hlines : ∀ path ∈ paths, w.HasLines path (linesOf path)) :
    (searchFiles r context labelled paths).run.run w =
      (.ok (), w.withSink (s.append (Text.encode (paths.flatMap fun path ↦
        shownText r context (if labelled then some path else none) (linesOf path))))) := by
  induction paths generalizing w s with
  | nil =>
    show (Except.ok (), w) = (Except.ok (), w.withSink (s.append []))
    rw [Sink.append_nil, World.withSink, ← hsink]
  | cons path rest ih =>
    obtain ⟨hpath, hrest⟩ := List.forall_mem_cons.1 hlines
    let shown := shownText r context (if labelled then some path else none) (linesOf path)
    have hlabel : (if labelled then path ++ [':'] else []) =
        Windows.labelOf (if labelled then some path else none) := by
      cases labelled <;> rfl
    have hnext := ih (w := w.withSink (s.append shown.encode)) rfl haccepts hrest
    rw [searchFiles, run_bind_of_ok (run_fileLines hpath grepName), hlabel,
      run_bind_of_ok (run_writeLines hsink haccepts grepName _)]
    refine hnext.trans ?_
    rw [Sink.append_append, ← Text.encode_append, List.flatMap_cons]
    rfl

/-- Accepted arguments of `grep` with the pattern, the lines of context and the files that they
give. -/
def Searches (arguments : List Text) (r : Regex.Matcher) (context : Nat) (paths : List Text) :
    Prop :=
  ∃ given operand, grepUsage.read arguments = .ok (.run given) ∧ given.texts = operand :: paths ∧
    given.count 'A' 0 = context ∧
    Regex.Matcher.compile (given.has 'i') (if given.has 'w' then wholeWords operand else operand) =
      .ok r

theorem run_grep {arguments paths : List Text} {r : Regex.Matcher}
    (h : Searches arguments r context paths) (hpaths : paths ≠ []) :
    grep.run arguments = searchFiles r context (1 < paths.length) paths := by
  obtain ⟨given, operand, hread, htexts, rfl, hcompile⟩ := h
  obtain ⟨path, rest, rfl⟩ := List.exists_cons_of_ne_nil hpaths
  simp only [grep, Application.ofUsage, hread, htexts, List.head?_cons, Option.getD_some, hcompile,
    List.drop_one, List.tail_cons]

/-- **`grep` shows the windows of the matches.** Of the lines of a file those are shown that match
or stand at most `context` lines behind a match, every one once and in order, with a separator
between two that are not adjacent if there is context. Showing them by indices comes to the same,
and takes no index that is out of range, as long as the sums of indices fit. Files are searched one
after the other; what is written of several files, to a sink that accepts it, is what is written of
each of them, under its name. -/
theorem grep_shows_windows (context : Nat) :
    (∀ (isMatch : Text → Bool) (name : Option Text) (lines : List Text),
      Windows.Fits isMatch context lines →
      Windows.matchingLines? isMatch context name lines =
        some (inGroups (0 < context) (Windows.labelOf name) (windowed isMatch context lines))) ∧
    (∀ (r : Regex.Matcher) (name : Option Text) (lines : List Text),
      matchingLines r context (Windows.labelOf name) lines =
        inGroups (0 < context) (Windows.labelOf name) (windowed r.isMatch context lines)) ∧
    (∀ (isMatch : Text → Bool) (lines : List Text),
      (windowed isMatch context lines).Pairwise (fun first next ↦ first.2 < next.2) ∧
      ∀ (line : Text) (i : Nat), (line, i) ∈ windowed isMatch context lines ↔
        lines[i]? = some line ∧ ∃ j ≤ i, i ≤ j + context ∧ lines[j]?.any isMatch = true) ∧
    (∀ (r : Regex.Matcher) (labelled : Bool) (front back : List Text),
      searchFiles r context labelled (front ++ back) = (do
        searchFiles r context labelled front
        searchFiles r context labelled back)) ∧
    (∀ (arguments paths : List Text) (r : Regex.Matcher) (linesOf : Text → List Text) (w : World)
      (s : Sink), Searches arguments r context paths → paths ≠ [] → w.output = .sink s →
      s.refuses = false → (∀ path ∈ paths, w.HasLines path (linesOf path)) →
      let alone path := shownText r context (if 1 < paths.length then some path else none)
        (linesOf path)
      (∀ path ∈ paths, (searchFiles r context (1 < paths.length) [path]).run.run w =
        (.ok (), w.withSink (s.append (Text.encode (alone path))))) ∧
      (grep.run arguments).run.run w =
        (.ok (), w.withSink (s.append (Text.encode (paths.flatMap alone))))) := by
  refine ⟨fun _ name _ h ↦ Windows.matchingLines?_eq h name,
    fun r _ lines ↦ matchingLines_eq r context _ lines,
    fun isMatch lines ↦ ⟨windowed_sorted, fun _ _ ↦ mem_windowed_iff⟩,
    fun r ↦ searchFiles_append r context, ?_⟩
  intro arguments paths r linesOf w s hsearches hpaths hsink haccepts hlines alone
  have hrun {chosen : List Text} (hchosen : ∀ path ∈ chosen, path ∈ paths) :
      (searchFiles r context (1 < paths.length) chosen).run.run w =
        (.ok (), w.withSink (s.append (Text.encode (chosen.flatMap alone)))) := by
    rw [run_searchFiles r context _ hsink haccepts fun path h ↦ hlines path (hchosen path h)]
    simp only [decide_eq_true_iff, alone]
  refine ⟨fun path hpath ↦ ?_, run_grep hsearches hpaths ▸ hrun fun _ ↦ id⟩
  rw [hrun (List.forall_mem_singleton.2 hpath), List.flatMap_singleton]

/-- Windows that overlap, touch and are cut off, in the first of two files. -/
theorem grep_shows_windows_of_two_files :
    let files := (Files.empty.writeFile (Path.ofText "/x".toList)
      (Text.encode "M\nb\nM\nd\ne\nM\n".toList)).writeFile (Path.ofText "/y".toList)
      (Text.encode "g\nM\n".toList)
    let w : World := ⟨{ workingDir := [Path.slash] }, files, none, .sink .fresh⟩
    let arguments := ["-A", "1", "M", "x", "y"].map String.toList
    let lines := ["M", "b", "M", "d", "e", "M"].map String.toList
    let isMatch : Text → Bool := fun line ↦ line = ['M']
    let ran := (grep.run arguments).run.run w
    Windows.Fits isMatch 1 lines ∧
    Windows.matchingLines? isMatch 1 (some "x".toList) lines =
      some (["x:M", "x:b", "x:M", "x:d", "--", "x:M"].map String.toList) ∧
    ran.1 = .ok () ∧
    ∃ s, ran.2 = w.withSink s ∧
      s.bytes = Text.encode "x:M\nx:b\nx:M\nx:d\n--\nx:M\ny:M\n".toList := by
  intro files w arguments lines isMatch ran
  obtain ⟨hindices, -, -, -, hfiles⟩ := grep_shows_windows 1
  have hfits : Windows.Fits isMatch 1 lines := by
    intro i hi
    have hlt : i < lines.length := by
      obtain ⟨line, hline, -⟩ := (Option.any_eq_true _ _).1 hi
      exact (List.getElem?_eq_some_iff.1 hline).1
    have hlength : lines.length = 6 := rfl
    rw [Text.maxCount]
    omega
  let r : Regex.Matcher := ⟨#[.save 0, .take ⟨[(77, 77)]⟩, .save 1, .accept], 0, []⟩
  have hsearches : Searches arguments r 1 (["x", "y"].map String.toList) :=
    ⟨⟨[('A', some (.count 1))], ["M", "x", "y"].map fun t ↦ .text t.toList⟩, "M".toList, rfl, rfl,
      rfl, rfl⟩
  let linesOf : Text → List Text := fun path ↦
    if path = "x".toList then lines else ["g", "M"].map String.toList
  have hlines : ∀ path ∈ ["x", "y"].map String.toList, w.HasLines path (linesOf path) := by
    rintro _ (_ | ⟨_, _ | ⟨_, ⟨⟩⟩⟩)
    · exact ⟨Text.encode "M\nb\nM\nd\ne\nM\n".toList, rfl, rfl⟩
    · exact ⟨Text.encode "g\nM\n".toList, rfl, rfl⟩
  have hran := (hfiles arguments _ r linesOf w .fresh hsearches (by decide) rfl rfl hlines).2
  refine ⟨hfits, (hindices isMatch (some "x".toList) lines hfits).trans (by decide +kernel), ?_, ?_⟩
  · show ((grep.run arguments).run.run w).1 = .ok ()
    rw [hran]
  · refine ⟨_, congrArg Prod.snd hran, ?_⟩
    decide +kernel

end Application

end LineShell
