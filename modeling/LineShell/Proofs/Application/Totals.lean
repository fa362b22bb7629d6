import LineShell.Application.Count
import LineShell.Proofs.Application.Contents
import LineShell.Proofs.Text.Unbroken
import LineShell.Proofs.Text.Words

/-!
# Totals

`wc` writes one line, the totals of what is counted in all its files, or else it writes nothing and
fails as the first file fails that cannot be read. What is counted is selected by letters. Only the
set of these and the list of the files matter to `wc`: both are picked out of the arguments one by
one, wherever they stand (`Selects`, `filesAmong`).

The counts of several texts are sums (`Counts.ofTexts`); the words of a text are its maximal runs of
characters that are not blank.
-/

namespace LineShell.Application

open Act

variable {arguments arguments' : List Text} {letter : Char} {w : World}

/-! ### Arguments -/

/-- An argument that selects what is counted: a dash and letters. -/
def IsFlag (argument : Text) : Prop :=
  ∃ letters : Text, letters ≠ [] ∧ argument = '-' :: letters ∧ ∀ c ∈ letters, c ∈ ['l', 'w', 'm']

theorem isCountFlag_iff {argument : Text} : isCountFlag argument = true ↔ IsFlag argument := by
  have hletter (c : Char) :
      (countLetters.any fun l ↦ l.1 == c) = true ↔ c ∈ ['l', 'w', 'm'] := by
    simp [countLetters, @eq_comm _ c]
  unfold isCountFlag
  split
  · next letters =>
    rw [Bool.and_eq_true, List.all_eq_true]
    simp only [hletter, Bool.not_eq_true', List.isEmpty_eq_false_iff]
    constructor
    · rintro ⟨hne, hall⟩
      exact ⟨letters, hne, rfl, hall⟩
    · rintro ⟨_, hne, heq, hall⟩
      obtain rfl := (List.cons.inj heq).2
      exact ⟨hne, hall⟩
  · next hdash =>
    refine iff_of_false Bool.false_ne_true ?_
    rintro ⟨letters, -, rfl, -⟩
    exact hdash letters rfl

instance : DecidablePred IsFlag := fun _ ↦ decidable_of_iff _ isCountFlag_iff

/-- The letter is given, or no letters are. -/
def Selects (arguments : List Text) (letter : Char) : Prop :=
  (∀ argument ∈ arguments, ¬ IsFlag argument) ∨
    ∃ argument ∈ arguments, IsFlag argument ∧ letter ∈ argument

instance : Decidable (Selects arguments letter) :=
  inferInstanceAs (Decidable (_ ∨ _))

/-- The arguments that are files. -/
def filesAmong (arguments : List Text) : List Text :=
  arguments.filter fun argument ↦ ¬ IsFlag argument

theorem partition_isCountFlag (arguments : List Text) :
    arguments.partition isCountFlag =
      (arguments.filter fun argument ↦ IsFlag argument, filesAmong arguments) := by
  have hflag (argument : Text) : isCountFlag argument = decide (IsFlag argument) := by
    rw [Bool.eq_iff_iff, decide_eq_true_iff, isCountFlag_iff]
  rw [List.partition_eq_filter_filter, filesAmong]
  refine Prod.ext (List.filter_congr fun argument _ ↦ hflag argument) ?_
  refine List.filter_congr fun argument _ ↦ ?_
  rw [Function.comp_apply, hflag, decide_not]

/-! ### Counting -/

/-- What is counted, with its letter, in the order in which totals are shown. -/
def measures : List (Char × (Text → Nat)) :=
  [('l', List.count Text.newline), ('w', fun t ↦ t.words.length), ('m', List.length)]

/-- The line with the selected totals of texts. -/
def totalsLine (arguments : List Text) (texts : List Text) : Text :=
  let selected := measures.filter fun measure ↦ Selects arguments measure.1
  Text.join [' '] (selected.map fun measure ↦ Text.ofNat (texts.map measure.2).sum)

theorem unbroken_totalsLine (arguments texts : List Text) :
    (totalsLine arguments texts).Unbroken := by
  refine (Text.unbroken_join_iff (by decide)).2 fun shown hshown ↦ ?_
  obtain ⟨measure, -, rfl⟩ := List.mem_map.1 hshown
  exact Text.unbroken_ofNat _

/-- The counts of texts together. -/
def Counts.ofTexts (texts : List Text) : Counts :=
  ⟨(texts.map (List.count Text.newline)).sum, (texts.map fun t ↦ t.words.length).sum,
    (texts.map List.length).sum⟩

/-- The counts that are shown are those whose letters are selected. -/
theorem selectCounts_eq (arguments : List Text) (total : Counts) :
    selectCounts (arguments.filter fun argument ↦ IsFlag argument) total =
      (countLetters.filter fun l ↦ Selects arguments l.1).map fun l ↦ l.2 total := by
  have hselects (letter : Char) :
      ((arguments.filter fun argument ↦ IsFlag argument).isEmpty ||
        (arguments.filter fun argument ↦ IsFlag argument).any (·.contains letter)) =
      decide (Selects arguments letter) := by
    rw [Bool.eq_iff_iff, decide_eq_true_iff, Selects]
    simp [List.filter_eq_nil_iff]
  simp only [selectCounts, hselects]

theorem join_selectCounts (arguments texts : List Text) :
    Text.join [' '] ((selectCounts (arguments.filter fun argument ↦ IsFlag argument)
      (Counts.ofTexts texts)).map Text.ofNat) = totalsLine arguments texts := by
  rw [selectCounts_eq, totalsLine]
  simp only [countLetters, measures, List.filter_cons, List.filter_nil]
  -- Each letter is selected or not; the order is that of both tables.
  cases decide (Selects arguments 'l') <;> cases decide (Selects arguments 'w') <;>
    cases decide (Selects arguments 'm') <;> rfl

variable {files : List Text} {texts : Text → Text}

/-- Files that can be read are counted together. -/
theorem run_countFiles (hfiles : ∀ f ∈ files, w.textOf wcName f = .ok (texts f)) :
    (countFiles files).run.run w = (.ok (Counts.ofTexts (files.map texts)), w) := by
  induction files with
  | nil => rfl
  | cons f files ih =>
    obtain ⟨hf, hrest⟩ := List.forall_mem_cons.1 hfiles
    have htext := run_fileText w wcName f
    rw [hf] at htext
    rw [countFiles, ← bind_assoc, run_bind_of_ok htext, run_bind_of_ok (ih hrest)]
    rfl

/-- The first file that cannot be read is the last one that is looked at. -/
theorem run_countFiles_of_error {front back : List Text} {f : Text} {e : ShellError}
    (hfront : ∀ g ∈ front, w.textOf wcName g = .ok (texts g)) (hf : w.textOf wcName f = .error e) :
    (countFiles (front ++ f :: back)).run.run w = (.error e, w) := by
  induction front with
  | nil =>
    have htext := run_fileText w wcName f
    rw [hf] at htext
    rw [List.nil_append, countFiles, ← bind_assoc, run_bind_of_error htext]
  | cons g front ih =>
    obtain ⟨hg, hrest⟩ := List.forall_mem_cons.1 hfront
    have htext := run_fileText w wcName g
    rw [hg] at htext
    rw [List.cons_append, countFiles, ← bind_assoc, run_bind_of_ok htext,
      run_bind_of_error (ih hrest)]

/-! ### Running -/

theorem run_wc (arguments : List Text) :
    wc.run arguments =
      (if filesAmong arguments = [] then Counts.ofText <$> readInput wcName Source.readText
        else countFiles (filesAmong arguments)) >>= fun total ↦
      writeLine wcName (Text.join [' ']
        ((selectCounts (arguments.filter fun argument ↦ IsFlag argument) total).map
          Text.ofNat)) := by
  simp only [wc, partition_isCountFlag, List.isEmpty_iff]
  split <;> rfl

/-- Arguments with the same letters and files are the same to `wc`. -/
theorem run_wc_congr
    (hselects : ∀ letter ∈ ['l', 'w', 'm'],
      Selects arguments letter ↔ Selects arguments' letter)
    (hfiles : filesAmong arguments = filesAmong arguments') :
    wc.run arguments = wc.run arguments' := by
  have hletters : (countLetters.filter fun l ↦ Selects arguments l.1) =
      countLetters.filter fun l ↦ Selects arguments' l.1 := by
    refine List.filter_congr fun l hl ↦ ?_
    have hmem : l.1 ∈ countLetters.map Prod.fst := List.mem_map_of_mem hl
    rw [Bool.eq_iff_iff, decide_eq_true_iff, decide_eq_true_iff]
    exact hselects l.1 hmem
  simp only [run_wc, selectCounts_eq, hletters, hfiles]

theorem run_wc_of_files (hfiles : filesAmong arguments ≠ [])
    (htexts : ∀ f ∈ filesAmong arguments, w.textOf wcName f = .ok (texts f)) :
    (wc.run arguments).run.run w = w.ending (w.accepted wcName
      (totalsLine arguments ((filesAmong arguments).map texts) ++ [Text.newline])) := by
  rw [run_wc, if_neg hfiles, run_bind_of_ok (run_countFiles htexts), join_selectCounts]
  exact run_write_eq w wcName _

theorem run_wc_of_error {front back : List Text} {f : Text} {e : ShellError}
    (hfiles : filesAmong arguments = front ++ f :: back)
    (hfront : ∀ g ∈ front, w.textOf wcName g = .ok (texts g)) (hf : w.textOf wcName f = .error e) :
    (wc.run arguments).run.run w = (.error e, w) := by
  have hne : filesAmong arguments ≠ [] :=
    hfiles ▸ List.append_ne_nil_of_right_ne_nil _ (List.cons_ne_nil _ _)
  rw [run_wc, if_neg hne, hfiles, run_bind_of_error (run_countFiles_of_error hfront hf)]

/-- Without files the input is counted. -/
theorem run_wc_of_input (hfiles : filesAmong arguments = []) :
    wc.run arguments = readInput wcName Source.readText >>= fun t ↦
      writeLine wcName (totalsLine arguments [t]) := by
  have hcounts (t : Text) : Counts.ofText t = Counts.ofTexts [t] := rfl
  simp only [run_wc, if_pos hfiles, hcounts, map_eq_pure_bind, bind_assoc, pure_bind,
    join_selectCounts]

/-- **`wc` adds up, or shows nothing.** Arguments that are a dash and letters select what is
counted, wherever they stand, and the others are files. Only the set of the letters and the list of
the files matter. If all files can be read, one line is written, if the output accepts it: the
totals of what the letters select, in a fixed order. If a file cannot be read, the first such file
gives the error, and nothing is written. Without files it is the same with the input. -/
theorem totals_or_nothing :
    (∀ t : Text, t.words.length = {r : Nat × Nat | t.MaximalRun r.1 r.2}.ncard) ∧
    (∀ arguments texts : List Text, (totalsLine arguments texts).Unbroken) ∧
    (∀ arguments arguments' : List Text,
      (∀ letter ∈ ['l', 'w', 'm'], Selects arguments letter ↔ Selects arguments' letter) →
      filesAmong arguments = filesAmong arguments' → wc.run arguments = wc.run arguments') ∧
    (∀ (arguments : List Text) (w : World) (texts : Text → Text), filesAmong arguments ≠ [] →
      (∀ f ∈ filesAmong arguments, w.textOf wcName f = .ok (texts f)) →
      (wc.run arguments).run.run w = w.ending (w.accepted wcName
        (totalsLine arguments ((filesAmong arguments).map texts) ++ [Text.newline]))) ∧
    (∀ (arguments : List Text) (w : World) (texts : Text → Text) (front back : List Text) (f : Text)
      (e : ShellError), filesAmong arguments = front ++ f :: back →
      (∀ g ∈ front, w.textOf wcName g = .ok (texts g)) → w.textOf wcName f = .error e →
      (wc.run arguments).run.run w = (.error e, w)) ∧
    ∀ (arguments : List Text) (w : World), filesAmong arguments = [] →
      (w.input = none →
        (wc.run arguments).run.run w = (.error (.argument wcName .missingInput), w)) ∧
      ∀ s, w.input = some s →
        let read := { w with input := some s.readText.2 }
        (∀ t, s.readText.1 = .ok t → (wc.run arguments).run.run w =
          read.ending (read.accepted wcName (totalsLine arguments [t] ++ [Text.newline]))) ∧
        ∀ f, s.readText.1 = .error f →
          (wc.run arguments).run.run w = (.error (.stream wcName f), read) := by
  refine ⟨fun t ↦ t.ncard_maximalRun.symm, unbroken_totalsLine, fun _ _ ↦ run_wc_congr,
    fun _ _ _ ↦ run_wc_of_files, fun _ _ _ _ _ _ _ ↦ run_wc_of_error,
    fun arguments w hfiles ↦ ⟨fun hinput ↦ ?_, ?_⟩⟩
  · rw [run_wc_of_input hfiles, run_bind_of_error]
    rw [run_readInput, hinput]
  · intro s hinput read
    rw [run_wc_of_input hfiles]
    have hread := run_readInput wcName Source.readText w
    rw [hinput] at hread
    dsimp only at hread
    refine ⟨fun t ht ↦ ?_, fun f hf ↦ ?_⟩
    · rw [ht] at hread
      exact (run_bind_of_ok hread).trans (run_write_eq read wcName _)
    · rw [hf] at hread
      exact run_bind_of_error hread

/-- A dash is a file, and so is what only looks like a flag. -/
theorem totals_or_nothing_scattered :
    let named (names : List String) : List Text := names.map String.toList
    let made := (Files.empty.writeFile (Path.ofText "/a".toList)
      (Text.encode "é x\ny".toList)).writeFile (Path.ofText "/-".toList)
      (Text.encode "\u00A0 z\n".toList)
    let w : World := ⟨{ workingDir := [Path.slash] }, made, some (.bytes [0xFF]), .sink .fresh⟩
    (wc.run (named ["-w", "a", "-lw", "-"])).run.run w = (.ok (), w.writing ["2 4\n".toList]) ∧
    wc.run (named ["a", "-wl", "-"]) = wc.run (named ["-w", "a", "-lw", "-"]) ∧
    (wc.run (named ["a", "-lx", "-m", "--"])).run.run w =
      (.error (.path wcName (.os "-lx".toList .notFound)), w) ∧
    (wc.run (named ["-m"])).run.run w =
      (.error (.stream wcName .notUtf8), { w with input := some (.bytes []) }) := by
  intro named made w
  let texts (f : Text) : Text := if f = ['a'] then "é x\ny".toList else "\u00A0 z\n".toList
  obtain ⟨-, -, hsame, hcounted, hfails, hinput⟩ := totals_or_nothing
  refine ⟨?_, ?_, ?_, ?_⟩
  · refine (hcounted (named ["-w", "a", "-lw", "-"]) w texts (by decide) ?_).trans ?_
    · decide +kernel
    · have hline : totalsLine (named ["-w", "a", "-lw", "-"])
          ((filesAmong (named ["-w", "a", "-lw", "-"])).map texts) = "2 4".toList := by
        decide +kernel
      rw [hline]
      rfl
  · refine hsame _ _ (List.forall_mem_cons.2 ⟨?_, List.forall_mem_cons.2 ⟨?_, ?_⟩⟩) (by decide)
    · decide
    · decide
    · exact List.forall_mem_singleton.2 (by decide)
  · refine hfails (named ["a", "-lx", "-m", "--"]) w texts (named ["a"]) (named ["--"])
      "-lx".toList _ (by decide) ?_ ?_
    · decide +kernel
    · decide +kernel
  · obtain ⟨-, hread⟩ := hinput (named ["-m"]) w (by decide)
    exact (hread _ rfl).2 _ rfl

end LineShell.Application
