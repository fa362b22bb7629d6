import LineShell.Proofs.Application.Contents
import LineShell.Proofs.Application.NamedFiles

/-!
# Several files

`cat` and `grep` show several files one after the other. What is shown of each of them is written in
order, up to the first file that cannot be shown; of that file and of those behind it nothing is
written, and its error is the error of the whole (`World.InOrder`).

The run of each file begins in the world that the run before it left, in which only the output is
another one. So if the output is none of the files, a file comes to what it comes to when it is the
only one (`World.shows_writing`).
-/

namespace LineShell

namespace World

variable {w : World} {app path : Text} {make : List Text → Text}

/-- What is shown of a file, given what is made of its lines, or the error that there is instead. -/
def shows (w : World) (app : Text) (make : List Text → Text) (path : Text) :
    Except ShellError Text := do
  w.accepted app (make (← w.textOf app path).lines)

/-- What is written elsewhere does not change what is shown of a file. -/
theorem shows_writing (h : w.Apart path) (texts : List Text) :
    (w.writing texts).shows app make path = w.shows app make path := by
  simp only [shows, textOf_writing h, accepted_writing]

/-- A run over files, of each of which a text is shown or an error raised when it is alone: the
texts are shown in order, up to the first file with an error, which is that of the run. -/
structure InOrder (w : World) (alone : Text → Except ShellError Text) (files : List Text)
    (ran : Except ShellError Unit × World) : Prop where
  all : ∀ shown : Text → Text, (∀ f ∈ files, alone f = .ok (shown f)) →
    ran = (.ok (), w.writing (files.map shown))
  first : ∀ front f back e, ∀ shown : Text → Text, files = front ++ f :: back →
    (∀ g ∈ front, alone g = .ok (shown g)) → alone f = .error e →
    ran = (.error e, w.writing (front.map shown))

end World

namespace Application

open Act

variable {w : World} {app : Text} {make : Text → List Text → Text} {shown : Text → Text}
variable {arguments files : List Text}

/-! ### Showing files -/

/-- Shows of a file what is made of its lines. -/
def showing (app : Text) (make : Text → List Text → Text) (path : Text) : Act Unit := do
  write app (make path (← fileLines app path))

theorem run_showing (w : World) (app : Text) (make : Text → List Text → Text) (path : Text) :
    (showing app make path).run.run w = w.ending (w.shows app (make path) path) := by
  have hlines := run_fileLines_eq w app path
  rw [World.shows]
  cases htext : w.textOf app path with
  | error e =>
    rw [htext] at hlines
    exact run_bind_of_error hlines
  | ok t =>
    rw [htext] at hlines
    exact (run_bind_of_ok hlines).trans (run_write_eq w app _)

/-- Behind files that are shown the run goes on where their texts are written. -/
theorem run_forM_append (front back : List Text) (hapart : ∀ f ∈ front, w.Apart f)
    (hfront : ∀ f ∈ front, w.shows app (make f) f = .ok (shown f)) :
    (forM (front ++ back) (showing app make)).run.run w =
      (forM back (showing app make)).run.run (w.writing (front.map shown)) := by
  induction front generalizing w with
  | nil => rw [List.nil_append, List.map_nil, World.writing_nil]
  | cons f front ih =>
    -- The next run begins where this one has written, and there the other files are as they were.
    obtain ⟨hf, hrest⟩ := List.forall_mem_cons.1 hfront
    obtain ⟨haf, harest⟩ := List.forall_mem_cons.1 hapart
    have hfirst : (showing app make f).run.run w = (.ok (), w.writing [shown f]) := by
      rw [run_showing, hf]
      rfl
    rw [List.cons_append, List.forM_cons, run_bind_of_ok hfirst, ih, World.writing_writing]
    · rfl
    · exact fun g hg ↦ World.apart_writing (harest g hg) _
    · intro g hg
      rw [World.shows_writing (harest g hg), hrest g hg]

/-- **Files are shown in order**, if the output is none of them. -/
theorem inOrder_forM (hapart : ∀ f ∈ files, w.Apart f) :
    w.InOrder (fun f ↦ w.shows app (make f) f) files
      ((forM files (showing app make)).run.run w) where
  all shown hfiles := by
    have hrun := run_forM_append files [] hapart hfiles
    rw [List.append_nil] at hrun
    exact hrun
  first front f back e shown hsplit hfront hf := by
    subst hsplit
    obtain ⟨hafront, haback⟩ := List.forall_mem_append.1 hapart
    have hfails : (showing app make f).run.run (w.writing (front.map shown)) =
        (.error e, w.writing (front.map shown)) := by
      rw [run_showing, World.shows_writing (haback f List.mem_cons_self), hf]
      rfl
    rw [run_forM_append front (f :: back) hafront hfront, List.forM_cons, run_bind_of_error hfails]

theorem showFiles_eq_forM (paths : List Text) :
    showFiles paths = forM paths (showing catName fun _ ↦ Text.unlines) := by
  induction paths with
  | nil => rfl
  | cons path rest ih =>
    rw [showFiles, List.forM_cons, showing, bind_assoc, ih]
    rfl

theorem searchFiles_eq_forM (r : Regex.Matcher) (context : Nat) (labelled : Bool)
    (paths : List Text) :
    searchFiles r context labelled paths = forM paths (showing grepName fun path ↦
      shownText r context (if labelled then some path else none)) := by
  induction paths with
  | nil => rfl
  | cons path rest ih =>
    rw [searchFiles, List.forM_cons, showing, bind_assoc, ih]
    cases labelled <;> rfl

/-! ### Arguments -/

/-- Accepted arguments of `cat` with the files that they give. -/
def Shows (arguments files : List Text) : Prop :=
  ∃ given, catUsage.read arguments = .ok (.run given) ∧ given.texts = files

theorem run_cat (h : Shows arguments files) (hfiles : files ≠ []) :
    cat.run arguments = showFiles files := by
  obtain ⟨given, hread, rfl⟩ := h
  obtain ⟨path, rest, htexts⟩ := List.exists_cons_of_ne_nil hfiles
  rw [cat, run_ofUsage hread, htexts]

/-- Any files can be shown, whatever their names begin with. -/
theorem shows_dashes (files : List Text) : Shows (Usage.dashes :: files) files := by
  have hplaces (count : Nat) :
      ∃ place, catUsage.place? count = some place ∧ place.isNumber = false := by
    rcases count with _ | count
    · exact ⟨_, rfl, rfl⟩
    · exact ⟨_, rfl, rfl⟩
  have hdashes : catUsage.readArgument {} Usage.dashes = .ok { ended := true } := rfl
  have hmissing : catUsage.missing ⟨[], files.map .text⟩ = [] := by
    rw [Usage.missing, List.map_eq_nil_iff, List.filter_eq_nil_iff]
    intro place hplace
    obtain rfl := List.mem_singleton.1 (List.mem_of_mem_drop hplace)
    exact Bool.false_ne_true
  refine ⟨⟨[], files.map .text⟩, ?_, ?_⟩
  · rw [Usage.read, List.foldlM_cons, hdashes]
    refine (congrArg (· >>= _) (Usage.foldlM_operands hplaces rfl rfl files)).trans ?_
    simp only [bind, Except.bind, List.nil_append, hmissing]
    rfl
  · rw [Given.texts, List.filterMap_map]
    exact List.filterMap_some

/-- Under its name a file shows something when it does alone. -/
theorem shownText_eq_nil_iff (r : Regex.Matcher) (context : Nat) (name : Option Text)
    (lines : List Text) :
    shownText r context name lines = [] ↔ windowed r.isMatch context lines = [] := by
  rw [shownText, matchingLines_eq, Text.unlines, List.flatMap_eq_nil_iff]
  cases windowed r.isMatch context lines with
  | nil => exact iff_of_true (List.forall_mem_nil _) rfl
  | cons numbered rest =>
    refine iff_of_false (fun h ↦ ?_) (List.cons_ne_nil _ _)
    obtain ⟨line, i⟩ := numbered
    rw [inGroups_cons] at h
    exact List.append_ne_nil_of_right_ne_nil _ (List.cons_ne_nil _ _) (h _ List.mem_cons_self)

/-! ### Single files -/

/-- The error of a file is the same under its name. -/
theorem shows_eq_error_iff (w : World) (r : Regex.Matcher) (context : Nat) (name : Option Text)
    (path : Text) (e : ShellError) :
    w.shows grepName (shownText r context name) path = .error e ↔
      w.shows grepName (shownText r context none) path = .error e := by
  have hempty (lines : List Text) : (shownText r context name lines).isEmpty =
      (shownText r context none lines).isEmpty := by
    rw [Bool.eq_iff_iff, List.isEmpty_iff, List.isEmpty_iff, shownText_eq_nil_iff,
      shownText_eq_nil_iff]
  rw [World.shows, World.shows]
  cases w.textOf grepName path with
  | error e' => exact Iff.rfl
  | ok t =>
    show w.accepted grepName _ = _ ↔ w.accepted grepName _ = _
    rw [World.accepted, World.accepted, hempty]
    cases w.refuses && !(shownText r context none t.lines).isEmpty
    · exact iff_of_false (fun h ↦ by cases h) fun h ↦ by cases h
    · exact Iff.rfl

theorem run_cat_singleton {f : Text} (h : Shows arguments [f]) :
    cat.run arguments = showing catName (fun _ ↦ Text.unlines) f := by
  rw [run_cat h (List.cons_ne_nil _ _), showFiles_eq_forM, List.forM_cons, List.forM_nil]
  exact bind_pure_unit (m := Act)

theorem searchFiles_singleton (r : Regex.Matcher) (context : Nat) (labelled : Bool) (f : Text) :
    searchFiles r context labelled [f] = showing grepName (fun path ↦
      shownText r context (if labelled then some path else none)) f := by
  rw [searchFiles_eq_forM, List.forM_cons, List.forM_nil]
  exact bind_pure_unit (m := Act)

/-- **Several files are shown in order, up to the first that cannot be shown.** `cat` shows its
files as if it were called with each of them, one after the other. If the output is none of the
files, these calls come to what they would come to in the world as it is: every text is written
behind the others, and behind a file with an error nothing more is done. Any files can be given,
behind `--`. `grep` does the same with two files and more, and what it writes of each of them is the
same under its name. -/
theorem several_files_in_order (w : World) :
    (∀ files, Shows (Usage.dashes :: files) files) ∧
    (∀ (arguments files : List Text) (single : Text → List Text), Shows arguments files →
      files ≠ [] → (∀ f, Shows (single f) [f]) →
      let alone := w.shows catName Text.unlines
      cat.run arguments = forM files (fun f ↦ cat.run (single f)) ∧
      (∀ f, (cat.run (single f)).run.run w = w.ending (alone f)) ∧
      ((∀ f ∈ files, w.Apart f) → w.InOrder alone files ((cat.run arguments).run.run w))) ∧
    ∀ (arguments files : List Text) (single : Text → List Text) (r : Regex.Matcher) (context : Nat),
      Searches arguments r context files → 1 < files.length →
      (∀ f, Searches (single f) r context [f]) →
      let alone := w.shows grepName (shownText r context none)
      let labelled f := w.shows grepName (shownText r context (some f)) f
      grep.run arguments = forM files (fun f ↦ searchFiles r context true [f]) ∧
      (∀ f, (grep.run (single f)).run.run w = w.ending (alone f)) ∧
      (∀ f, (searchFiles r context true [f]).run.run w = w.ending (labelled f)) ∧
      (∀ f e, labelled f = .error e ↔ alone f = .error e) ∧
      (∀ name lines, shownText r context name lines = Text.unlines
        (inGroups (0 < context) (Windows.labelOf name) (windowed r.isMatch context lines))) ∧
      ((∀ f ∈ files, w.Apart f) → w.InOrder labelled files ((grep.run arguments).run.run w)) := by
  refine ⟨shows_dashes, ?_, ?_⟩
  · intro arguments files single hshows hfiles hsingle alone
    have hrun : cat.run arguments = forM files (showing catName fun _ ↦ Text.unlines) := by
      rw [run_cat hshows hfiles, showFiles_eq_forM]
    have heach : (fun f ↦ cat.run (single f)) = showing catName fun _ ↦ Text.unlines :=
      funext fun f ↦ run_cat_singleton (hsingle f)
    refine ⟨heach ▸ hrun, fun f ↦ ?_, fun hapart ↦ hrun ▸ inOrder_forM hapart⟩
    rw [run_cat_singleton (hsingle f), run_showing]
  · intro arguments files single r context hsearches hfiles hsingle alone labelled
    have hne : files ≠ [] := List.ne_nil_of_length_pos (Nat.zero_lt_of_lt hfiles)
    have hrun : grep.run arguments =
        forM files (showing grepName fun path ↦ shownText r context (some path)) := by
      rw [run_grep hsearches hne, searchFiles_eq_forM, decide_eq_true hfiles]
      rfl
    have heach : (fun f ↦ searchFiles r context true [f]) =
        showing grepName fun path ↦ shownText r context (some path) :=
      funext (searchFiles_singleton r context true)
    refine ⟨heach ▸ hrun, fun f ↦ ?_, fun f ↦ ?_, fun f ↦ shows_eq_error_iff w r context _ f,
      fun name lines ↦ ?_, fun hapart ↦ hrun ▸ inOrder_forM hapart⟩
    · rw [run_grep (hsingle f) (List.cons_ne_nil _ _)]
      exact (congrArg (·.run.run w) (searchFiles_singleton r context false f)).trans
        (run_showing w grepName _ f)
    · rw [searchFiles_singleton, run_showing]
      rfl
    · rw [shownText, matchingLines_eq]

/-- A file that is named twice, and behind it one that is broken in its second line. -/
theorem several_files_in_order_broken :
    let named (names : List String) : List Text := names.map String.toList
    let made := (Files.empty.writeFile (Path.ofText "/a".toList)
      (Text.encode "M\nk".toList)).writeFile (Path.ofText "/b".toList) [0x4D, 0x0A, 0xFF, 0x0A]
    let w : World := ⟨{ workingDir := [Path.slash] }, made, none, .sink .fresh⟩
    let single (f : Text) : List Text := ["-A".toList, "1".toList, Usage.dashes, "M".toList, f]
    ((cat.run (named ["a", "a", "b", "a"])).run.run w =
      (.error (.stream catName .notUtf8), w.writing (named ["M\nk\n", "M\nk\n"])) ∧
    (grep.run (named ["-A", "1", "M", "a", "b", "a"])).run.run w =
      (.error (.stream grepName .notUtf8), w.writing (named ["a:M\na:k\n"]))) ∧
    (grep.run (single "a".toList)).run.run w = (.ok (), w.writing (named ["M\nk\n"])) := by
  intro named made w single
  have hapart : ∀ f, w.Apart f := by
    intro f loc houtput
    cases houtput
  let r : Regex.Matcher := ⟨#[.save 0, .take ⟨[(77, 77)]⟩, .save 1, .accept], 0, []⟩
  have hsingle (f : Text) : Searches (single f) r 1 [f] :=
    ⟨⟨[('A', some (.count 1))], ["M".toList, f].map .text⟩, "M".toList, rfl, rfl, rfl, rfl⟩
  have hsearches : Searches (named ["-A", "1", "M", "a", "b", "a"]) r 1 (named ["a", "b", "a"]) :=
    ⟨⟨[('A', some (.count 1))], (named ["M", "a", "b", "a"]).map .text⟩, "M".toList, rfl, rfl, rfl,
      rfl⟩
  have hshows : Shows (named ["a", "a", "b", "a"]) (named ["a", "a", "b", "a"]) :=
    ⟨⟨[], (named ["a", "a", "b", "a"]).map .text⟩, rfl, rfl⟩
  obtain ⟨hdashes, hcat, hgrep⟩ := several_files_in_order w
  obtain ⟨-, -, hshown⟩ := hcat _ (named ["a", "a", "b", "a"]) (fun f ↦ [Usage.dashes, f]) hshows
    (by decide) fun f ↦ hdashes [f]
  obtain ⟨-, halone, -, -, -, hfound⟩ :=
    hgrep _ (named ["a", "b", "a"]) single r 1 hsearches (by decide) hsingle
  refine ⟨⟨?_, ?_⟩, ?_⟩
  · refine (hshown fun f _ ↦ hapart f).first (named ["a", "a"]) "b".toList (named ["a"]) _
      (fun _ ↦ "M\nk\n".toList) rfl ?_ ?_
    · decide +kernel
    · decide +kernel
  · refine (hfound fun f _ ↦ hapart f).first (named ["a"]) "b".toList (named ["a"]) _
      (fun _ ↦ "a:M\na:k\n".toList) rfl ?_ ?_
    · decide +kernel
    · decide +kernel
  · have hshown : w.shows grepName (shownText r 1 none) "a".toList = .ok "M\nk\n".toList := by
      decide +kernel
    rw [halone, hshown]
    rfl

end Application

end LineShell
