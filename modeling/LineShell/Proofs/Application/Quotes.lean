import LineShell.Proofs.Application.Effects
import LineShell.Proofs.Application.Raises
import LineShell.Proofs.Files.Unbroken
import LineShell.Proofs.Options.FirstOperand
import LineShell.Proofs.Shell.Messages

/-!
# What the applications quote

The texts that the errors of an application quote are its arguments, for `cd` also the home
directory, and for `find` the directories that it goes through. So in a world where no path has a
line feed in it, an application with unbroken arguments fails only with errors that quote unbroken
texts (`Registry.standard_failsPlainly`), and leaves a world of that kind
(`Registry.Confined.unbroken`).
-/

namespace LineShell

/-- Every text that the message of an error quotes is unbroken. -/
def ShellError.Plain (e : ShellError) : Prop := ∀ t ∈ e.quoted, t.Unbroken

/-- What quotes nothing is plain. -/
theorem ShellError.Plain.of_nil {e : ShellError} (h : e.quoted = []) : e.Plain := by
  intro t ht
  rw [h] at ht
  cases ht

/-- No path that an environment knows has a line feed in it. -/
structure Environment.Unbroken (env : Environment) : Prop where
  workingDir : Path.Unbroken env.workingDir
  home : ∀ home, env.home = some home → Path.Unbroken home

/-- No name of the files and no path of the environment has a line feed in it. -/
structure World.Unbroken (w : World) : Prop where
  files : w.files.Unbroken
  env : w.env.Unbroken

namespace Act

variable {α β : Type} {app path shown : Text}

/-- An action whose errors quote only unbroken texts. -/
def RaisesPlain (act : Act α) : Prop := act.Raises ShellError.Plain

namespace RaisesPlain

protected theorem pure (a : α) : RaisesPlain (pure a : Act α) := Raises.pure a

protected theorem throw {e : ShellError} (he : e.Plain) : RaisesPlain (throw e : Act α) :=
  Raises.throw he

protected theorem bind {act : Act α} {next : α → Act β} (hact : RaisesPlain act)
    (hnext : ∀ a, RaisesPlain (next a)) : RaisesPlain (act >>= next) :=
  Raises.bind hact hnext

protected theorem get_bind {next : World → Act β} (hnext : ∀ w, RaisesPlain (next w)) :
    RaisesPlain (get >>= next) :=
  Raises.bind .get hnext

/-- Behind a failure nothing is done. -/
protected theorem failArgument_bind {f : ArgumentFault} (hf : (ShellError.argument app f).Plain)
    (next : α → Act β) : RaisesPlain (failArgument app f >>= next) :=
  fun _ _ h ↦ Except.error.inj h ▸ hf

/-- What goes wrong with a path quotes the path. -/
theorem plain_path (h : shown.Unbroken) {f : PathFault} (hf : f.quoted = shown) :
    (ShellError.path app f).Plain :=
  List.forall_mem_singleton.2 (hf ▸ h)

/-- The faults of a stream quote nothing. -/
theorem plain_stream (f : StreamFault) : (ShellError.stream app f).Plain := .of_nil rfl

protected theorem write (t : Text) : RaisesPlain (write app t) := Raises.write plain_stream t

protected theorem ofReading (result : Except StreamFault α) :
    RaisesPlain (ofReading app result) :=
  Raises.ofReading plain_stream result

protected theorem readInput (reading : Source → Except StreamFault α × Source) :
    RaisesPlain (readInput app reading) :=
  Raises.readInput plain_stream (.of_nil rfl) reading

protected theorem openFile (h : path.Unbroken) : RaisesPlain (openFile app path) :=
  Raises.openFile (plain_path h rfl) fun _ ↦ plain_path h rfl

protected theorem fileLines (h : path.Unbroken) : RaisesPlain (fileLines app path) :=
  .bind (.openFile h) fun _ ↦ .ofReading _

protected theorem linesOf {path? : Option Text} (h : ∀ path ∈ path?, path.Unbroken) :
    RaisesPlain (linesOf app path?) := by
  cases path? with
  | some path => exact .fileLines (h path rfl)
  | none => exact .readInput _

protected theorem changeTo (h : shown.Unbroken) (path : Path) :
    RaisesPlain (Application.changeTo shown path) := by
  refine .get_bind fun w ↦ ?_
  dsimp only
  split
  · exact fun _ _ hthrow ↦ Except.error.inj hthrow ▸ plain_path h rfl
  · split
    · exact Raises.set _
    · exact .throw (plain_path h rfl)

end RaisesPlain

end Act

open Act

namespace Application

/-- In an unbroken world an application with unbroken arguments fails only with errors that quote
unbroken texts. -/
def FailsPlainly (app : Application) : Prop :=
  ∀ arguments : List Text, (∀ t ∈ arguments, t.Unbroken) → ∀ w : World, w.Unbroken →
    ∀ e, ((app.run arguments).run.run w).1 = .error e → e.Plain

theorem failsPlainly_ofUsage {name : Text} {usage : Usage} {index : List Text → Option Nat}
    {body : Given → Act Unit}
    (hbody : ∀ given : Given, (∀ t ∈ given.texts, t.Unbroken) → ∀ w : World, w.Unbroken →
      ∀ e, ((body given).run.run w).1 = .error e → e.Plain) :
    (ofUsage name usage index body).FailsPlainly := by
  intro arguments harguments w hw
  dsimp only [ofUsage]
  split
  · exact RaisesPlain.write _ w
  · next given hread =>
    exact hbody given (fun t ht ↦ harguments t ((Usage.sublist_of_read hread).subset ht)) w hw
  · exact RaisesPlain.throw (e := .argument name (.usage _)) (.of_nil rfl) w

theorem failsPlainly_pwd : pwd.FailsPlainly :=
  failsPlainly_ofUsage fun _ _ w _ ↦ RaisesPlain.get_bind (fun _ ↦ .write _) w

theorem failsPlainly_cd : cd.FailsPlainly := by
  refine failsPlainly_ofUsage fun given htexts w hw ↦ ?_
  rw [run_get_bind]
  dsimp only
  split
  · next target rest hgiven =>
    exact RaisesPlain.changeTo (htexts target (hgiven ▸ List.mem_cons_self)) _ w
  · next home _ hhome =>
    exact RaisesPlain.changeTo (Path.unbroken_toText (hw.env.home home hhome)) _ w
  · exact RaisesPlain.throw (e := .argument cdName .missingArgument) (.of_nil rfl) w

theorem failsPlainly_ls : ls.FailsPlainly := by
  refine failsPlainly_ofUsage fun given htexts w _ ↦ ?_
  have hshown : Text.Unbroken (given.texts.head?.getD ['.']) := by
    cases hhead : given.texts.head? with
    | none => decide
    | some shown => exact htexts shown (List.mem_of_head? hhead)
  refine RaisesPlain.get_bind (fun w ↦ ?_) w
  dsimp only
  split
  · exact .throw (RaisesPlain.plain_path hshown rfl)
  · split
    · exact .write _
    · exact .pure _

theorem failsPlainly_echo : echo.FailsPlainly := fun _ _ w _ ↦ RaisesPlain.write _ w

theorem raisesPlain_showFiles {paths : List Text} (h : ∀ path ∈ paths, path.Unbroken) :
    RaisesPlain (showFiles paths) := by
  induction paths with
  | nil => exact .pure _
  | cons path rest ih =>
    obtain ⟨hpath, hrest⟩ := List.forall_mem_cons.1 h
    exact .bind (.fileLines hpath) fun _ ↦ .bind (.write _) fun _ ↦ ih hrest

theorem failsPlainly_cat : cat.FailsPlainly := by
  refine failsPlainly_ofUsage fun given htexts w _ ↦ ?_
  split
  · exact RaisesPlain.bind (.readInput _) (fun _ ↦ .write _) w
  · exact raisesPlain_showFiles htexts w

theorem failsPlainly_history : history.FailsPlainly := by
  refine failsPlainly_ofUsage fun given _ w _ ↦ RaisesPlain.get_bind (fun w ↦ ?_) w
  dsimp only
  split
  · exact .throw (e := .argument historyName .invalidOption) (.of_nil rfl)
  · exact .write _
  · exact .write _

theorem failsPlainly_portion (name : Text) (usage : Usage) (pick : Nat → List Text → List Text) :
    (portion name usage pick).FailsPlainly := by
  refine failsPlainly_ofUsage fun given htexts w _ ↦ ?_
  have hlines : RaisesPlain (linesOf name given.texts.head?) := .linesOf fun path hpath ↦
    htexts path (List.mem_of_head? hpath)
  dsimp only
  split
  · exact RaisesPlain.failArgument_bind (f := .zeroLines) (.of_nil rfl) _ w
  · exact RaisesPlain.bind hlines (fun _ ↦ .write _) w

theorem raisesPlain_searchFiles (r : Regex.Matcher) (context : Nat) (labelled : Bool)
    {paths : List Text} (h : ∀ path ∈ paths, path.Unbroken) :
    RaisesPlain (searchFiles r context labelled paths) := by
  induction paths with
  | nil => exact .pure _
  | cons path rest ih =>
    obtain ⟨hpath, hrest⟩ := List.forall_mem_cons.1 h
    exact .bind (.fileLines hpath) fun _ ↦ .bind (.write _) fun _ ↦ ih hrest

theorem failsPlainly_grep : grep.FailsPlainly := by
  refine failsPlainly_ofUsage fun given htexts w _ ↦ ?_
  dsimp only
  split
  · exact RaisesPlain.throw (e := .pattern grepName (.regex _ _)) (.of_nil rfl) w
  · split
    · exact RaisesPlain.bind (.readInput _) (fun _ ↦ .write _) w
    · have hpaths : ∀ path ∈ given.texts.drop 1, path.Unbroken :=
        fun path hpath ↦ htexts path (List.mem_of_mem_drop hpath)
      exact raisesPlain_searchFiles _ _ _ hpaths w

theorem failsPlainly_sed : sed.FailsPlainly := by
  refine failsPlainly_ofUsage fun given htexts w _ ↦ ?_
  split
  · exact RaisesPlain.throw (e := .argument sedName .invalidFirstArgument) (.of_nil rfl) w
  · split
    · exact RaisesPlain.throw (e := .pattern sedName (.regex _ _)) (.of_nil rfl) w
    · have hlines : RaisesPlain (linesOf sedName (given.texts.drop 1).head?) := .linesOf
        fun path hpath ↦ htexts path (List.mem_of_mem_drop (List.mem_of_head? hpath))
      exact RaisesPlain.bind hlines (fun _ ↦ .write _) w

/-! ### Searching a tree -/

theorem unbroken_shownBelow {shown name : Text} (hshown : shown.Unbroken) (hname : name.Unbroken) :
    (shownBelow shown name).Unbroken := by
  have hfront : Text.Unbroken (shown.reverse.dropWhile (· == '/')).reverse :=
    hshown.of_subset fun c hc ↦
      List.mem_reverse.1 (List.dropWhile_subset _ (List.mem_reverse.1 hc))
  exact Text.unbroken_append.2 ⟨hfront, Text.unbroken_cons.2 ⟨by decide, hname⟩⟩

mutual

theorem raisesPlain_searchNode (g : Glob) (path : Path) {shown : Text} (hshown : shown.Unbroken)
    (wanted : Bool) {node : Node} (h : node.Unbroken) :
    RaisesPlain (searchNode g path shown wanted node) := by
  cases node with
  | file content =>
    rw [searchNode]
    split
    · exact .write _
    · exact .pure _
  | link target =>
    rw [searchNode]
    exact .pure _
  | dir entries =>
    rw [searchNode]
    split
    · exact .throw (RaisesPlain.plain_path hshown rfl)
    · exact raisesPlain_searchEntries g path hshown h

theorem raisesPlain_searchEntries (g : Glob) (path : Path) {shown : Text} (hshown : shown.Unbroken)
    {entries : Entries} (h : entries.Unbroken) :
    RaisesPlain (searchEntries g path shown entries) := by
  cases entries with
  | nil =>
    rw [searchEntries]
    exact .pure _
  | cons name node rest =>
    obtain ⟨hname, hnode, hrest⟩ := h
    rw [searchEntries]
    exact .bind
      (raisesPlain_searchNode _ _ (unbroken_shownBelow hshown (Path.unbroken_toText hname)) _ hnode)
      fun _ ↦ raisesPlain_searchEntries g path hshown hrest

end

theorem plain_of_searchRoot {root flag : Text} (hroot : root.Unbroken) (hflag : flag.Unbroken)
    (pattern : Text) {w : World} (hw : w.Unbroken) :
    ∀ e, ((searchRoot root flag pattern).run.run w).1 = .error e → e.Plain := by
  rw [searchRoot]
  split
  · have hplain : (ShellError.argument findName (.invalidArgument flag)).Plain :=
      List.forall_mem_singleton.2 hflag
    exact RaisesPlain.failArgument_bind hplain _ w
  · show ∀ e, ((get >>= _ : Act Unit).run.run w).1 = .error e → e.Plain
    rw [run_get_bind]
    split
    · exact RaisesPlain.throw (RaisesPlain.plain_path hroot rfl) w
    · next entries hentries =>
      split
      · exact RaisesPlain.throw (e := .pattern findName (.glob _)) (.of_nil rfl) w
      · exact raisesPlain_searchEntries _ _ hroot (hw.files.entries hentries) w

theorem failsPlainly_find : find.FailsPlainly := by
  intro arguments harguments w hw
  match arguments with
  | [] => exact RaisesPlain.throw (e := .argument findName .missingArguments) (.of_nil rfl) w
  | [_] => exact RaisesPlain.throw (e := .argument findName .missingArguments) (.of_nil rfl) w
  | [flag, pattern] =>
    exact plain_of_searchRoot (by decide) (harguments flag List.mem_cons_self) pattern hw
  | [root, flag, pattern] =>
    exact plain_of_searchRoot (harguments root List.mem_cons_self)
      (harguments flag (List.mem_cons_of_mem _ List.mem_cons_self)) pattern hw
  | _ :: _ :: _ :: _ :: _ =>
    exact RaisesPlain.throw (e := .argument findName .tooManyArguments) (.of_nil rfl) w

theorem raisesPlain_countFiles {paths : List Text} (h : ∀ path ∈ paths, path.Unbroken) :
    RaisesPlain (countFiles paths) := by
  induction paths with
  | nil => exact .pure _
  | cons path rest ih =>
    obtain ⟨hpath, hrest⟩ := List.forall_mem_cons.1 h
    exact .bind (.openFile hpath) fun _ ↦ .bind (.ofReading _) fun _ ↦ .bind (ih hrest) fun _ ↦
      .pure _

theorem failsPlainly_wc : wc.FailsPlainly := by
  intro arguments harguments w hw
  simp only [wc]
  split
  · rw [map_eq_pure_bind]
    exact RaisesPlain.bind (.bind (.readInput _) fun _ ↦ .pure _) (fun _ ↦ .write _) w
  · have hfiles : ∀ path ∈ (arguments.partition isCountFlag).2, path.Unbroken := by
      rw [List.partition_eq_filter_filter]
      exact fun path hpath ↦ harguments path (List.mem_filter.1 hpath).1
    exact RaisesPlain.bind (raisesPlain_countFiles hfiles) (fun _ ↦ .write _) w

end Application

/-! ### The registry -/

namespace World

variable {w w' : World} {texts : List Text}

/-- What is written changes no name. -/
theorem Wrote.unbroken_files (h : w.Wrote texts w') (hw : w.files.Unbroken) :
    w'.files.Unbroken := by
  cases h with
  | sink _ _ _ files => exact files ▸ hw
  | file _ _ files => exact files ▸ hw.appendAll _ texts

end World

namespace Registry

/-- An application of the shell leaves an unbroken world unbroken. -/
theorem Confined.unbroken {registry : Registry} (h : registry.Confined) {app : Application}
    (happ : app ∈ registry.applications) (arguments : List Text) {w : World} (hw : w.Unbroken) :
    ((app.run arguments).run.run w).2.Unbroken := by
  obtain ⟨texts, hwrote⟩ := h.writes app happ arguments w
  refine ⟨hwrote.unbroken_files hw.files, ?_⟩
  rcases h.moves app happ arguments w with henv | ⟨-, -, path, dir, -, hdir, henv⟩
  · rw [henv]
    exact hw.env
  · rw [henv]
    exact ⟨hw.files.canonical hdir, hw.env.home⟩

open Application in
/-- **The applications of the shell quote nothing but what they are given and what they find.** -/
theorem standard_failsPlainly (app : Application) (h : app ∈ standard.applications) :
    app.FailsPlainly := by
  have hmem := mem_of_mem_ofList h
  simp only [List.mem_cons, List.not_mem_nil, or_false] at hmem
  rcases hmem with rfl | rfl | rfl | rfl | rfl | rfl | rfl | rfl | rfl | rfl | rfl | rfl
  · exact failsPlainly_pwd
  · exact failsPlainly_cd
  · exact failsPlainly_ls
  · exact failsPlainly_cat
  · exact failsPlainly_echo
  · exact failsPlainly_portion _ _ _
  · exact failsPlainly_portion _ _ _
  · exact failsPlainly_grep
  · exact failsPlainly_sed
  · exact failsPlainly_find
  · exact failsPlainly_history
  · exact failsPlainly_wc

end Registry

end LineShell
