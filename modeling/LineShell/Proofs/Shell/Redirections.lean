import LineShell.Proofs.Files.Follow
import LineShell.Proofs.Shell.Performed

/-!
# Only targets change

The files that a line works on change in one way: a performed call makes or empties the file that
the target of its `>` leads to, and its application writes to that file. Everything else stays
(`Shell.only_targets_change`). A target is known from the text of the call: what is substituted or
matched stays inside its word, so a line without the character `>` leaves all files as they are.

What an application can do to the files is `Registry.Confined`; that the file of `>` is the
one way to the files is `Eval.openedBy_eq_ok`. The rest is bookkeeping along the performed calls.
-/

namespace LineShell

namespace Performed

variable {registry : Registry} {limit : Nat} (p : Performed registry limit)

/-- What the call opens for its output: the files in which the target is made or emptied, and its
location; nothing if there is no target, or if a file of the call cannot be opened. -/
def opened? : Option (Files × Location) :=
  match Eval.inputOf p.words p.ready.world, Eval.outputOf p.words p.ready.world with
  | .ok _, .ok created => created
  | _, _ => none

/-- The location that the target leads to. -/
def target? : Option Location := p.opened?.map Prod.snd

/-- What is opened is the target of `>`, seen from where the call is performed. -/
theorem create_of_opened? {made : Files} {loc : Location} (h : p.opened? = some (made, loc)) :
    ∃ target, p.words.outputs = [target] ∧
      p.before.files.create (p.before.env.resolve target) = .ok (made, loc) := by
  rw [opened?] at h
  split at h
  · next ho =>
    subst h
    obtain ⟨target, htarget, hcreate⟩ := Eval.create_of_outputOf ho
    obtain ⟨rest, hrest⟩ := List.head?_eq_some_iff.1 htarget
    have hlength := p.length_outputs_le
    rw [hrest, List.length_cons] at hlength
    have hnil : rest = [] := List.eq_nil_of_length_eq_zero (by omega)
    exact ⟨target, hnil ▸ hrest, hcreate⟩
  · cases h

/-- A call without the character `>` opens nothing for its output. -/
theorem opened?_eq_none (h : '>' ∉ p.text) : p.opened? = none := by
  have hnone : p.words.outputs = [] :=
    Shell.wordsWith_eq_nil p.read .output (bareCountFrom_of_not_mem h _)
  rw [opened?, Eval.outputOf, hnone]
  cases Eval.inputOf p.words p.ready.world <;> rfl

theorem opened?_of_error {e : ShellError} (h : Eval.openedBy p.words p.ready.world = .error e) :
    p.opened? = none := by
  rw [Eval.openedBy] at h
  rw [opened?]
  split at h
  · cases h
  · next hi ho => rw [hi, ho]
  · next hi => rw [hi]

/-- The files and the output that the call is dispatched with. -/
theorem opened?_of_ok {w : World} (h : Eval.openedBy p.words p.ready.world = .ok w) :
    match p.opened? with
    | some (made, loc) => w.files = made ∧ w.output = .file loc
    | none => w.files = p.before.files ∧ ∃ s, w.output = .sink s := by
  have hworld := (Eval.openedBy_eq_ok h).2
  have hsink := p.output
  rw [Eval.openedBy] at h
  rw [opened?]
  split at h
  · next input output hi ho =>
    rw [ho] at hworld
    rw [hi, ho]
    cases output with
    | none =>
      obtain ⟨s, hs⟩ := hsink
      exact ⟨hworld.1, s, hworld.2.trans hs⟩
    | some created => exact hworld
  · cases h
  · cases h

/-- All that the call changes of the files is its target: it is made or emptied, and holds the texts
that were written to it. Without a target nothing is changed. -/
inductive ChangesTarget : Prop where
  | none (opened : p.opened? = none) (files : p.after.files = p.before.files)
  | target {target : Text} {made : Files} {loc : Location} {texts : List Text}
      (opened : p.opened? = some (made, loc)) (word : p.words.outputs = [target])
      (create : p.before.files.create (p.before.env.resolve target) = .ok (made, loc))
      (files : p.after.files = made.appendAll loc texts)
      (content : p.after.files.root.at? loc = some (.file (Text.encode texts.flatten)))

/-- **A performed call writes texts to its target, and changes no other file**, whatever becomes of
its application, and if there is one at all. -/
theorem changesTarget (happs : registry.Confined) : p.ChangesTarget := by
  rcases p.after_cases with ⟨e, hopened, hafter⟩ | ⟨w, hopened, hafter⟩
  · exact .none (p.opened?_of_error hopened) (congrArg Ground.files hafter)
  · have hworld := p.opened?_of_ok hopened
    -- Without an application nothing is written, so the list of texts is empty.
    have hwrote : ∃ texts w', w.Wrote texts w' ∧ p.after.files = w'.files := by
      rcases hafter with hafter | ⟨app, arguments, hruns⟩
      · exact ⟨[], w, .refl w, congrArg Ground.files hafter⟩
      · obtain ⟨texts, hwrote⟩ := happs.writes app hruns.mem arguments w
        exact ⟨texts, _, hwrote, congrArg Ground.files hruns.after_eq⟩
    obtain ⟨texts, w', hwrote, hfiles⟩ := hwrote
    cases hcreated : p.opened? with
    | none =>
      rw [hcreated] at hworld
      obtain ⟨hsame, s, hs⟩ := hworld
      exact .none hcreated (hfiles.trans ((hwrote.files_eq hs).trans hsame))
    | some created =>
      obtain ⟨made, loc⟩ := created
      rw [hcreated] at hworld
      obtain ⟨hmade, hloc⟩ := hworld
      obtain ⟨target, hword, hcreate⟩ := p.create_of_opened? hcreated
      have hafter' : p.after.files = made.appendAll loc texts := by
        rw [hfiles, hwrote.files_eq_appendAll hloc, hmade]
      refine .target hcreated hword hcreate hafter' ?_
      rw [hafter']
      exact Files.at?_appendAll_self (Files.create_eq_ok hcreate).2 texts

/-- A performed call changes files at the location of its target, if it has one. -/
theorem ChangesTarget.changedAt {p : Performed registry limit} (h : p.ChangesTarget) :
    Files.ChangedAt p.target?.toList p.before.files p.after.files := by
  cases h with
  | none opened files =>
    rw [files, target?, opened]
    exact .refl _
  | @target target made loc texts opened _ create files _ =>
    rw [files, target?, opened]
    have hboth := (Files.create_eq_ok create).1.trans (Files.changedAt_appendAll made loc texts)
    exact hboth.mono fun loc' hmem ↦ by simpa using hmem

/-- A performed call without the character `>` leaves all files as they are. -/
theorem ChangesTarget.files_eq {p : Performed registry limit} (h : p.ChangesTarget)
    (hmarker : '>' ∉ p.text) : p.after.files = p.before.files := by
  cases h with
  | none _ files => exact files
  | target opened _ _ _ _ => exact nomatch (p.opened?_eq_none hmarker).symm.trans opened

end Performed

/-- Along performed calls, files change at the locations of their targets. -/
theorem Leads.changedAt {registry : Registry} {limit : Nat} {ps : List (Performed registry limit)}
    {g g' : Ground} (h : Leads g ps g') (hps : ∀ p ∈ ps, p.ChangesTarget) :
    Files.ChangedAt (ps.filterMap Performed.target?) g.files g'.files := by
  induction ps generalizing g with
  | nil =>
    obtain rfl : g = g' := h
    exact .refl _
  | cons p ps ih =>
    obtain ⟨hp, hrest⟩ := List.forall_mem_cons.1 hps
    obtain ⟨rfl, hleads⟩ := h
    have hboth := hp.changedAt.trans (ih hleads hrest)
    rw [List.filterMap_cons]
    cases htarget : p.target? with
    | none => rwa [htarget] at hboth
    | some loc => rwa [htarget] at hboth

/-- Performed calls without targets leave the files as they are. -/
theorem Leads.files_eq {registry : Registry} {limit : Nat} {ps : List (Performed registry limit)}
    {g g' : Ground} (h : Leads g ps g') (hps : ∀ p ∈ ps, p.after.files = p.before.files) :
    g'.files = g.files :=
  (h.preserves (P := fun ground ↦ ground.files = g.files)
    (fun p hp hbefore ↦ (hps p hp).trans hbefore) rfl).2

namespace Shell

/-- **Only targets change.** Whatever a line of the shell does, succeed or fail, it changes the
files by the calls of its text that are performed, top-level ones and those in back-quotes, one
after the other, and each of them changes nothing but the file that the target of its `>` leads to.
That file is made, or emptied, and then holds the texts that were written to it, also if the
application fails or is unknown. So no entry is removed or becomes one of another kind, nothing but
files is made, and every file that is no target keeps its bytes. A line without the character `>`
leaves all files exactly as they were. -/
theorem only_targets_change (sh : Shell) (hregistry : sh.registry = .standard) (line : Text)
    (input : Option Source) (output : Sink) :
    let ran := sh.run line input output
    (∃ ps, sh.PerformedBy line ran ps ∧ (∀ p ∈ ps, p.ChangesTarget) ∧
      Files.ChangedAt (ps.filterMap Performed.target?) sh.files ran.shell.files) ∧
    ('>' ∉ line → ran.shell.files = sh.files) := by
  intro ran
  have happs : sh.registry.Confined := hregistry ▸ Registry.standard_confined
  obtain ⟨ps, hps⟩ := sh.exists_performedBy happs line input output
  have hchanges : ∀ p ∈ ps, p.ChangesTarget := fun p _ ↦ p.changesTarget happs
  refine ⟨⟨ps, hps, hchanges, hps.leads.changedAt hchanges⟩, fun hline ↦ ?_⟩
  refine hps.leads.files_eq fun p hp ↦ ?_
  have hnone := p.opened?_eq_none fun hmem ↦ hline ((hps.calls p hp).mem_of_mem hmem)
  cases hchanges p hp with
  | none _ files => exact files
  | target opened _ _ _ _ => exact nomatch hnone.symm.trans opened

/-- A target in back-quotes, one that is a link, and one of an unknown application. -/
theorem only_targets_change_linked :
    let files := (Files.empty.writeFile (Path.ofText "/f".toList) [0x61]).makeLink
      (Path.ofText "/l".toList) (Path.ofText "f".toList)
    let sh : Shell := { env := { workingDir := [Path.slash] }, files }
    let line := "echo a`echo b >x` >l; nope >y".toList
    let reading := "cat f | wc; echo `cat none`".toList
    let content (name : String) : Option Bytes :=
      match (sh.run line none .fresh).shell.files.root.at? [Path.ofText name.toList] with
      | some (.file content) => some content
      | _ => none
    sh.registry = .standard ∧
    (sh.run line none .fresh).result = .error (.unknownApplication "nope".toList) ∧
    content "f" = some [0x61, 0x0A] ∧ content "x" = some [0x62, 0x0A] ∧ content "y" = some [] ∧
    (∃ ps, sh.PerformedBy line (sh.run line none .fresh) ps ∧
      Files.ChangedAt (ps.filterMap Performed.target?) sh.files
        (sh.run line none .fresh).shell.files) ∧
    '>' ∉ reading ∧ (sh.run reading none .fresh).shell.files = sh.files := by
  intro files sh line reading content
  have hregistry : sh.registry = .standard := rfl
  have hreading : '>' ∉ reading := by decide
  obtain ⟨⟨ps, hps, -, hchanged⟩, -⟩ := only_targets_change sh hregistry line none .fresh
  obtain ⟨-, hsame⟩ := only_targets_change sh hregistry reading none .fresh
  exact ⟨hregistry, by decide +kernel, by decide +kernel, by decide +kernel, by decide +kernel,
    ⟨ps, hps, hchanged⟩, hreading, hsame hreading⟩

end Shell

end LineShell
