import LineShell.Proofs.Application.Effects
import LineShell.Proofs.Application.NamedFiles
import LineShell.Proofs.Shell.PlainCalls

/-!
# Files by name and through `<`

A file that a call names and one that it is fed by a redirection are opened in different places: the
former by the application, while it runs, the latter by the evaluator, before the application is
looked up. What is opened is the same, since nothing happens in between, and what the application
makes of it is too (`Application.Asks.run_named`).
-/

namespace LineShell

open Application

namespace Eval

variable {m : Machine} {w : World} {f : Text} {content : Bytes} {app : Application}
variable {raw : List Text} {d : Demand}

/-- A file that can be read is found, and feeds its content. -/
theorem exists_sourceAt (hfile : w.files.read (w.env.resolve f) = .ok (.file content)) :
    ∃ loc, w.files.find (w.env.resolve f) = .ok loc ∧ sourceAt w.files loc = .bytes content := by
  rw [Files.read] at hfile
  split at hfile
  · next loc hfind =>
    refine ⟨loc, hfind, ?_⟩
    cases hat : w.files.root.at? loc with
    | none =>
      rw [hat] at hfile
      cases hfile
    | some node =>
      rw [hat] at hfile
      obtain rfl := Except.ok.inj hfile
      rw [sourceAt, hat]
  · cases hfile

/-- Behind the other arguments a name that is taken as it stands is not expanded, and makes no
difference to how they are. -/
theorem expandedOn_concat (hasks : Asks app (expandedOn m app raw) d []) (hf : Inert f) :
    expandedOn m app (raw ++ [f]) = expandedOn m app raw ++ [f] :=
  expandArguments_concat _ _ (fun _ hi ↦ patternIndex_append hasks hi [f]) hf.no_star

end Eval

/-- The applications that read files do not change the directory. -/
theorem Application.Asks.name_ne_cdName {app : Application} {arguments files : List Text}
    {d : Demand} (h : Asks app arguments d files) : app.name ≠ cdName := by
  have hreaders : ∀ reader ∈ readers, reader.1.name ≠ cdName := by decide
  cases h with
  | help _ hmem => exact hreaders _ hmem
  | run hmem => exact hreaders _ hmem
  | count => decide

namespace Shell

open Eval

variable {m : Machine} {fed f : Text} {content : Bytes} {app : Application}
variable {policy : FailurePolicy} {raw : List Text} {d : Demand}

/-- **A file that is named is read as one that feeds the call.** The application is one of `cat`,
`head`, `tail`, `grep`, `sed` and `wc`; its arguments are accepted and name no file, and the file is
any regular one, the bytes of a text or not. The call that is fed the file and any call that makes
the same demand of the file as its only operand end alike: with the same result, so with the same
message if they fail, and on machines that differ in the log at most, so with the same output, also
when it was written before a failure.

Nothing else is done: the environment and the input are as they were, the files too unless the
output is one, and the error channel unless failures are reported there.

A call of that kind is the one with the name behind the other arguments, if they ask for no help and
the name is no option and no pattern. -/
theorem named_file_reads_as_input (sh : Shell) (hregistry : sh.registry = .standard)
    (hfile : m.world.files.read (m.world.env.resolve f) = .ok (.file content))
    (hfed : CallsOn fed app policy raw f) (hasks : Asks app (expandedOn m app raw) d []) :
    (∀ named raw', Calls named app policy raw' → Asks app (expandedOn m app raw') d [f] →
      let ended := sh.treeFrom (.call named) m
      SameEnd ended (sh.treeFrom (.call fed) m) ∧
      ended.2.world.env = m.world.env ∧ ended.2.world.input = m.world.input ∧
      (∃ texts, m.world.Wrote texts ended.2.world) ∧
      (policy = .endLine → ended.2.errors = m.errors)) ∧
    (d ≠ .help → Inert f → Asks app (expandedOn m app (raw ++ [f])) d [f]) := by
  refine ⟨fun named raw' hnamed hasks' ↦ ?_, fun hhelp hf ↦ ?_⟩
  · obtain ⟨loc, hfind, hsource⟩ := exists_sourceAt hfile
    have hran : appliedOn m app raw' =
        (app.run (expandedOn m app raw)).fedRun m.world (.bytes content) :=
      hasks.run_named hfile hasks'
    have hnamedEnd : SameEnd (sh.treeFrom (.call named) m)
        (endedBy policy (appliedOn m app raw') m) := sameEnd_call hregistry hnamed m
    have hfedEnd : SameEnd (sh.treeFrom (.call fed) m)
        (endedBy policy (appliedOn m app raw') m) := by
      have hend := sameEnd_fed hregistry hfed hfind
      rw [hsource] at hend
      rw [hran]
      exact hend
    have hworld : (sh.treeFrom (.call named) m).2.world = (appliedOn m app raw').2 :=
      congrArg Machine.world hnamedEnd.2
    obtain ⟨command, -, hresolve⟩ := hnamed
    have happ : app ∈ Registry.standard.applications := Registry.mem_of_resolve_eq_ok hresolve
    refine ⟨hnamedEnd.trans hfedEnd.symm, ?_, ?_, ?_, ?_⟩
    · rw [hworld]
      exact Registry.standard_scheme Act.scheme_keepsEnvironment app happ _ m.world
        hasks.name_ne_cdName
    · rw [hworld, hran]
      rfl
    · rw [hworld]
      exact Registry.standard_confined.writes app happ _ m.world
    · rintro rfl
      have hkept : ∀ result, (settling .endLine result m.errors).2 = m.errors := by
        rintro (e | ⟨⟩) <;> rfl
      exact (congrArg Machine.errors hnamedEnd.2).trans (hkept _)
  · rw [expandedOn_concat hasks hf]
    exact hasks.concat hhelp hf

/-- A file that is no text, behind an option and a pattern: both calls fail, each as `grep`. -/
theorem named_file_reads_as_input_broken :
    let sh : Shell := { env := { workingDir := [Path.slash] }, files := .empty }
    let files := Files.empty.writeFile (Path.ofText "/f".toList) [0x61, 0x0A, 0xFF, 0x0A]
    let m : Machine := ⟨⟨sh.env, files, none, .sink .fresh⟩, .fresh, 0, []⟩
    let raw : List Text := ["-i".toList, "A".toList]
    let f : Text := "f".toList
    let named := Token.render (literals ("grep".toList :: (raw ++ [f])))
    let fed := "grep -i A <f".toList
    CallsOn fed grep .endLine raw f ∧ Calls named grep .endLine (raw ++ [f]) ∧
    Asks grep (expandedOn m grep raw) (.run [('i', none)] ["A".toList]) [] ∧ Inert f ∧
    (sh.treeFrom (.call named) m).1 = .error (.stream grepName .notUtf8) ∧
    SameEnd (sh.treeFrom (.call named) m) (sh.treeFrom (.call fed) m) := by
  intro sh files m raw f named fed
  have hresolve : Registry.standard.resolve "grep".toList = .ok (grep, .endLine) :=
    Registry.resolve_of_find? (by decide +kernel : readCommandWord _ = (.endLine, grepName)) rfl
  have hfed : CallsOn fed grep .endLine raw f :=
    ⟨"grep".toList, ⟨_, rfl, rfl, rfl, rfl⟩, hresolve⟩
  have hnamed : Calls named grep .endLine (raw ++ [f]) := calls_render hresolve _
  have hasks : Asks grep (expandedOn m grep raw) (.run [('i', none)] ["A".toList]) [] := by
    have hmem : (grep, grepUsage, 1) ∈ readers := by simp [readers]
    have hread : grepUsage.read (expandedOn m grep raw) =
        .ok (.run ⟨[('i', none)], [.text "A".toList]⟩) := by decide +kernel
    exact Asks.run hmem hread rfl rfl
  have hf : Inert f := ⟨by decide, by decide, by decide⟩
  have hfile : m.world.files.read (m.world.env.resolve f) =
      .ok (.file [0x61, 0x0A, 0xFF, 0x0A]) := rfl
  obtain ⟨hsame, hconcat⟩ := named_file_reads_as_input sh rfl hfile hfed hasks
  obtain ⟨hend, -⟩ := hsame named (raw ++ [f]) hnamed (hconcat nofun hf)
  have hfails : (sh.treeFrom (.call named) m).1 = .error (.stream grepName .notUtf8) := by
    decide +kernel
  exact ⟨hfed, hnamed, hasks, hf, hfails, hend⟩

end Shell

end LineShell
