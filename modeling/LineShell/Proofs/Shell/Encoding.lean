import LineShell.Proofs.Shell.Capture
import LineShell.Proofs.Shell.Redirections

/-!
# Only texts flow

Files, names and the input of a line can hold any bytes. What calls write never does: an application
writes texts (`World.Wrote`), and whatever it writes to, a pipe, a command in back-quotes, a file or
the output of the line, holds the bytes of a text then, at whatever point the application fails.

From this three things follow (`Shell.only_texts_flow`). What a pipe feeds to a call has no part in
a failure for an encoding; which application reads what is settled in `Registry.standard_takesText`.
What is put in the place of a command in back-quotes is what it wrote, without a replacement
character that it did not write. And once all files hold texts, they do so for good.
-/

namespace LineShell

/-! ### Files that hold texts -/

/-- Every file holds the bytes of a text. -/
def Files.AllText (files : Files) : Prop :=
  ∀ loc content, files.root.at? loc = some (.file content) → ∃ t : Text, content = t.encode

namespace Performed

variable {registry : Registry} {limit : Nat} {p : Performed registry limit}

/-- A call writes a text to its target, so if all files held texts before, they do so after it. -/
theorem allText_after (p : Performed registry limit) (happs : registry.Confined)
    (h : p.before.files.AllText) : p.after.files.AllText := by
  intro loc content hfile
  have hchanges := p.changesTarget happs
  by_cases hloc : loc ∈ p.target?.toList
  · cases hchanges with
    | none opened _ =>
      rw [target?, opened] at hloc
      exact absurd hloc List.not_mem_nil
    | @target _ made loc' texts opened _ _ _ written =>
      rw [target?, opened] at hloc
      obtain rfl : loc = loc' := by simpa using hloc
      exact ⟨texts.flatten, Node.file.inj (Option.some.inj (hfile.symm.trans written))⟩
  · exact h loc content (hchanges.changedAt.file_of_not_mem hloc hfile)

/-- What feeds the call is nothing or a text, and it has no part in a failure for an encoding: the
application of the call fails alike if nothing feeds it. -/
structure TakesText (p : Performed registry limit) : Prop where
  fed : Source.IsText p.ready.world.input
  fails : ∀ {w app arguments e}, Eval.openedBy p.words p.ready.world = .ok w →
    p.Runs w app arguments → w.input = p.ready.world.input →
    ((app.run arguments).run.run w).1 = .error e → e.IsEncoding →
    ((app.run arguments).run.run { w with input := none }).1 = .error e

theorem takesText (happs : ∀ app ∈ registry.applications, app.TakesText)
    (hfed : Source.IsText p.ready.world.input) : p.TakesText where
  fed := hfed
  fails _ hruns hinput hfail he :=
    (happs _ hruns.mem _).error_without (hinput ▸ hfed) hfail he

end Performed

/-! ### Buffers -/

namespace Eval

variable {registry : Registry} {limit : Nat} {m : Machine}

/-- Run into a buffer, the step ends with the result on the machine `m'`, and the buffer holds the
bytes of the text. -/
def Buffers (x : Eval Unit) (m : Machine) (result : Except ShellError Unit) (t : Text)
    (m' : Machine) : Prop :=
  ∃ s : Sink, runOn (writingTo (.sink .fresh) x) m = (.ok (result, .sink s), m') ∧
    s.bytes = t.encode

/-- What a step writes to a buffer is a text, whether the step succeeds or fails. -/
theorem FlowsText.exists_buffers {x : Eval Unit} (hx : FlowsText x) (m : Machine) :
    let ended := runOn x (m.withOutput (.sink .fresh))
    ∃ t, written ended.2.world.output = Text.encode t ∧
      Buffers x m ended.1 t (ended.2.withOutput m.world.output) := by
  intro ended
  obtain ⟨s, t, hs, hbytes⟩ := (hx (m.withOutput (.sink .fresh))).output .fresh rfl
  have hwritten : s.bytes = Text.encode t := hbytes
  refine ⟨t, ?_, s, ?_, hwritten⟩
  · rw [hs]
    exact hwritten
  · rw [runOn_writingTo, hs]

/-- **What goes through a pipe is a text**, also when the left side fails. The calls on the right
side do not fail because of it. -/
theorem pipe_flows (happs : registry.Confined)
    (htakes : ∀ app ∈ registry.applications, app.TakesText) (levels : Nat) (left right : Tree)
    (hm : HasSink m) :
    let evaluate := tree registry (substitution registry limit levels)
    ∃ result t m', Buffers (evaluate left) m result t m' ∧
      (result = .ok () →
        let fed := fedBy (some (.bytes t.encode)) (evaluate right)
        runOn (evaluate (.pipe left right)) m = runOn fed m' ∧
        ∃ ps : List (Performed registry limit),
          Connects m' ps (runOn fed m').2 ∧ ∀ p ∈ ps, p.TakesText) := by
  intro evaluate
  have hflows := compositional_flows limit happs
  have hleft : FlowsText (evaluate left) := hflows.tree (hflows.substitution levels) left
  obtain ⟨t, hwritten, hbuffers⟩ := hleft.exists_buffers m
  refine ⟨_, t, _, hbuffers, fun hok ↦ ?_⟩
  have hright : Performing registry limit (fun _ ↦ True) (evaluate right) :=
    (callWise_performing happs _).tree (fun _ _ ↦ ⟨trivial, levels, rfl⟩) fun _ _ c _ ↦
      (callWise_performing happs _).substitution levels c fun levels _ _ ↦ ⟨trivial, levels, rfl⟩
  rcases hrun : runOn (evaluate left) (m.withOutput (.sink .fresh)) with ⟨result, m'⟩
  rw [hrun] at hok hwritten
  obtain rfl : result = .ok () := hok
  have hpipe : runOn (evaluate (.pipe left right)) m = _ := runOn_pipe_of_ok hrun
  rw [hwritten] at hpipe
  refine ⟨hpipe, ?_⟩
  -- Calls that a text feeds are performed there, whatever fed the pipe itself.
  obtain ⟨ps, ⟨hleads, hinvocations⟩, hps⟩ :=
    (hright ((m'.withOutput m.world.output).withInput (some (.bytes t.encode))) hm).calls
  exact ⟨ps, ⟨hleads, hinvocations⟩, fun p hp ↦
    p.takesText htakes ((hps p hp).fed (Source.isText_encode t))⟩

/-- A captured command that gives a text gives what it wrote. -/
theorem eq_capturedText {x : Eval Unit} {text : Text} {m' : Machine}
    (h : runOn (captured x) m = (.ok text, m')) :
    text = capturedText (runOn (fedBy none x) (m.withOutput (.sink .fresh))).2.world.output := by
  rcases hrun : runOn (fedBy none x) (m.withOutput (.sink .fresh)) with ⟨e | ⟨⟩, m''⟩
  · rw [runOn_captured_of_error hrun, runOn_bind] at h
    -- The error is reported first, and a report that fails gives no text.
    split at h
    · exact (Except.ok.inj (congrArg Prod.fst h)).symm
    · exact nomatch congrArg Prod.fst h
  · rw [runOn_captured_of_ok hrun] at h
    exact (Except.ok.inj (congrArg Prod.fst h)).symm

/-- **What is put in the place of a command is what the command wrote**, without one line end. -/
theorem substitute_flows (happs : registry.Confined) (levels : Nat) (command : Text) (m : Machine) :
    let entered := fedBy none (nested limit (line registry limit levels) command)
    ∃ result t m', Buffers entered m result t m' ∧
      ∀ text m'', runOn (substitute limit (line registry limit levels) command) m =
        (.ok text, m'') → DropsLineEnd t text := by
  intro entered
  have hR := stepwise_flows happs
  have hentered : FlowsText entered := fun m ↦
    hR.fedBy none
      (hR.along_nested ((hR.compositional limit).line levels command) (m.withInput none))
  obtain ⟨t, hwritten, hbuffers⟩ := hentered.exists_buffers m
  refine ⟨_, t, _, hbuffers, fun text m'' hrun ↦ ?_⟩
  rw [eq_capturedText hrun, capturedText, hwritten, Utf8.decodeLossy_encode]
  exact dropsLineEnd_withoutLineEnd t

end Eval

namespace Shell

open Eval

/-- **Only texts flow between calls**, whatever bytes the files and the input hold, and whether or
not calls fail.

What a line writes to its output is a text, and so is what a call writes to its target. What the
left side of a pipe writes is a text; if the left side succeeds, the text feeds the right side, and
for the calls that are performed there it is no reason to fail for an encoding. What a command in
back-quotes writes is a text, and what is put in its place is that text without one line end. A
session that finds a text in every file leaves a text in every file. -/
theorem only_texts_flow (sh : Shell) (hregistry : sh.registry = .standard) :
    (∀ (line : Text) (input : Option Source) (output : Sink),
      let ran := sh.run line input output
      (∃ t : Text, ran.output.bytes = output.bytes ++ t.encode) ∧
      ∃ ps, sh.PerformedBy line ran ps ∧ ∀ p ∈ ps, p.ChangesTarget) ∧
    (∀ (levels : Nat) (left right : Tree) (m : Machine), HasSink m →
      let evaluate := tree sh.registry (substitution sh.registry sh.limit levels)
      ∃ result t m', Buffers (evaluate left) m result t m' ∧
        (result = .ok () →
          let fed := fedBy (some (.bytes t.encode)) (evaluate right)
          runOn (evaluate (.pipe left right)) m = runOn fed m' ∧
          ∃ ps : List (Performed sh.registry sh.limit),
            Connects m' ps (runOn fed m').2 ∧ ∀ p ∈ ps, p.TakesText)) ∧
    (∀ (levels : Nat) (command : Text) (m : Machine),
      let entered := fedBy none (nested sh.limit (line sh.registry sh.limit levels) command)
      ∃ result t m', Buffers entered m result t m' ∧
        ∀ text m'', runOn (substitute sh.limit (line sh.registry sh.limit levels) command) m =
          (.ok text, m'') → DropsLineEnd t text) ∧
    (∀ requests : List Request, (∀ request ∈ requests, request.OfSession) →
      sh.files.AllText → (sh.after requests).files.AllText) := by
  have happs : sh.registry.Confined := hregistry ▸ Registry.standard_confined
  have htakes : ∀ app ∈ sh.registry.applications, app.TakesText :=
    hregistry ▸ Registry.standard_takesText
  refine ⟨fun line input output ↦ ⟨?_, ?_⟩,
    fun levels left right m hm ↦ pipe_flows happs htakes levels left right hm,
    substitute_flows happs, fun requests hrequests hfiles ↦ ?_⟩
  · have hline := (compositional_flows sh.limit happs).line (sh.limit - sh.depth) line
    obtain ⟨s, t, hs, hbytes⟩ := (hline (sh.machine input output)).output output rfl
    refine ⟨t, ?_⟩
    rw [run_eq, ranOf, hs]
    exact hbytes
  · obtain ⟨ps, hps⟩ := sh.exists_performedBy happs line input output
    exact ⟨ps, hps, fun p _ ↦ p.changesTarget happs⟩
  · exact ground_after (P := fun g ↦ g.files.AllText) Performed.allText_after (fun h _ ↦ h) happs
      hrequests hfiles

/-- A line whose input is no text: what a call in back-quotes writes before it fails goes through a
pipe, and only the call behind it, which reads the input of the line, fails for an encoding. -/
theorem only_texts_flow_midway :
    let sh : Shell := { env := { workingDir := [Path.slash] }, files := .empty }
    let line := "echo é >x; echo `cat x none` | cat; cat".toList
    let input : Option Source := some (.bytes [0x61, 0x0A, 0xFF])
    sh.registry = .standard ∧
    (sh.run line input .fresh).result = .error (.stream Application.catName .notUtf8) ∧
    (sh.run line input .fresh).output.bytes = Text.encode "é\n".toList ∧
    (∃ t : Text, (sh.run line input .fresh).output.bytes = Sink.fresh.bytes ++ t.encode) ∧
    sh.files.AllText ∧ (sh.after [.run line input .fresh]).files.AllText := by
  intro sh line input
  have hregistry : sh.registry = .standard := rfl
  have hfiles : sh.files.AllText := by
    rintro (_ | ⟨name, rest⟩) content ⟨⟩
  have hrequests : ∀ request ∈ [Request.run line input .fresh], request.OfSession :=
    List.forall_mem_singleton.2 (.run _ _ _)
  obtain ⟨hlines, -, -, hsessions⟩ := only_texts_flow sh hregistry
  exact ⟨hregistry, by decide +kernel, by decide +kernel, (hlines line input .fresh).1, hfiles,
    hsessions _ hrequests hfiles⟩

end Shell

end LineShell
