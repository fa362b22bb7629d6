import LineShell.Proofs.Application.LineWise
import LineShell.Proofs.Application.PatternIndex
import LineShell.Proofs.Application.Windows
import LineShell.Proofs.Shell.PlainCalls
import LineShell.Proofs.Text.Lines

/-!
# What a line is to `head`, `tail` and `cat`

All three cut their input in the same way and write lines with a line feed behind each. So `head`
shows the first lines that `cat` shows and `tail` the last ones, and the two together show what
`cat` shows, if their counts add up to the number of lines.

Along a pipe the lines that one side writes are read by the other, unless one of them ends with a
carriage return (`Text.lines_unlines_of_subset`). So a second portion of a first one is a portion of
the whole, and `cat` in front of an application that reads lines changes nothing; the former because
of what is known of `take` and `drop`, the latter because such an application cannot tell two inputs
with the same lines apart (`Registry.standard_lineWise`).
-/

namespace LineShell

open Act

namespace Application

variable {digits : Text} {count : Nat} {lines : List Text} {w : World} {s rest : Source}

/-! ### What the applications show -/

/-- With a count and nothing else the arguments ask for this count. -/
theorem read_portionUsage (purpose counted : String) (h : Text.readCount digits = .ok count) :
    (portionUsage purpose counted).read ["-n".toList, digits] =
      .ok (.run ⟨[('n', some (.count count))], []⟩) := by
  let o : OptionSpec :=
    { short := 'n', long := "lines".toList, kind := .count, purpose := counted.toList }
  have hname : (portionUsage purpose counted).readArgument {} "-n".toList =
      .ok { awaiting := some (o, "-n".toList) } := rfl
  have hvalue : (portionUsage purpose counted).readArgument
      { awaiting := some (o, "-n".toList) } digits =
        .ok { given := ⟨[('n', some (.count count))], []⟩ } := by
    simp only [Usage.readArgument, Usage.readValue, o, h]
    rfl
  rw [Usage.read, List.foldlM_cons, hname]
  show ((List.foldlM _ _ [digits] : Except UsageFault Usage.Progress) >>= _) = _
  rw [List.foldlM_cons, hvalue]
  rfl

theorem run_readLines (name : Text) (hinput : w.input = some s)
    (hlines : s.readLines = (.ok lines, rest)) :
    (readInput name Source.readLines).run.run w = (.ok lines, { w with input := some rest }) := by
  rw [run_readInput, hinput]
  dsimp only
  rw [hlines]
  rfl

/-- **A portion of a given count** is what is picked of the lines of the input. -/
theorem run_portion (name : Text) (purpose counted : String)
    (pick : Nat → List Text → List Text) (hcount : Text.readCount digits = .ok count)
    (hpos : 1 ≤ count) (hinput : w.input = some s) (hlines : s.readLines = (.ok lines, rest)) :
    ((portion name (portionUsage purpose counted) pick).run ["-n".toList, digits]).run.run w =
      (writeLines name (pick count lines)).run.run { w with input := some rest } := by
  have hzero : count ≠ 0 := by omega
  rw [portion, ofUsage]
  dsimp only
  rw [read_portionUsage purpose counted hcount]
  show ((if count = 0 then _ else _) : Act Unit).run.run w = _
  rw [if_neg hzero]
  exact run_bind_of_ok (run_readLines name hinput hlines)

theorem run_cat_input (hinput : w.input = some s) (hlines : s.readLines = (.ok lines, rest)) :
    (cat.run []).run.run w = (writeLines catName lines).run.run { w with input := some rest } :=
  run_bind_of_ok (run_readLines catName hinput hlines)

/-- The last lines of the last lines are last lines. -/
theorem lastLines_lastLines (count count' : Nat) (lines : List Text) :
    lastLines count' (lastLines count lines) = lastLines (min count count') lines := by
  rw [lastLines, lastLines, lastLines, List.length_drop, List.drop_drop]
  congr 1
  omega

end Application

namespace Eval

variable {app : Application} {raw : List Text} {m : Machine}

/-- Arguments without a star are not expanded. -/
theorem expandedOn_of_starless (h : ∀ argument ∈ raw, star ∉ argument) :
    expandedOn m app raw = raw := by
  have hkept : ∀ (kept : Option Nat) (k : Nat), (raw.zipIdx k).flatMap (fun numbered ↦
      if some numbered.2 = kept ∨ star ∉ numbered.1 then [numbered.1]
      else Glob.expand m.world.files m.world.env.workingDir numbered.1) = raw := by
    intro kept k
    induction raw generalizing k with
    | nil => rfl
    | cons argument rest ih =>
      obtain ⟨hfirst, hrest⟩ := List.forall_mem_cons.1 h
      rw [List.zipIdx_cons, List.flatMap_cons, ih hrest]
      exact congrArg (· ++ rest) (if_pos (Or.inr hfirst))
  exact hkept _ 0

end Eval

namespace Shell

open Application Eval

variable {sh : Shell} {m : Machine} {t text left right first last whole : Text}
variable {app : Application} {policy policy' policy'' : FailurePolicy} {raw : List Text}
variable {count count' : Nat}

/-! ### Calls -/

/-- The call shows so many lines from one end: its arguments are `-n` and the number. -/
def CallsFor (text : Text) (app : Application) (policy : FailurePolicy) (count : Nat) : Prop :=
  ∃ digits, Text.readCount digits = .ok count ∧ Calls text app policy ["-n".toList, digits]

/-- Every number below `2 ^ 64` can be asked for. -/
theorem callsFor_ofNat {command : Text} (h : Registry.standard.resolve command = .ok (app, policy))
    (hcount : count ≤ Text.maxCount) :
    CallsFor (Token.render (literals [command, "-n".toList, Text.ofNat count])) app policy count :=
  ⟨Text.ofNat count, Text.readCount_ofNat hcount, calls_render h _⟩

/-- The call takes all of its input and shows the text, and that is all it does, on any sink that
accepts what is written. -/
def Shows (sh : Shell) (m : Machine) (text shown : Text) : Prop :=
  ∀ s : Sink, s.refuses = false →
    SameEnd (sh.treeFrom (.call text) (m.withOutput (.sink s)))
      (.ok (), m.withWorld { m.world with
        input := some (.bytes []), output := .sink (s.append shown.encode) })

/-- The same end, if it does not count what is left of the input. -/
def SameEffect (r r' : Except ShellError Unit × Machine) : Prop :=
  SameEnd (r.1, r.2.withInput none) (r'.1, r'.2.withInput none)

theorem SameEnd.sameEffect {r r' : Except ShellError Unit × Machine} (h : SameEnd r r') :
    SameEffect r r' := ⟨h.1, congrArg (fun m ↦ m.withInput none) h.2⟩

theorem SameEffect.trans {r r' r'' : Except ShellError Unit × Machine} (h : SameEffect r r')
    (h' : SameEffect r' r'') : SameEffect r r'' := SameEnd.trans h h'

theorem SameEffect.symm {r r' : Except ShellError Unit × Machine} (h : SameEffect r r') :
    SameEffect r' r := SameEnd.symm h

theorem sameEffect_endedBy (policy : FailurePolicy) (m : Machine)
    {ran ran' : Except ShellError Unit × World} (hresult : ran.1 = ran'.1)
    (hworld : { ran.2 with input := none } = { ran'.2 with input := none }) :
    SameEffect (endedBy policy ran m) (endedBy policy ran' m) := by
  obtain ⟨result, w⟩ := ran
  obtain rfl : result = ran'.1 := hresult
  exact ⟨rfl, congrArg (fun world ↦ (endedBy policy (ran'.1, world) m).2.unlogged) hworld⟩

/-- A count and its option are not expanded. -/
theorem expandedOn_count {digits : Text} (h : Text.readCount digits = .ok count)
    (app : Application) (m : Machine) :
    expandedOn m app ["-n".toList, digits] = ["-n".toList, digits] := by
  refine expandedOn_of_starless ?_
  rintro argument (_ | ⟨_, _ | ⟨_, hnil⟩⟩)
  · decide
  · intro hstar
    rcases Text.digit?_of_readCount h hstar with hplus | hdigit
    · exact absurd hplus (by decide)
    · exact absurd hdigit (by decide)
  · cases hnil

/-! ### Calls that write lines -/

/-- Wherever the output goes, the call takes all of its input and writes the lines. -/
def Puts (m : Machine) (app : Application) (raw : List Text) (name : Text) (ls : List Text) :
    Prop :=
  ∀ output, appliedOn (m.withOutput output) app raw =
    (writeLines name ls).run.run { m.world with input := some (.bytes []), output }

/-- A portion of the input is what is picked of its lines. -/
theorem puts_portion (name : Text) (purpose counted : String) (pick : Nat → List Text → List Text)
    (hinput : m.world.input = some (.bytes t.encode)) (hpos : 1 ≤ count) {digits : Text}
    (hcount : Text.readCount digits = .ok count) :
    Puts m (portion name (portionUsage purpose counted) pick) ["-n".toList, digits] name
      (pick count t.lines) := by
  intro output
  rw [appliedOn, expandedOn_count hcount]
  exact run_portion name purpose counted pick hcount hpos hinput (Source.readLines_text t)

theorem puts_cat (hinput : m.world.input = some (.bytes t.encode)) :
    Puts m cat [] catName t.lines :=
  fun _ ↦ run_cat_input hinput (Source.readLines_text t)

variable {name : Text} {ls : List Text}

theorem Puts.shows (hregistry : sh.registry = .standard) (hcalls : Calls text app policy raw)
    (h : Puts m app raw name ls) : sh.Shows m text (Text.unlines ls) := by
  intro s hs
  refine (sameEnd_call hregistry hcalls _).trans ?_
  rw [h, run_writeLines rfl hs]
  cases policy <;> exact ⟨rfl, rfl⟩

/-- **Lines that are written along a pipe** are the input of the right side. -/
theorem Puts.sameEnd_pipe (hregistry : sh.registry = .standard) {leftApp : Application}
    {leftRaw : List Text} (hleft : Calls left leftApp policy' leftRaw)
    (hright : Calls right app policy raw) (h : Puts m leftApp leftRaw name ls) :
    let ended := endedBy policy
      (appliedOn (m.withInput (some (.bytes (Text.unlines ls).encode))) app raw) m
    SameEnd (sh.treeFrom (.pipe (.call left) (.call right)) m)
      (ended.1, ended.2.withInput (some (.bytes []))) := by
  have hran := (h (.sink .fresh)).trans (run_writeLines rfl rfl name ls)
  have hwritten : ∀ w : World,
      written (w.withSink (Sink.fresh.append (Text.unlines ls).encode)).output =
        (Text.unlines ls).encode := fun _ ↦ List.nil_append _
  have hpipe := Shell.sameEnd_pipe hregistry hleft hright hran
  rw [hwritten] at hpipe
  exact hpipe

/-- **A portion of a portion.** -/
theorem sameEnd_portions (hregistry : sh.registry = .standard)
    (hinput : m.world.input = some (.bytes t.encode)) (hreturns : '\r' ∉ t)
    (name : Text) (purpose counted : String) {pick : Nat → List Text → List Text}
    (hpick : ∀ count lines, pick count lines ⊆ lines)
    (hpicks : ∀ count count' lines, pick count' (pick count lines) = pick (min count count') lines)
    (hpos : 1 ≤ count) (hpos' : 1 ≤ count')
    (hleft : CallsFor left (portion name (portionUsage purpose counted) pick) policy' count)
    (hright : CallsFor right (portion name (portionUsage purpose counted) pick) policy count')
    (hwhole : CallsFor whole (portion name (portionUsage purpose counted) pick) policy
      (min count count')) :
    SameEnd (sh.treeFrom (.pipe (.call left) (.call right)) m) (sh.treeFrom (.call whole) m) := by
  obtain ⟨digits, hdigits, hleft⟩ := hleft
  obtain ⟨digits', hdigits', hright⟩ := hright
  obtain ⟨digits'', hdigits'', hwhole⟩ := hwhole
  let fed := m.withInput (some (.bytes (Text.unlines (pick count t.lines)).encode))
  let ran := (writeLines name (pick (min count count') t.lines)).run.run
    { m.world with input := some (.bytes []) }
  have hfed : appliedOn fed (portion name (portionUsage purpose counted) pick)
      ["-n".toList, digits'] = ran := by
    have hputs := puts_portion (m := fed) name purpose counted pick rfl hpos' hdigits'
      m.world.output
    rw [Text.lines_unlines_of_subset hreturns (hpick _ _), hpicks] at hputs
    exact hputs
  have hone : appliedOn m (portion name (portionUsage purpose counted) pick)
      ["-n".toList, digits''] = ran :=
    puts_portion name purpose counted pick hinput (Nat.le_min.2 ⟨hpos, hpos'⟩) hdigits''
      m.world.output
  have hpipe : SameEnd (sh.treeFrom (.pipe (.call left) (.call right)) m)
      ((endedBy policy ran m).1, (endedBy policy ran m).2.withInput (some (.bytes []))) := by
    rw [← hfed]
    exact (puts_portion name purpose counted pick hinput hpos hdigits).sameEnd_pipe hregistry
      hleft hright
  have hcall : SameEnd (sh.treeFrom (.call whole) m) (endedBy policy ran m) := by
    rw [← hone]
    exact sameEnd_call hregistry hwhole m
  -- Behind the writing the input is what reading has left, in both.
  have hinput' : { ran.2 with input := some (.bytes []) } = ran.2 :=
    (congrArg Prod.snd (IgnoresInput.write name _ _ (some (.bytes [])))).symm
  have hsame : SameEnd ((endedBy policy ran m).1,
      (endedBy policy ran m).2.withInput (some (.bytes []))) (endedBy policy ran m) :=
    ⟨rfl, congrArg (fun world ↦ (endedBy policy (ran.1, world) m).2.unlogged) hinput'⟩
  exact hpipe.trans (hsame.trans hcall.symm)

/-- **`cat` in front of an application that reads lines.** -/
theorem sameEffect_cat (hregistry : sh.registry = .standard)
    (hinput : m.world.input = some (.bytes t.encode)) (hreturns : '\r' ∉ t)
    (happ : app.LineWise) (hleft : Calls left cat policy' [])
    (hright : Calls right app policy raw) :
    SameEffect (sh.treeFrom (.pipe (.call left) (.call right)) m)
      (sh.treeFrom (.call right) m) := by
  have hpipe := (puts_cat hinput).sameEnd_pipe hregistry hleft hright
  have hcall := sameEnd_call hregistry hright m
  have hlines : (Source.bytes (Text.unlines t.lines).encode).readLines.1 =
      (Source.bytes t.encode).readLines.1 := by
    rw [Source.readLines_text, Source.readLines_text,
      Text.lines_unlines_of_subset hreturns (List.Subset.refl _)]
  obtain ⟨hresult, hworld⟩ :=
    Prod.mk.inj ((happ (expandedOn m app raw)).run_eq m.world hlines)
  rw [← hinput] at hresult hworld
  have hsame : SameEffect _ _ := sameEffect_endedBy policy m hresult hworld
  exact hpipe.sameEffect.trans (hsame.trans hcall.sameEffect.symm)

/-! ### Portions and the whole -/

theorem drop_length_sub_min (lines : List Text) (count : Nat) :
    lines.drop (lines.length - min count lines.length) = lastLines count lines := by
  rw [lastLines]
  congr 1
  omega

/-- **`head`, `tail` and `cat` agree on what a line is.** The input is the bytes of any text, its
last line ended or not.

Asked for a number of lines, `head` shows so many from the front and `tail` so many from the back,
or all of them if there are fewer, with a line feed behind each. If the two counts add up to the
number of lines, what they show is what `cat` shows.

Without carriage returns in the input, the first lines of the first lines are first lines, and the
last lines of the last lines last lines: such a pipe ends as the single call does, wherever its
output goes and whether or not that accepts it. And `cat` can be put in front of any application
that reads its input line by line, with any arguments, without any effect but that all of the input
is taken; that is every application but `wc`, in particular `cat`, `head`, `tail`, `grep` and
`sed`. -/
theorem head_tail_and_cat_agree (sh : Shell) (hregistry : sh.registry = .standard)
    (hinput : m.world.input = some (.bytes t.encode)) :
    let lines := t.lines
    (∀ text policy count, 1 ≤ count → CallsFor text head policy count →
      sh.Shows m text (Text.unlines (lines.take (min count lines.length)))) ∧
    (∀ text policy count, 1 ≤ count → CallsFor text tail policy count →
      sh.Shows m text
        (Text.unlines (lines.drop (lines.length - min count lines.length)))) ∧
    (∀ first last whole policy policy' policy'' count, 1 ≤ count → count < lines.length →
      CallsFor first head policy count → CallsFor last tail policy' (lines.length - count) →
      Calls whole cat policy'' [] →
      ∃ front back, sh.Shows m first front ∧ sh.Shows m last back ∧
        sh.Shows m whole (front ++ back)) ∧
    ('\r' ∉ t → ∀ left right whole policy policy',
      (∀ app ∈ [head, tail], ∀ count count', 1 ≤ count → 1 ≤ count' →
        CallsFor left app policy' count → CallsFor right app policy count' →
        CallsFor whole app policy (min count count') →
        SameEnd (sh.treeFrom (.pipe (.call left) (.call right)) m)
          (sh.treeFrom (.call whole) m)) ∧
      ∀ app raw, app.name ≠ wcName → Calls left cat policy' [] → Calls right app policy raw →
        SameEffect (sh.treeFrom (.pipe (.call left) (.call right)) m)
          (sh.treeFrom (.call right) m)) := by
  intro lines
  have hhead : ∀ text policy count, 1 ≤ count → CallsFor text head policy count →
      sh.Shows m text (Text.unlines (lines.take (min count lines.length))) := by
    rintro text policy count hpos ⟨digits, hdigits, hcalls⟩
    rw [← List.take_eq_take_min]
    exact (puts_portion headName _ _ List.take hinput hpos hdigits).shows hregistry hcalls
  have htail : ∀ text policy count, 1 ≤ count → CallsFor text tail policy count →
      sh.Shows m text (Text.unlines (lines.drop (lines.length - min count lines.length))) := by
    rintro text policy count hpos ⟨digits, hdigits, hcalls⟩
    rw [drop_length_sub_min]
    exact (puts_portion tailName _ _ lastLines hinput hpos hdigits).shows hregistry hcalls
  refine ⟨hhead, htail, ?_, fun hreturns left right whole policy policy' ↦ ⟨?_, ?_⟩⟩
  · intro first last whole policy policy' policy'' count hpos hlt hfirst hlast hwhole
    refine ⟨_, _, hhead _ _ _ hpos hfirst, htail _ _ _ (by omega) hlast, ?_⟩
    have hback : lines.length - min (lines.length - count) lines.length = count := by omega
    rw [Nat.min_eq_left (by omega), hback, ← Text.unlines_append, List.take_append_drop]
    exact (puts_cat hinput).shows hregistry hwhole
  · intro app happ count count' hpos hpos' hleft hright hwhole
    rcases List.mem_pair.1 happ with rfl | rfl
    · exact sameEnd_portions hregistry hinput hreturns headName _ _
        (fun count lines ↦ List.take_subset count lines)
        (fun count count' lines ↦ by rw [List.take_take, Nat.min_comm]) hpos hpos' hleft hright
        hwhole
    · have hsub : ∀ count lines, lastLines count lines ⊆ lines := fun _ _ ↦ List.drop_subset _ _
      exact sameEnd_portions hregistry hinput hreturns tailName _ _ hsub lastLines_lastLines hpos
        hpos' hleft hright hwhole
  · intro app raw hwc hleft hright
    obtain ⟨command, -, hresolve⟩ := id hright
    have happ : app ∈ Registry.standard.applications := Registry.mem_of_resolve_eq_ok hresolve
    exact sameEffect_cat hregistry hinput hreturns (Registry.standard_lineWise app happ hwc) hleft
      hright

/-- Three lines, one of them empty and the last one not ended; a count too great for them. -/
theorem head_tail_and_cat_agree_unended :
    let sh : Shell := { env := { workingDir := [Path.slash] }, files := .empty }
    let t := "a\n\nc".toList
    let m : Machine :=
      ⟨⟨sh.env, sh.files, some (.bytes (Text.encode t)), .sink .fresh⟩, .fresh, 0, []⟩
    let call (words : List String) := Token.render (literals (words.map String.toList))
    let alone (words : List String) := sh.treeFrom (.call (call words)) m
    let piped (left right : List String) :=
      sh.treeFrom (.pipe (.call (call left)) (.call (call right))) m
    let most := "18446744073709551615"
    sh.registry = .standard ∧ m.world.input = some (.bytes (Text.encode t)) ∧
    Text.lines t = ["a", "", "c"].map String.toList ∧ '\r' ∉ t ∧
    sh.Shows m (call ["head", "-n", "2"]) "a\n\n".toList ∧
    sh.Shows m (call ["tail", "-n", most]) "a\n\nc\n".toList ∧
    SameEnd (piped ["tail", "-n", most] ["tail", "-n", "2"]) (alone ["tail", "-n", "2"]) ∧
    SameEffect (piped ["cat"] ["sed", "s/$/x/"]) (alone ["sed", "s/$/x/"]) := by
  intro sh t m call alone piped most
  have hregistry : sh.registry = .standard := rfl
  have hinput : m.world.input = some (.bytes (Text.encode t)) := rfl
  have hlines : Text.lines t = ["a", "", "c"].map String.toList := by decide +kernel
  have hreturns : '\r' ∉ t := by decide
  have resolves : ∀ {app : Application} {word : Text},
      readCommandWord word = (.endLine, app.name) →
      Registry.standard.find? app.name = some app →
      Registry.standard.resolve word = .ok (app, .endLine) :=
    Registry.resolve_of_find?
  have hcat : Calls (call ["cat"]) cat .endLine [] :=
    calls_render (resolves (by decide +kernel) rfl) []
  have hsed : Calls (call ["sed", "s/$/x/"]) sed .endLine ["s/$/x/".toList] :=
    calls_render (resolves (by decide +kernel) rfl) _
  have hhead : CallsFor (call ["head", "-n", "2"]) head .endLine 2 :=
    callsFor_ofNat (resolves (by decide +kernel) rfl) (by decide)
  have htail : CallsFor (call ["tail", "-n", "2"]) tail .endLine 2 :=
    callsFor_ofNat (resolves (by decide +kernel) rfl) (by decide)
  have hmost : CallsFor (call ["tail", "-n", most]) tail .endLine Text.maxCount :=
    ⟨most.toList, by decide, calls_render (resolves (by decide +kernel) rfl) _⟩
  obtain ⟨hfirst, hlast, -, hpipes⟩ := head_tail_and_cat_agree sh hregistry hinput
  obtain ⟨hportions, -⟩ := hpipes hreturns (call ["tail", "-n", most]) (call ["tail", "-n", "2"])
    (call ["tail", "-n", "2"]) .endLine .endLine
  obtain ⟨-, hcats⟩ := hpipes hreturns (call ["cat"]) (call ["sed", "s/$/x/"]) [] .endLine .endLine
  have hshown := hfirst _ _ 2 (by decide) hhead
  have hshown' := hlast _ _ Text.maxCount (by decide) hmost
  rw [hlines] at hshown hshown'
  exact ⟨hregistry, hinput, hlines, hreturns, hshown, hshown',
    hportions tail (by simp) Text.maxCount 2 (by decide) (by decide) hmost htail htail,
    hcats sed _ (by decide) hcat hsed⟩

end Shell

end LineShell
