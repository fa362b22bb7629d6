import LineShell.Proofs.Shell.Frame
import LineShell.Proofs.Shell.Symmetry

/-!
# Sequencing in the text is sequencing of runs

Two accepted lines with a `;` between them are one accepted line. Its tree is not the sequence of
the two trees: sequences fold to the left, so the first line goes in front of the first command of
the second (`Tree.ofBalanced_append`). But evaluating it is evaluating the two trees one after the
other (`Eval.tree_followedBy`), since what a failure skips is the same for every nesting.

So the line does what the two lines do that are run one after the other, the second one in what the
first one left of the shell, the input and the output (`Shell.run_append`). The logs differ in the
note of the line, of which there is one instead of two; otherwise a tree adds the same notes to any
log (`Eval.runOn_line`).
-/

namespace LineShell

/-! ### The tree -/

/-- A tree with another one in front of its commands. -/
def Tree.followedBy (first : Tree) : Tree → Tree
  | .seq left right => .seq (first.followedBy left) right
  | t => .seq first t

theorem Tree.followedBy_of_not_isSeq {first t : Tree} (h : ¬ t.IsSeq) :
    first.followedBy t = .seq first t := by
  cases t with
  | call text => rfl
  | pipe left right => rfl
  | seq left right => exact absurd trivial h

/-- **Behind a balanced text and a `;`, a text is read in front of its own first command.** -/
theorem Tree.ofBalanced_append {a : Text} (ha : Balanced a) (b : Text) :
    ofBalanced (a ++ ';' :: b) = (ofBalanced a).followedBy (ofBalanced b) := by
  induction b using bareInduction isSeparator_semicolon with
  | piece u hu =>
    have hseq : ¬ (ofCommand u).IsSeq := (seqFree_ofCommand u).not_isSeq
    rw [ofBalanced_append_cons ha hu, ofBalanced_of_not_bare hu, followedBy_of_not_isSeq hseq]
  | append s u hs hu ih =>
    have hfront : Balanced (a ++ ';' :: s) :=
      ha.append_iff.2 (isSeparator_semicolon.balanced_cons.2 hs)
    have hassoc : a ++ ';' :: (s ++ ';' :: u) = (a ++ ';' :: s) ++ ';' :: u := by
      rw [List.append_assoc, List.cons_append]
    rw [hassoc, ofBalanced_append_cons hfront hu, ofBalanced_append_cons hs hu, ih, followedBy]

theorem Tree.parse_append {a b : Text} {ta tb : Tree} (ha : parse a = .ok ta)
    (hb : parse b = .ok tb) : parse (a ++ ';' :: b) = .ok (ta.followedBy tb) := by
  obtain ⟨hbal, rfl⟩ := parse_eq_ok_iff.1 ha
  obtain ⟨hbal', rfl⟩ := parse_eq_ok_iff.1 hb
  refine parse_eq_ok_iff.2 ⟨?_, ofBalanced_append hbal b⟩
  exact hbal.append_iff.2 (isSeparator_semicolon.balanced_cons.2 hbal')

namespace Eval

variable {registry : Registry} {limit levels : Nat} {text : Text} {t : Tree}

/-- **Sequencing is associative**, so it does not matter how the tree is nested. -/
theorem tree_followedBy (registry : Registry) (sub : Text → Eval Text) (first t : Tree) :
    tree registry sub (first.followedBy t) = (do
      tree registry sub first
      tree registry sub t) := by
  induction t with
  | call text => rfl
  | pipe left right => rfl
  | seq left right ihl ihr =>
    rw [Tree.followedBy, tree, ihl, tree, bind_assoc]

/-! ### Logs -/

/-- **A line adds the same notes to any log**: those of its tree behind the note of the line. -/
theorem runOn_line (ht : Tree.parse text = .ok t) (levels : Nat) (m : Machine) :
    let alone := runOn (tree registry (substitution registry limit levels) t) m.unlogged
    runOn (line registry limit levels text) m =
      (alone.1, alone.2.behind (⟨m.depth, .line t⟩ :: m.log)) := by
  have hequivariant := compositional_equivariant registry
    (symmetry_behind limit (⟨m.depth, .line t⟩ :: m.log))
  have htree := hequivariant.tree (hequivariant.substitution levels) t
  rw [line_eq, lineWith, ht]
  exact htree m.unlogged

end Eval

namespace Shell

open Eval

/-- Runs a line on a machine, wherever its output goes. -/
def runFrom (sh : Shell) (line : Text) (m : Machine) : Except ShellError Unit × Machine :=
  runOn (Eval.line sh.registry sh.limit (sh.limit - m.depth) line) m

/-- What the shell does for a tree on a machine, if nothing has been noted yet. -/
def treeFrom (sh : Shell) (t : Tree) (m : Machine) : Except ShellError Unit × Machine :=
  runOn (tree sh.registry (substitution sh.registry sh.limit (sh.limit - m.depth)) t) m.unlogged

/-- The same result, on machines that differ in their logs at most. -/
def SameEnd (r r' : Except ShellError Unit × Machine) : Prop :=
  r.1 = r'.1 ∧ r.2.unlogged = r'.2.unlogged

variable {sh : Shell} {a b u line : Text} {t ta tb : Tree} {m m' : Machine} {e : ShellError}

theorem runFrom_eq (ht : Tree.parse line = .ok t) (m : Machine) :
    sh.runFrom line m =
      ((sh.treeFrom t m).1, (sh.treeFrom t m).2.behind (⟨m.depth, .line t⟩ :: m.log)) :=
  runOn_line ht _ m

theorem depth_treeFrom (sh : Shell) (t : Tree) (m : Machine) :
    (sh.treeFrom t m).2.depth = m.depth := by
  have hkeeps := compositional_keepsDepth sh.registry sh.limit
  exact hkeeps.tree (hkeeps.substitution _) t m.unlogged

/-! ### Two trees -/

theorem treeFrom_followedBy_of_error (h : sh.treeFrom ta m = (.error e, m')) :
    sh.treeFrom (ta.followedBy tb) m = (.error e, m') := by
  rw [treeFrom, tree_followedBy]
  exact runOn_bind_of_error h

/-- The second tree goes on where the first one ends, its notes in front of those of the first. -/
theorem treeFrom_followedBy_of_ok (h : sh.treeFrom ta m = (.ok (), m')) :
    sh.treeFrom (ta.followedBy tb) m =
      ((sh.treeFrom tb m').1, (sh.treeFrom tb m').2.behind m'.log) := by
  have hdepth : m'.depth = m.depth := by
    rw [← depth_treeFrom sh ta m, h]
  have hequivariant := compositional_equivariant sh.registry (symmetry_behind sh.limit m'.log)
  have htree := hequivariant.tree (hequivariant.substitution (sh.limit - m'.depth)) tb
  rw [treeFrom, tree_followedBy]
  refine (runOn_bind_of_ok h).trans ?_
  rw [← hdepth]
  exact htree m'.unlogged

/-! ### Two lines on a machine -/

/-- What becomes of the first line is what becomes of its tree. -/
theorem exists_treeFrom_eq {result : Except ShellError Unit} (ha : Tree.parse a = .ok ta)
    (h : sh.runFrom a m = (result, m')) :
    ∃ n, sh.treeFrom ta m = (result, n) ∧ m' = n.behind (⟨m.depth, .line ta⟩ :: m.log) := by
  rw [runFrom_eq ha] at h
  obtain ⟨hresult, hmachine⟩ := Prod.mk.inj h
  exact ⟨(sh.treeFrom ta m).2, Prod.ext hresult rfl, hmachine.symm⟩

/-- **If the first line succeeds, the two together end as the second one, run on what it left.** -/
theorem sameEnd_append_of_ok (ha : Tree.parse a = .ok ta) (hb : Tree.parse b = .ok tb)
    (h : sh.runFrom a m = (.ok (), m')) :
    SameEnd (sh.runFrom (a ++ ';' :: b) m) (sh.runFrom b m') := by
  obtain ⟨n, hn, rfl⟩ := exists_treeFrom_eq ha h
  rw [runFrom_eq (Tree.parse_append ha hb), treeFrom_followedBy_of_ok hn, runFrom_eq hb]
  exact ⟨rfl, rfl⟩

/-- **If the first line fails, the two together end as the first one.** -/
theorem sameEnd_append_of_error (ha : Tree.parse a = .ok ta) (hb : Tree.parse b = .ok tb)
    (h : sh.runFrom a m = (.error e, m')) :
    SameEnd (sh.runFrom (a ++ ';' :: b) m) (.error e, m') := by
  obtain ⟨n, hn, rfl⟩ := exists_treeFrom_eq ha h
  rw [runFrom_eq (Tree.parse_append ha hb), treeFrom_followedBy_of_error hn]
  exact ⟨rfl, rfl⟩

/-! ### Blank lines -/

/-- A blank line does nothing, apart from its notes. -/
theorem treeFrom_of_isBlank (h : u.isBlank = true) (m : Machine) :
    sh.treeFrom (.call u) m = (.ok (), m.unlogged.noted (.call u [])) := by
  rw [treeFrom, tree, call, Token.read_of_isBlank h]
  rfl

theorem sameEnd_blank_append (hb : Tree.parse b = .ok tb) (h : u.isBlank = true) (m : Machine) :
    SameEnd (sh.runFrom (u ++ ';' :: b) m) (sh.runFrom b m) := by
  have hu := Tree.parse_of_isBlank h
  rw [runFrom_eq (Tree.parse_append hu hb), treeFrom_followedBy_of_ok (treeFrom_of_isBlank h m),
    runFrom_eq hb]
  exact ⟨rfl, rfl⟩

theorem sameEnd_append_blank (ha : Tree.parse a = .ok ta) (h : u.isBlank = true) (m : Machine) :
    SameEnd (sh.runFrom (a ++ ';' :: u) m) (sh.runFrom a m) := by
  have hu := Tree.parse_of_isBlank h
  rcases hrun : sh.runFrom a m with ⟨e | ⟨⟩, m'⟩
  · exact sameEnd_append_of_error ha hu hrun
  · obtain ⟨hresult, hmachine⟩ := sameEnd_append_of_ok ha hu hrun
    rw [runFrom_eq hu, treeFrom_of_isBlank h] at hresult hmachine
    exact ⟨hresult, hmachine⟩

/-! ### Runs -/

/-- What a run leaves is where the next one starts, if the applications keep their streams. -/
theorem unlogged_runFrom (happs : ∀ app ∈ sh.registry.applications, app.KeepsStreams) (line : Text)
    (input : Option Source) (output : Sink) :
    let ran := sh.run line input output
    (sh.runFrom line (sh.machine input output)).2.unlogged =
      ran.shell.machine ran.input ran.output := by
  intro ran
  have hkept := (compositional_keepsStreams sh.limit happs).line (sh.limit - sh.depth) line
    (sh.machine input output)
  obtain ⟨s, hs⟩ := hkept.output output rfl
  have hran : ran = sh.ranOf (sh.runFrom line (sh.machine input output)) := rfl
  have hsink : (sh.runFrom line (sh.machine input output)).2.world.output = .sink s := hs
  rw [hran]
  rcases hrun : sh.runFrom line (sh.machine input output) with ⟨result, ⟨env, files, rest, out⟩, n⟩
  rw [hrun] at hsink
  obtain rfl : out = .sink s := hsink
  rfl

theorem input_run_eq_none (happs : ∀ app ∈ sh.registry.applications, app.KeepsStreams) (line : Text)
    (output : Sink) : (sh.run line none output).input = none :=
  ((compositional_keepsStreams sh.limit happs).line (sh.limit - sh.depth) line
    (sh.machine none output)).input rfl

/-- A run is what its tree does, behind the note of the line. -/
theorem run_eq_ranOf_tree (sh : Shell) (ht : Tree.parse line = .ok t) (input : Option Source)
    (output : Sink) :
    sh.run line input output =
      sh.ranOf ((sh.treeFrom t (sh.machine input output)).1,
        (sh.treeFrom t (sh.machine input output)).2.behind [⟨sh.depth, .line t⟩]) := by
  show sh.ranOf (sh.runFrom line (sh.machine input output)) = _
  rw [runFrom_eq ht]
  rfl

theorem run_append_of_ok (ha : Tree.parse a = .ok ta) (hb : Tree.parse b = .ok tb)
    (happs : ∀ app ∈ sh.registry.applications, app.KeepsStreams) {input : Option Source}
    {output : Sink} (h : (sh.run a input output).result = .ok ()) :
    let first := sh.run a input output
    let second := first.shell.run b first.input first.output
    sh.run (a ++ ';' :: b) input output =
      { second with
        log := ⟨sh.depth, .line (ta.followedBy tb)⟩ :: (first.log.tail ++ second.log.tail) } := by
  intro first second
  have hfirst := run_eq_ranOf_tree sh ha input output
  have hwhole := run_eq_ranOf_tree sh (Tree.parse_append ha hb) input output
  have hnext := unlogged_runFrom happs a input output
  rw [runFrom_eq ha] at hnext
  rcases hn : sh.treeFrom ta (sh.machine input output) with ⟨result, n⟩
  rw [hn] at hfirst hnext
  obtain rfl : result = .ok () := (congrArg Ran.result hfirst).symm.trans h
  rw [treeFrom_followedBy_of_ok hn] at hwhole
  have hsecond : second = sh.ranOf
      ((sh.treeFrom tb n).1, (sh.treeFrom tb n).2.behind [⟨n.depth, .line tb⟩]) := by
    show first.shell.ranOf
      (first.shell.runFrom b (first.shell.machine first.input first.output)) = _
    rw [← hnext, runFrom_eq hb, show first = _ from hfirst]
    rfl
  rw [hwhole, show first = _ from hfirst, hsecond]
  simp [ranOf, Machine.behind]

theorem run_append_of_error (ha : Tree.parse a = .ok ta) (hb : Tree.parse b = .ok tb)
    {input : Option Source} {output : Sink} (h : (sh.run a input output).result = .error e) :
    let first := sh.run a input output
    sh.run (a ++ ';' :: b) input output =
      { first with log := ⟨sh.depth, .line (ta.followedBy tb)⟩ :: first.log.tail } := by
  intro first
  have hfirst := run_eq_ranOf_tree sh ha input output
  have hwhole := run_eq_ranOf_tree sh (Tree.parse_append ha hb) input output
  rcases hn : sh.treeFrom ta (sh.machine input output) with ⟨result, n⟩
  rw [hn] at hfirst
  obtain rfl : result = .error e := (congrArg Ran.result hfirst).symm.trans h
  rw [treeFrom_followedBy_of_error hn] at hwhole
  rw [hwhole, show first = _ from hfirst]
  simp [ranOf, Machine.behind]

/-! ### Evaluated lines -/

theorem eval_append_of_success (ha : Tree.parse a = .ok ta) (hb : Tree.parse b = .ok tb)
    (happs : ∀ app ∈ sh.registry.applications, app.KeepsStreams) {output : Sink}
    (h : (sh.eval a output).1 = success) :
    sh.eval (a ++ ';' :: b) output = (sh.eval a output).2.1.eval b (sh.eval a output).2.2 := by
  have hok := eval_eq_success_iff.1 h
  have hwhole := run_append_of_ok ha hb happs hok
  dsimp only at hwhole
  rw [input_run_eq_none happs a output] at hwhole
  rw [eval_of_ok hok, eval, eval, hwhole]

theorem eval_append_of_failure (ha : Tree.parse a = .ok ta) (hb : Tree.parse b = .ok tb)
    {output : Sink} (h : (sh.eval a output).1 = failure) :
    sh.eval (a ++ ';' :: b) output = sh.eval a output := by
  rcases hresult : (sh.run a none output).result with e | ⟨⟩
  · have hwhole := run_append_of_error ha hb hresult
    rw [eval, eval, hwhole]
  · rw [eval_of_ok hresult] at h
    exact absurd h (show success ≠ failure by decide)

/-! ### Sequencing -/

/-- **Sequencing in the text is sequencing of runs.** Two accepted lines with a `;` between them are
an accepted line. Run on any machine it ends as the second one does, run on what the first one
leaves, if that succeeds, and else as the first one: with the same result, environment, files,
input, output and error channel, and at the same depth. A blank line does nothing, in front or
behind.

Runs and evaluations of a shell are put together accordingly, as long as its applications do not
put other streams in the place of those they are lent, which those of the standard registry do not.
The log shows that nothing of the second line is done if the first one fails. -/
theorem sequencing_in_text_is_sequencing_of_runs (sh : Shell) (a b : Text) (ta tb : Tree)
    (ha : Tree.parse a = .ok ta) (hb : Tree.parse b = .ok tb) :
    let both := a ++ ';' :: b
    let t := ta.followedBy tb
    Tree.parse both = .ok t ∧
    (∀ m m', sh.runFrom a m = (.ok (), m') → SameEnd (sh.runFrom both m) (sh.runFrom b m')) ∧
    (∀ m m' e, sh.runFrom a m = (.error e, m') → SameEnd (sh.runFrom both m) (.error e, m')) ∧
    (∀ blank m, blank.isBlank = true →
      SameEnd (sh.runFrom (blank ++ ';' :: b) m) (sh.runFrom b m) ∧
      SameEnd (sh.runFrom (a ++ ';' :: blank) m) (sh.runFrom a m)) ∧
    ((∀ app ∈ sh.registry.applications, app.KeepsStreams) → ∀ input output,
      let first := sh.run a input output
      let second := first.shell.run b first.input first.output
      let evaluated := sh.eval a output
      (first.result = .ok () → sh.run both input output =
        { second with log := ⟨sh.depth, .line t⟩ :: (first.log.tail ++ second.log.tail) }) ∧
      (∀ e, first.result = .error e → sh.run both input output =
        { first with log := ⟨sh.depth, .line t⟩ :: first.log.tail }) ∧
      (evaluated.1 = success → sh.eval both output = evaluated.2.1.eval b evaluated.2.2) ∧
      (evaluated.1 = failure → sh.eval both output = evaluated)) := by
  refine ⟨Tree.parse_append ha hb, fun m m' ↦ sameEnd_append_of_ok ha hb,
    fun m m' e ↦ sameEnd_append_of_error ha hb,
    fun blank m hblank ↦ ⟨sameEnd_blank_append hb hblank m, sameEnd_append_blank ha hblank m⟩,
    fun happs input output ↦ ⟨run_append_of_ok ha hb happs, fun e ↦ run_append_of_error ha hb,
      eval_append_of_success ha hb happs, eval_append_of_failure ha hb⟩⟩

/-- A quoted `;`, a pipe on both sides, and a failure in the second line. -/
theorem sequencing_in_text_is_sequencing_of_runs_nested :
    let sh : Shell := { env := { workingDir := [Path.slash] }, files := .empty }
    let a : Text := "echo ';'|cat".toList
    let b : Text := "pwd|cat;cat none".toList
    let ta : Tree := .pipe (.call "echo ';'".toList) (.call "cat".toList)
    let tb : Tree :=
      .seq (.pipe (.call "pwd".toList) (.call "cat".toList)) (.call "cat none".toList)
    let t : Tree := .seq (.seq ta (.pipe (.call "pwd".toList) (.call "cat".toList)))
      (.call "cat none".toList)
    let first := sh.run a none .fresh
    let second := first.shell.run b first.input first.output
    Tree.parse a = .ok ta ∧ Tree.parse b = .ok tb ∧ Tree.parse (a ++ ';' :: b) = .ok t ∧
    first.result = .ok () ∧
    sh.run (a ++ ';' :: b) none .fresh =
      { second with log := ⟨0, .line t⟩ :: (first.log.tail ++ second.log.tail) } ∧
    (sh.run (a ++ ';' :: b) none .fresh).result =
      .error (.path "cat".toList (.os "none".toList .notFound)) ∧
    (sh.run (a ++ ';' :: b) none .fresh).output.bytes = Text.encode ";\n/\n".toList := by
  intro sh a b ta tb t first second
  have ha : Tree.parse a = .ok ta := by decide
  have hb : Tree.parse b = .ok tb := by decide
  obtain ⟨hparse, -, -, -, hruns⟩ := sequencing_in_text_is_sequencing_of_runs sh a b ta tb ha hb
  obtain ⟨hok, -⟩ := hruns Registry.standard_keepsStreams none .fresh
  have hfirst : first.result = .ok () := by decide +kernel
  have hresult : (sh.run (a ++ ';' :: b) none .fresh).result =
      .error (.path "cat".toList (.os "none".toList .notFound)) := by decide +kernel
  have hbytes : (sh.run (a ++ ';' :: b) none .fresh).output.bytes =
      Text.encode ";\n/\n".toList := by decide +kernel
  exact ⟨ha, hb, hparse, hfirst, hok hfirst, hresult, hbytes⟩

end Shell

end LineShell
