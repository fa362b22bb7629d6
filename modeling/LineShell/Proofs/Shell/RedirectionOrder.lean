import LineShell.Proofs.Shell.Redirections

/-!
# In which order a call takes effect

A call counts its markers, substitutes its commands, opens the file to read, makes or empties the
file to write, and is dispatched, in this order; what fails ends it, and nothing behind that is done
(`Eval.Goes`). So a call that is refused for its markers has done nothing at all, and the file of
`>` is touched only when everything in front of it has succeeded.

The commands are substituted one after another, in text order (`Eval.InTurn`). Until then nothing of
the call itself has happened: what a command finds, and what the targets are looked for in, differs
from what the call found only by what commands of the call did (`Eval.LedBy`).
-/

namespace LineShell

namespace Eval

variable {registry : Registry} {limit levels : Nat} {sub : Text → Eval Text}
variable {commands front texts : List Text} {c t text : Text} {ts : List Token}
variable {m m' mid begun ready left : Machine} {e : ShellError}

/-! ### One command after another -/

/-- The commands are substituted in their order and give the texts, each on the machine that the one
before has left. -/
inductive InTurn (sub : Text → Eval Text) : Machine → List Text → List Text → Machine → Prop where
  | nil (m : Machine) : InTurn sub m [] [] m
  | cons {m m' m'' : Machine} {c t : Text} {rest texts : List Text}
      (hfirst : runOn (sub c) m = (.ok t, m')) (hrest : InTurn sub m' rest texts m'') :
      InTurn sub m (c :: rest) (t :: texts) m''

/-- A command fails, behind those before it. -/
structure FailsIn (sub : Text → Eval Text) (m : Machine) (commands front : List Text) (c : Text)
    (e : ShellError) (left : Machine) : Prop where
  isPrefix : front ++ [c] <+: commands
  fails : ∃ texts mid, InTurn sub m front texts mid ∧ runOn (sub c) mid = (.error e, left)

/-- **Either all commands are substituted, or one of them fails.** -/
theorem inTurn_or_failsIn (sub : Text → Eval Text) (commands : List Text) (m : Machine) :
    (∃ texts m', InTurn sub m commands texts m') ∨
      ∃ front c e left, FailsIn sub m commands front c e left := by
  induction commands generalizing m with
  | nil => exact .inl ⟨[], m, .nil m⟩
  | cons c rest ih =>
    rcases hfirst : runOn (sub c) m with ⟨e | t, m'⟩
    · exact .inr ⟨[], c, e, m', ⟨rest, rfl⟩, [], m, .nil m, hfirst⟩
    · rcases ih m' with ⟨texts, m'', hrest⟩ | ⟨front, c', e, left, hfails⟩
      · exact .inl ⟨t :: texts, m'', .cons hfirst hrest⟩
      · obtain ⟨hbegins, texts, mid, hfront, hlast⟩ := hfails
        exact .inr ⟨c :: front, c', e, left, List.prefix_cons_inj c |>.2 hbegins, t :: texts, mid,
          .cons hfirst hfront, hlast⟩

theorem InTurn.runOn_mapM (h : InTurn sub m commands texts m') :
    runOn (commands.mapM sub) m = (.ok texts, m') := by
  induction h with
  | nil m => rfl
  | cons hfirst _ ih =>
    rw [List.mapM_cons, runOn_bind_of_ok hfirst, runOn_bind_of_ok ih]
    rfl

theorem FailsIn.runOn_mapM (h : FailsIn sub m commands front c e left) :
    runOn (commands.mapM sub) m = (.error e, left) := by
  obtain ⟨⟨back, rfl⟩, texts, mid, hfront, hfails⟩ := h
  induction hfront with
  | nil m =>
    rw [List.nil_append, List.singleton_append, List.mapM_cons, runOn_bind_of_error hfails]
  | cons hfirst _ ih =>
    rw [List.cons_append, List.cons_append, List.mapM_cons, runOn_bind_of_ok hfirst,
      runOn_bind_of_error (ih hfails)]

/-! ### The course of a call -/

/-- How a call goes on from the machine `begun` when its markers are counted. -/
inductive Goes (registry : Registry) (sub : Text → Eval Text) (ts : List Token) (begun : Machine) :
    Except ShellError Unit × Machine → Prop where
  /-- A command fails, and no file is opened. -/
  | stopped {front : List Text} {c : Text} {e : ShellError} {left : Machine}
      (hcommands : FailsIn sub begun (ts.flatMap Token.commands) front c e left) :
      Goes registry sub ts begun (.error e, left)
  /-- The file of `<` cannot be opened, and that of `>` is not made. -/
  | unreadable {texts : List Text} {ready : Machine} {e : ShellError}
      (hcommands : InTurn sub begun (ts.flatMap Token.commands) texts ready)
      (hinput : inputOf (splicedWords ts texts) ready.world = .error e) :
      Goes registry sub ts begun (.error e, ready)
  /-- The file of `>` cannot be made. -/
  | unwritable {texts : List Text} {ready : Machine} {input : Option Location} {e : ShellError}
      (hcommands : InTurn sub begun (ts.flatMap Token.commands) texts ready)
      (hinput : inputOf (splicedWords ts texts) ready.world = .ok input)
      (houtput : outputOf (splicedWords ts texts) ready.world = .error e) :
      Goes registry sub ts begun (.error e, ready)
  /-- The files are opened, and the words are dispatched. -/
  | dispatched {texts : List Text} {ready : Machine} {input : Option Location}
      {output : Option (Files × Location)} {ended : Except ShellError Unit × Machine}
      (hcommands : InTurn sub begun (ts.flatMap Token.commands) texts ready)
      (hinput : inputOf (splicedWords ts texts) ready.world = .ok input)
      (houtput : outputOf (splicedWords ts texts) ready.world = .ok output)
      (hended : runOn (dispatch registry (splicedWords ts texts).arguments)
        (ready.withWorld (readingFrom input (writingInto output ready.world))) = ended) :
      Goes registry sub ts begun (ended.1, putBack (splicedWords ts texts) ready.world ended.2)

/-- A call that can be cut into tokens is begun, and its tokens are evaluated. -/
theorem runOn_call (hread : Token.read text = .ok ts) (m : Machine) :
    runOn (call registry sub text) m =
      runOn (tokens registry sub ts) (m.noted (.call text ts)) := by
  rw [call, hread]
  exact runOn_bind_of_ok (runOn_note _ m)

/-- A call with a marker too many does nothing. -/
theorem runOn_tokens_of_error (h : checkMarkers ts = .error e) (m : Machine) :
    runOn (tokens registry sub ts) m = (.error e, m) := by
  rw [tokens, h, ofResult_error_bind]
  rfl

theorem runOn_tokens_of_failsIn (hmarkers : checkMarkers ts = .ok ())
    (h : FailsIn sub begun (ts.flatMap Token.commands) front c e left) :
    runOn (tokens registry sub ts) begun = (.error e, left) := by
  rw [tokens_eq hmarkers, runOn_bind_of_error h.runOn_mapM]

theorem runOn_tokens_of_inTurn (hmarkers : checkMarkers ts = .ok ())
    (h : InTurn sub begun (ts.flatMap Token.commands) texts ready) :
    runOn (tokens registry sub ts) begun =
      runOn (redirected (splicedWords ts texts)
        (dispatch registry (splicedWords ts texts).arguments)) ready := by
  rw [tokens_eq hmarkers, runOn_bind_of_ok h.runOn_mapM]

/-- **A call substitutes, opens and is dispatched, in this order.** -/
theorem goes_tokens (hmarkers : checkMarkers ts = .ok ()) (begun : Machine) :
    Goes registry sub ts begun (runOn (tokens registry sub ts) begun) := by
  rcases inTurn_or_failsIn sub (ts.flatMap Token.commands) begun with
    ⟨texts, ready, hturn⟩ | ⟨front, c, e, left, hfails⟩
  · rw [runOn_tokens_of_inTurn hmarkers hturn, runOn_redirected, openedBy]
    cases hinput : inputOf (splicedWords ts texts) ready.world with
    | error e => exact .unreadable hturn hinput
    | ok input =>
      cases houtput : outputOf (splicedWords ts texts) ready.world with
      | error e => exact .unwritable hturn hinput houtput
      | ok output => exact .dispatched hturn hinput houtput rfl
  · rw [runOn_tokens_of_failsIn hmarkers hfails]
    exact .stopped hfails

/-! ### What the commands do -/

/-- What a captured command does has nothing to do with the output around it. -/
theorem runOn_captured_withOutput (x : Eval Unit) (m : Machine) (output : Output) :
    runOn (captured x) m =
      ((runOn (captured x) (m.withOutput output)).1,
        (runOn (captured x) (m.withOutput output)).2.withOutput m.world.output) := by
  have hsame : (m.withOutput output).withOutput (.sink .fresh) = m.withOutput (.sink .fresh) := rfl
  rcases hrun : runOn (fedBy none x) (m.withOutput (.sink .fresh)) with ⟨e | ⟨⟩, m'⟩
  · rw [runOn_captured_of_error hrun, runOn_captured_of_error (hsame ▸ hrun), runOn_bind,
      runOn_bind, runOn_report, runOn_report]
    have herrors : ∀ output, (m'.withOutput output).errors = m'.errors := fun _ ↦ rfl
    rw [herrors, herrors]
    cases m'.errors.write _ <;> rfl
  · rw [runOn_captured_of_ok hrun, runOn_captured_of_ok (hsame ▸ hrun)]
    rfl

/-- One ground leads to the other by performed calls of the commands, each of which changes no file
but its own target. -/
def LedBy (registry : Registry) (limit : Nat) (commands : List Text) (g g' : Ground) : Prop :=
  ∃ ps : List (Performed registry limit), Leads g ps g' ∧
    ∀ p ∈ ps, (∃ c ∈ commands, CallOf p.text c) ∧ p.ChangesTarget

namespace LedBy

variable {g g' g'' : Ground}

protected theorem refl (g : Ground) : LedBy registry limit [] g g :=
  ⟨[], rfl, fun _ hp ↦ absurd hp List.not_mem_nil⟩

protected theorem append {back : List Text} (h : LedBy registry limit front g g')
    (h' : LedBy registry limit back g' g'') : LedBy registry limit (front ++ back) g g'' := by
  obtain ⟨ps, hleads, hps⟩ := h
  obtain ⟨ps', hleads', hps'⟩ := h'
  refine ⟨ps ++ ps', hleads.append hleads', fun p hp ↦ ?_⟩
  rcases List.mem_append.1 hp with hp | hp
  · obtain ⟨⟨c, hc, hcall⟩, hchanges⟩ := hps p hp
    exact ⟨⟨c, List.mem_append_left _ hc, hcall⟩, hchanges⟩
  · obtain ⟨⟨c, hc, hcall⟩, hchanges⟩ := hps' p hp
    exact ⟨⟨c, List.mem_append_right _ hc, hcall⟩, hchanges⟩

/-- Commands without the character `>` leave all files as they are. -/
theorem files_eq (h : LedBy registry limit commands g g') (hcommands : ∀ c ∈ commands, '>' ∉ c) :
    g'.files = g.files := by
  obtain ⟨ps, hleads, hps⟩ := h
  refine hleads.files_eq fun p hp ↦ ?_
  obtain ⟨⟨c, hc, hcall⟩, hchanges⟩ := hps p hp
  exact hchanges.files_eq fun hmem ↦ hcommands c hc (hcall.mem_of_mem hmem)

end LedBy

/-- **A command leads from what it finds to what it leaves**, also when it fails. -/
theorem ledBy_substitution (happs : registry.Confined) (limit levels : Nat) (c : Text)
    (m : Machine) :
    LedBy registry limit [c] m.world.ground
      (runOn (substitution registry limit levels c) m).2.world.ground := by
  have hperforming :
      Performing registry limit (CallOf · c) (substitution registry limit levels c) :=
    (callWise_performing happs _).substitution levels c fun levels _ hcall ↦ ⟨hcall, levels, rfl⟩
  -- Calls are performed into a sink; a command captures its output, so it may as well start on one.
  obtain ⟨ps, ⟨hleads, -⟩, hps⟩ := (hperforming (m.withOutput (.sink .fresh)) ⟨_, rfl⟩).calls
  refine ⟨ps, ?_, fun p hp ↦ ⟨⟨c, List.mem_cons_self, (hps p hp).text⟩, p.changesTarget happs⟩⟩
  have hcaptured : ∃ x, substitution registry limit levels c = captured x := by
    cases levels <;> exact ⟨_, rfl⟩
  obtain ⟨x, hx⟩ := hcaptured
  rw [hx] at hleads ⊢
  rw [runOn_captured_withOutput x m (.sink .fresh)]
  exact hleads

theorem InTurn.ledBy (happs : registry.Confined)
    (h : InTurn (substitution registry limit levels) m commands texts m') :
    LedBy registry limit commands m.world.ground m'.world.ground := by
  induction h with
  | nil m => exact .refl _
  | @cons m m' m'' c t rest texts hfirst _ ih =>
    have hled := ledBy_substitution happs limit levels c m
    rw [hfirst] at hled
    exact hled.append ih

theorem FailsIn.ledBy (happs : registry.Confined)
    (h : FailsIn (substitution registry limit levels) m commands front c e left) :
    LedBy registry limit (front ++ [c]) m.world.ground left.world.ground := by
  obtain ⟨-, texts, mid, hfront, hfails⟩ := h
  have hled := ledBy_substitution happs limit levels c mid
  rw [hfails] at hled
  exact (hfront.ledBy happs).append hled

/-! ### The order of effects -/

/-- **Redirections take effect behind all substitutions, or not at all.**

A call with more than one `<` outside quotes, or else more than one `>`, is refused, and nothing but
the note that it was begun is left of it. Every other call substitutes its commands one after the
other, opens the file of `<` where the commands have left the directory and the files, then makes or
empties the file of `>` there, and is dispatched. If a command fails, or the file of `<` cannot be
opened, the call ends with what the commands have left.

Each command finds what the commands before it have left, and these change files only by calls of
their own. So what the call itself will empty is untouched until all commands are substituted; if no
command in front has the character `>`, a command finds all files as the call did. -/
theorem redirections_follow_substitutions (registry : Registry) (limit levels : Nat)
    (hread : Token.read text = .ok ts) (m : Machine) :
    let sub := substitution registry limit levels
    let commands := ts.flatMap Token.commands
    let begun := m.noted (.call text ts)
    let ended := runOn (call registry sub text) m
    (1 < bareCount '<' text → ended = (.error (.redirection .input), begun)) ∧
    (bareCount '<' text ≤ 1 → 1 < bareCount '>' text →
      ended = (.error (.redirection .output), begun)) ∧
    (bareCount '<' text ≤ 1 → bareCount '>' text ≤ 1 →
      Goes registry sub ts begun ended ∧
      (∀ front c e left, FailsIn sub begun commands front c e left → ended = (.error e, left)) ∧
      (∀ texts ready e, InTurn sub begun commands texts ready →
        inputOf (splicedWords ts texts) ready.world = .error e → ended = (.error e, ready))) ∧
    (registry.Confined →
      (∀ front texts mid, InTurn sub begun front texts mid →
        LedBy registry limit front m.world.ground mid.world.ground ∧
        ((∀ c ∈ front, '>' ∉ c) → mid.world.files = m.world.files)) ∧
      ∀ front c e left, FailsIn sub begun commands front c e left →
        LedBy registry limit (front ++ [c]) m.world.ground left.world.ground) := by
  intro sub commands begun ended
  have hended : ended = runOn (tokens registry sub ts) begun := runOn_call hread m
  have hin : ts.count (.marker .input) = bareCount '<' text := Token.count_marker hread .input
  have hout : ts.count (.marker .output) = bareCount '>' text := Token.count_marker hread .output
  refine ⟨fun htwo ↦ ?_, fun hone htwo ↦ ?_, fun hone hone' ↦ ⟨?_, ?_, ?_⟩, fun happs ↦ ⟨?_, ?_⟩⟩
  · rw [hended]
    refine runOn_tokens_of_error ?_ begun
    rw [checkMarkers, if_pos (by omega)]
  · rw [hended]
    refine runOn_tokens_of_error ?_ begun
    rw [checkMarkers, if_neg (by omega), if_pos (by omega)]
  · rw [hended]
    exact goes_tokens (Shell.checkMarkers_eq_ok hread hone hone') begun
  · intro front c e left hfails
    rw [hended]
    exact runOn_tokens_of_failsIn (Shell.checkMarkers_eq_ok hread hone hone') hfails
  · intro texts ready e hturn hinput
    rw [hended, runOn_tokens_of_inTurn (Shell.checkMarkers_eq_ok hread hone hone') hturn,
      runOn_redirected, openedBy, hinput]
  · intro front texts mid hturn
    have hled := hturn.ledBy happs
    exact ⟨hled, hled.files_eq⟩
  · intro front c e left hfails
    have hled : LedBy registry limit (front ++ [c]) begun.world.ground left.world.ground :=
      FailsIn.ledBy happs hfails
    exact hled

/-- A command that changes the directory, and one that reads the target; a marker in quotes, one
without a word behind it, and a call with a marker too many. -/
theorem redirections_follow_substitutions_moving :
    let path (name : String) : Path := Path.ofText name.toList
    let files := ((Files.empty.makeDirectory (path "/d")).writeFile (path "/d/f")
      (Text.encode "old\n".toList)).writeFile (path "/f") (Text.encode "other\n".toList)
    let m : Machine := ⟨⟨{ workingDir := path "/" }, files, none, .sink .fresh⟩, .fresh, 0, []⟩
    let sub := substitution .standard 64 64
    let text := "echo `cd d` `cat f` >f '<' <".toList
    let refused := "cat `echo x >g` <f < `echo y >g`".toList
    let contentAt (m : Machine) (loc : Location) : Option Bytes :=
      match m.world.files.root.at? loc with
      | some (.file content) => some content
      | _ => none
    let ended := runOn (call .standard sub text) m
    ∃ ts ts', Token.read text = .ok ts ∧ Token.read refused = .ok ts' ∧
      bareCount '<' text = 1 ∧ bareCount '>' text = 1 ∧
      Goes .standard sub ts (m.noted (.call text ts)) ended ∧
      contentAt ended.2 [path "d", path "f"] = some (Text.encode " old < <\n".toList) ∧
      contentAt ended.2 [path "f"] = some (Text.encode "other\n".toList) ∧
      bareCount '<' refused = 2 ∧
      runOn (call .standard sub refused) m =
        (.error (.redirection .input), m.noted (.call refused ts')) := by
  intro path files m sub text refused contentAt ended
  have hread : ∃ ts, Token.read text = .ok ts := ⟨_, rfl⟩
  have hread' : ∃ ts', Token.read refused = .ok ts' := ⟨_, rfl⟩
  obtain ⟨ts, hread⟩ := hread
  obtain ⟨ts', hread'⟩ := hread'
  have hin : bareCount '<' text = 1 := by decide
  have hout : bareCount '>' text = 1 := by decide
  have htwo : bareCount '<' refused = 2 := by decide
  obtain ⟨-, -, hgoes, -⟩ := redirections_follow_substitutions .standard 64 64 hread m
  obtain ⟨hrefused, -⟩ := redirections_follow_substitutions .standard 64 64 hread' m
  exact ⟨ts, ts', hread, hread', hin, hout, (hgoes hin.le hout.le).1, by decide +kernel,
    by decide +kernel, htwo, hrefused (by rw [htwo]; decide)⟩

end Eval

end LineShell
