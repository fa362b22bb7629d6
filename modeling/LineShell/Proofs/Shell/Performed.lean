import LineShell.Proofs.Application.Effects
import LineShell.Proofs.Shell.Dispatch
import LineShell.Proofs.Shell.Frame
import LineShell.Proofs.Shell.Session
import LineShell.Proofs.Shell.Splice

/-!
# The calls that a line performs

A call whose words are put together is **performed**: its files are opened and its words are
dispatched. Nothing else that evaluation does reaches the environment or the files. So a line takes
both through its performed calls like beads on a string: they are at the start of the line what
they are before the first call, behind each call what they are before the next one, and behind the
last call what they are at the end of the line (`Shell.exists_performedBy`). Calls in back-quotes
stand in front of the call whose words they are for. No call that runs an application is left out:
the applications that the log shows are those of the performed calls.

A call that is begun but not performed, because a marker is doubled or a command failed to report,
is not on the string: it changes nothing itself, and the commands in it that ran are there.
-/

namespace LineShell

/-- What one call leaves to the next: the environment and the files. -/
structure Ground where
  env : Environment
  files : Files

/-- The environment and the files of a world. -/
def World.ground (w : World) : Ground := ⟨w.env, w.files⟩

/-- A call is performed: on the machine `start` it is begun, its commands give the texts and leave
the machine `ready`, and on that one it is redirected and dispatched. What it writes goes to a sink,
if it has no target of its own. -/
structure Performed (registry : Registry) (limit : Nat) where
  text : Text
  tokens : List Token
  /-- How many levels of commands are left below the call. -/
  levels : Nat
  texts : List Text
  start : Machine
  ready : Machine
  read : Token.read text = .ok tokens
  once : checkMarkers tokens = .ok ()
  substituted : Eval.runOn
    ((tokens.flatMap Token.commands).mapM (Eval.substitution registry limit levels))
    (start.noted (.call text tokens)) = (.ok texts, ready)
  output : ∃ s, ready.world.output = .sink s

namespace Performed

variable {registry : Registry} {limit : Nat} (p : Performed registry limit)

/-- The words of the call, put together. -/
def words : Words := splicedWords p.tokens p.texts

/-- What becomes of the call. -/
def ended : Except ShellError Unit × Machine :=
  Eval.runOn (Eval.redirected p.words (Eval.dispatch registry p.words.arguments)) p.ready

/-- What the call finds. -/
def before : Ground := p.ready.world.ground

/-- What the call leaves. -/
def after : Ground := p.ended.2.world.ground

/-- The application that the call runs, if it runs one. -/
def invocation? : Option Invocation :=
  match Eval.openedBy p.words p.ready.world with
  | .ok w => Eval.invoked registry w p.words.arguments
  | .error _ => none

/-- A performed call leaves its application in the log, and no other. -/
theorem invocations_ended :
    invocationsIn p.ended.2.log = p.invocation?.toList ++ invocationsIn p.ready.log := by
  rw [ended, Eval.runOn_redirected, invocation?]
  cases Eval.openedBy p.words p.ready.world with
  | error e => rfl
  | ok w => exact Eval.invocations_dispatch registry p.words.arguments (p.ready.withWorld w)

/-- There is at most one target of `>`. -/
theorem length_outputs_le : p.words.outputs.length ≤ 1 := by
  have hle : p.words.outputs.length ≤ p.tokens.count (.marker .output) := by
    show (wordsWith _ _).length ≤ _
    rw [length_wordsWith, map_fst_spliced]
    exact count_role_le p.tokens .output
  have honce := p.once
  rw [checkMarkers] at honce
  split at honce
  · cases honce
  split at honce
  · cases honce
  · omega

/-- The call runs an application in a world, with its arguments expanded there. -/
structure Runs (w : World) (app : Application) (arguments : List Text) : Prop where
  /-- The first word names the application. -/
  resolved : ∃ command words policy, p.words.arguments = command :: words ∧
    registry.resolve command = .ok (app, policy) ∧
    arguments = Glob.expandArguments w.files w.env.workingDir (app.patternIndex words) words
  after_eq : p.after = ((app.run arguments).run.run w).2.ground

/-- The application that a call runs is one of the shell. -/
theorem Runs.mem {p : Performed registry limit} {w : World} {app : Application}
    {arguments : List Text} (h : p.Runs w app arguments) : app ∈ registry.applications := by
  obtain ⟨command, words, policy, -, hresolve, -⟩ := h.resolved
  exact Registry.mem_of_resolve_eq_ok hresolve

/-- **A performed call leaves what its application leaves**, run behind the redirections; or what
the redirections leave, if there is no application; or everything as it was, if they fail. -/
theorem after_cases :
    (∃ e, Eval.openedBy p.words p.ready.world = .error e ∧ p.after = p.before) ∨
    ∃ w, Eval.openedBy p.words p.ready.world = .ok w ∧
      (p.after = w.ground ∨ ∃ app arguments, p.Runs w app arguments) := by
  have hended := Eval.runOn_redirected p.words (Eval.dispatch registry p.words.arguments) p.ready
  cases hopened : Eval.openedBy p.words p.ready.world with
  | error e =>
    rw [hopened] at hended
    exact Or.inl ⟨e, rfl, congrArg (fun ended ↦ ended.2.world.ground) hended⟩
  | ok w =>
    rw [hopened] at hended
    have hafter : p.after = (Eval.runOn (Eval.dispatch registry p.words.arguments)
        (p.ready.withWorld w)).2.world.ground :=
      congrArg (fun ended ↦ ended.2.world.ground) hended
    refine Or.inr ⟨w, rfl, ?_⟩
    rcases Eval.world_dispatch registry p.words.arguments (p.ready.withWorld w) with
      hworld | ⟨command, words, app, policy, hwords, hresolve, hworld⟩
    · exact Or.inl (hafter.trans (congrArg World.ground hworld))
    · exact Or.inr ⟨app, _, ⟨command, words, policy, hwords, hresolve, rfl⟩,
        hafter.trans (congrArg World.ground hworld)⟩

end Performed

section Leads

variable {registry : Registry} {limit : Nat} {ps ps' : List (Performed registry limit)}
variable {g g' g'' : Ground}

/-- The calls lead from one ground to another: each finds what the one before it has left. -/
def Leads (g : Ground) : List (Performed registry limit) → Ground → Prop
  | [], g' => g = g'
  | p :: ps, g' => g = p.before ∧ Leads p.after ps g'

theorem Leads.append (h : Leads g ps g') (h' : Leads g' ps' g'') : Leads g (ps ++ ps') g'' := by
  induction ps generalizing g with
  | nil =>
    obtain rfl : g = g' := h
    exact h'
  | cons p ps ih => exact ⟨h.1, ih h.2⟩

/-- What every performed call preserves, the calls together preserve. -/
theorem Leads.preserves {P : Ground → Prop} (h : Leads g ps g')
    (hstep : ∀ p ∈ ps, P p.before → P p.after) (hg : P g) : (∀ p ∈ ps, P p.before) ∧ P g' := by
  induction ps generalizing g with
  | nil =>
    obtain rfl : g = g' := h
    exact ⟨fun _ hp ↦ absurd hp List.not_mem_nil, hg⟩
  | cons p ps ih =>
    obtain ⟨hfirst, hrest⟩ := List.forall_mem_cons.1 hstep
    obtain ⟨rfl, hleads⟩ := h
    obtain ⟨hbefore, hend⟩ := ih hleads hrest (hfirst hg)
    exact ⟨List.forall_mem_cons.2 ⟨hg, hbefore⟩, hend⟩

end Leads

namespace Eval

variable {α β : Type} {registry : Registry} {limit : Nat} {T : Text → Prop} {m m' m'' : Machine}

/-- The commands of tokens stand in their words. -/
theorem exists_word_of_mem_commands {ts : List Token} {c : Text}
    (h : c ∈ ts.flatMap Token.commands) : ∃ parts, .word parts ∈ ts ∧ .command c ∈ parts := by
  obtain ⟨t, ht, hc⟩ := List.mem_flatMap.1 h
  cases t with
  | marker m => exact absurd hc List.not_mem_nil
  | word parts =>
    obtain ⟨part, hpart, hcommand⟩ := List.mem_filterMap.1 hc
    cases part with
    | literal t => cases hcommand
    | command c' =>
      obtain rfl : c' = c := Option.some.inj hcommand
      exact ⟨parts, ht, hpart⟩

/-! ### From machine to machine -/

/-- The machine has a sink for its output. -/
def HasSink (m : Machine) : Prop := ∃ s, m.world.output = .sink s

/-- The call is performed between two machines; the log shows when. What feeds it is a text, if that
is so at the start: what comes in between, out of a pipe, is one. -/
structure Between (T : Text → Prop) (m m' : Machine) (p : Performed registry limit) : Prop where
  text : T p.text
  started : m.log <:+ p.start.log
  logged : p.ended.2.log <:+ m'.log
  fed : Source.IsText m.world.input → Source.IsText p.ready.world.input

/-- The calls lead from one machine to a later one, and their applications are those that were run
in between. The log of a machine begins with what was noted last. -/
structure Connects (m : Machine) (ps : List (Performed registry limit)) (m' : Machine) : Prop where
  leads : Leads m.world.ground ps m'.world.ground
  invocations : invocationsIn m'.log =
    (ps.filterMap Performed.invocation?).reverse ++ invocationsIn m.log

theorem Connects.append {ps ps' : List (Performed registry limit)} (h : Connects m ps m')
    (h' : Connects m' ps' m'') : Connects m (ps ++ ps') m'' where
  leads := h.leads.append h'.leads
  invocations := by
    rw [h'.invocations, h.invocations, List.filterMap_append, List.reverse_append,
      List.append_assoc]

/-- A performed call connects the machine on which it is dispatched with the one it leaves. -/
theorem Connects.singleton (p : Performed registry limit) : Connects p.ready [p] p.ended.2 where
  leads := ⟨rfl, rfl⟩
  invocations := by
    rw [p.invocations_ended, List.filterMap_cons]
    cases p.invocation? <;> rfl

/-- From one machine to a later one, calls are performed whose texts are in `T`. -/
structure Performs (registry : Registry) (limit : Nat) (T : Text → Prop) (m m' : Machine) :
    Prop where
  flows : m.world.Flows m'.world
  log : m.log <:+ m'.log
  calls : ∃ ps : List (Performed registry limit), Connects m ps m' ∧ ∀ p ∈ ps, Between T m m' p

namespace Performs

/-- No call is performed. -/
theorem of_ground_eq (hflows : m.world.Flows m'.world) (hlog : m.log <:+ m'.log)
    (hground : m'.world.ground = m.world.ground)
    (hinvocations : invocationsIn m'.log = invocationsIn m.log) :
    Performs registry limit T m m' where
  flows := hflows
  log := hlog
  calls := ⟨[], ⟨hground.symm, hinvocations⟩, fun _ hp ↦ absurd hp List.not_mem_nil⟩

theorem hasSink (h : Performs registry limit T m m') (hm : HasSink m) : HasSink m' := by
  obtain ⟨s, hs⟩ := hm
  obtain ⟨s', -, hs', -⟩ := h.flows.output s hs
  exact ⟨s', hs'⟩

protected theorem trans (h : Performs registry limit T m m')
    (h' : Performs registry limit T m' m'') : Performs registry limit T m m'' where
  flows := h.flows.trans h'.flows
  log := h.log.trans h'.log
  calls := by
    obtain ⟨ps, hconnects, hps⟩ := h.calls
    obtain ⟨ps', hconnects', hps'⟩ := h'.calls
    refine ⟨ps ++ ps', hconnects.append hconnects', fun p hp ↦ ?_⟩
    rcases List.mem_append.1 hp with hp | hp
    · exact { hps p hp with logged := (hps p hp).logged.trans h'.log }
    · have hlater := hps' p hp
      -- An input that is a text at first still is one where the later calls begin.
      exact ⟨hlater.text, h.log.trans hlater.started, hlater.logged,
        fun hm ↦ hlater.fed (h.flows.input hm)⟩

/-- The same calls, seen from machines that differ in their streams. -/
theorem of_ground {n n' : Machine} (h : Performs registry limit T m m')
    (hflows : n.world.Flows n'.world) (hlog : n.log = m.log) (hlog' : n'.log = m'.log)
    (hground : n.world.ground = m.world.ground) (hground' : n'.world.ground = m'.world.ground)
    (hfed : Source.IsText n.world.input → Source.IsText m.world.input) :
    Performs registry limit T n n' where
  flows := hflows
  log := by
    rw [hlog, hlog']
    exact h.log
  calls := by
    obtain ⟨ps, ⟨hleads, hinvocations⟩, hps⟩ := h.calls
    rw [← hground, ← hground'] at hleads
    rw [← hlog, ← hlog'] at hinvocations
    refine ⟨ps, ⟨hleads, hinvocations⟩, fun p hp ↦ ?_⟩
    have hcall := hps p hp
    exact ⟨hcall.text, hlog ▸ hcall.started, hlog' ▸ hcall.logged, hcall.fed ∘ hfed⟩

/-- When its words are put together, a call is performed behind the calls in its commands: they are
evaluated before a file is opened. -/
theorem concat (happs : registry.Confined) {p : Performed registry limit} (hT : T p.text)
    (h : Performs registry limit T p.start p.ready) :
    Performs registry limit T p.start p.ended.2 := by
  have hflows := (compositional_flows limit happs).dispatched p.words p.ready
  have hgrown := (compositional_grows registry limit).dispatched p.words p.ready
  obtain ⟨ps, hconnects, hps⟩ := h.calls
  refine ⟨h.flows.trans hflows, h.log.trans hgrown, ps ++ [p],
    hconnects.append (.singleton p), fun p' hp' ↦ ?_⟩
  rcases List.mem_append.1 hp' with hp' | hp'
  · exact { hps p' hp' with logged := (hps p' hp').logged.trans hgrown }
  · obtain rfl := List.mem_singleton.1 hp'
    exact ⟨hT, List.suffix_refl _, List.suffix_refl _, h.flows.input⟩

end Performs

/-- The step performs calls, whatever sink it writes to. -/
def Performing (registry : Registry) (limit : Nat) (T : Text → Prop) (x : Eval α) : Prop :=
  ∀ m, HasSink m → Performs registry limit T m (runOn x m).2

namespace Performing

protected theorem pure (a : α) : Performing registry limit T (pure a) :=
  fun m _ ↦ .of_ground_eq (.refl m.world) (List.suffix_refl m.log) rfl rfl

protected theorem throw (e : ShellError) : Performing registry limit T (throw e : Eval α) :=
  fun m _ ↦ .of_ground_eq (.refl m.world) (List.suffix_refl m.log) rfl rfl

/-- What is noted is no application. -/
protected theorem note {e : Event} (he : e.invocation? = none) :
    Performing registry limit T (note e) :=
  fun m _ ↦ .of_ground_eq (.refl m.world) (List.suffix_cons _ _) rfl (List.filterMap_cons_none he)

protected theorem bind {x : Eval α} {f : α → Eval β} (hx : Performing registry limit T x)
    (hf : ∀ a, Performing registry limit T (f a)) : Performing registry limit T (x >>= f) := by
  intro m hm
  have hstep := hx m hm
  rcases hrun : runOn x m with ⟨e | a, m'⟩ <;> rw [hrun] at hstep
  · rw [runOn_bind_of_error hrun]
    exact hstep
  · rw [runOn_bind_of_ok hrun]
    exact hstep.trans (hf a m' (hstep.hasSink hm))

protected theorem report (app : Text) (e : ShellError) :
    Performing registry limit T (report app e) := by
  intro m hm
  rw [runOn_report]
  split <;> exact .of_ground_eq (.refl m.world) (List.suffix_cons _ _) rfl rfl

/-- What feeds a step instead of the input is a text. -/
protected theorem fedBy {x : Eval α} {source : Option Source} (hsource : Source.IsText source)
    (hx : Performing registry limit T x) : Performing registry limit T (fedBy source x) := by
  intro m hm
  have hstep := hx (m.withInput source) hm
  exact hstep.of_ground ⟨hstep.flows.output, id⟩ rfl rfl rfl rfl fun _ ↦ hsource

/-- What is written elsewhere goes to a sink too. -/
protected theorem writingTo {x : Eval Unit} (s : Sink) (hx : Performing registry limit T x) :
    Performing registry limit T (writingTo (.sink s) x) := by
  intro m hm
  have hstep := hx (m.withOutput (.sink s)) ⟨s, rfl⟩
  exact hstep.of_ground ⟨fun s hs ↦ ⟨s, [], hs, (List.append_nil _).symm⟩, hstep.flows.input⟩
    rfl rfl rfl rfl id

/-- What goes through a pipe is a text. -/
protected theorem pipe {left right : Eval Unit} (hleft : Performing registry limit T left)
    (hright : Performing registry limit T right) :
    Performing registry limit T (do
      let bytes ← intoBuffer left
      fedBy (some (.bytes bytes)) right) := by
  intro m hm
  have hfirst := Performing.writingTo .fresh hleft m hm
  obtain ⟨s, t, hs, hbytes⟩ := (hleft (m.withOutput (.sink .fresh)) ⟨_, rfl⟩).flows.output _ rfl
  rw [runOn_writingTo] at hfirst
  rcases hrun : runOn left (m.withOutput (.sink .fresh)) with ⟨e | ⟨⟩, m'⟩ <;>
    rw [hrun] at hfirst hs
  · rw [runOn_pipe_of_error hrun]
    exact hfirst
  · rw [runOn_pipe_of_ok hrun]
    -- The buffer was empty, so it holds the text that flowed into it and nothing else.
    have hwritten : written m'.world.output = t.encode := by
      rw [hs]
      exact hbytes
    rw [hwritten]
    exact hfirst.trans (Performing.fedBy (Source.isText_encode t) hright _ (hfirst.hasSink hm))

/-- A command in back-quotes is noted, and what it does is done one level deeper. -/
protected theorem nested {line : Text → Eval Unit} {c : Text}
    (h : Performing registry limit T (line c)) :
    Performing registry limit T (nested limit line c) := by
  intro m hm
  rw [runOn_nested]
  split
  · exact .of_ground_eq (.refl m.world) (List.suffix_refl m.log) rfl rfl
  · have hnote : Performs registry limit T m (m.entered c) :=
      .of_ground_eq (.refl m.world) (List.suffix_cons _ _) rfl rfl
    have hinside := hnote.trans (h (m.entered c) hm)
    exact hinside.of_ground hinside.flows rfl rfl rfl rfl id

protected theorem substitute {line : Text → Eval Unit} {c : Text}
    (h : Performing registry limit T (line c)) :
    Performing registry limit T (substitute limit line c) := by
  refine .bind (.writingTo _ (.fedBy Source.isText_none (.nested h))) fun ended ↦ ?_
  obtain ⟨result, output⟩ := ended
  cases result with
  | ok _ => exact .pure _
  | error e => exact .bind (.report _ e) fun _ ↦ .pure _

protected theorem mapM {sub : Text → Eval Text} {commands : List Text}
    (hsub : ∀ c ∈ commands, Performing registry limit T (sub c)) :
    Performing registry limit T (commands.mapM sub) := by
  induction commands with
  | nil => exact .pure []
  | cons c rest ih =>
    obtain ⟨hc, hrest⟩ := List.forall_mem_cons.1 hsub
    rw [List.mapM_cons]
    exact .bind hc fun _ ↦ .bind (ih hrest) fun _ ↦ .pure _

/-! ### One call -/

/-- **A call is performed when its words are put together**, behind the calls in its commands. -/
protected theorem call (happs : registry.Confined) {text : Text} {levels : Nat} (hT : T text)
    (hsub : ∀ c, CommandIn c text →
      Performing registry limit T (substitution registry limit levels c)) :
    Performing registry limit T (call registry (substitution registry limit levels) text) := by
  intro m hm
  rw [call]
  cases hread : Token.read text with
  | error d => exact .of_ground_eq (.refl m.world) (List.suffix_refl m.log) rfl rfl
  | ok ts =>
    dsimp only
    rw [runOn_bind_of_ok (runOn_note _ m)]
    have hnote : Performs registry limit T m (m.noted (.call text ts)) :=
      .of_ground_eq (.refl m.world) (List.suffix_cons _ _) rfl rfl
    cases hmarkers : checkMarkers ts with
    | error e =>
      rw [tokens, hmarkers, ofResult_error_bind]
      exact hnote
    | ok _ =>
      have hcommands : ∀ c ∈ ts.flatMap Token.commands,
          Performing registry limit T (substitution registry limit levels c) := by
        intro c hc
        obtain ⟨parts, hparts, hc⟩ := exists_word_of_mem_commands hc
        exact hsub c ⟨ts, parts, hread, hparts, hc⟩
      have hfirst := hnote.trans (Performing.mapM hcommands _ (hnote.hasSink hm))
      rw [tokens_eq hmarkers]
      rcases hrun : runOn ((ts.flatMap Token.commands).mapM
        (substitution registry limit levels)) (m.noted (.call text ts)) with ⟨e | texts, ready⟩
      · rw [hrun] at hfirst
        rw [runOn_bind_of_error hrun]
        exact hfirst
      · rw [hrun] at hfirst
        rw [runOn_bind_of_ok hrun]
        let p : Performed registry limit :=
          ⟨text, ts, levels, texts, m, ready, hread, hmarkers, hrun, hfirst.hasSink hm⟩
        exact Performs.concat happs (p := p) hT hfirst

end Performing

/-! ### Lines -/

theorem callWise_performing (happs : registry.Confined) (T : Text → Prop) :
    CallWise registry limit
      (fun sub text ↦ T text ∧ ∃ levels, sub = substitution registry limit levels)
      (Performing registry limit T) where
  throw := .throw
  bind := .bind
  note_line _ := .note rfl
  call := by
    rintro sub text ⟨htext, levels, rfl⟩ hsub
    exact .call happs htext hsub
  pipe := .pipe
  substitute := .substitute

/-- **A line performs calls of its own text**, those in back-quotes among them. -/
theorem performing_line (happs : registry.Confined) (limit levels : Nat) (text : Text) :
    Performing registry limit (CallOf · text) (line registry limit levels text) :=
  (callWise_performing happs _).line levels text fun levels _ hcall ↦ ⟨hcall, levels, rfl⟩

theorem grows_mapM_substitution (registry : Registry) (limit levels : Nat)
    (commands : List Text) :
    Grows (commands.mapM (substitution registry limit levels)) := by
  have hgrows := compositional_grows registry limit
  induction commands with
  | nil => exact hgrows.pure []
  | cons c rest ih =>
    rw [List.mapM_cons]
    exact hgrows.bind (hgrows.substitution levels c) fun _ ↦ hgrows.bind ih fun _ ↦ hgrows.pure _

end Eval

/-- A performed call is in the log. -/
theorem Performed.mem_log {registry : Registry} {limit : Nat} (p : Performed registry limit) :
    ⟨p.start.depth, .call p.text p.tokens⟩ ∈ p.ended.2.log := by
  have hcommands := Eval.grows_mapM_substitution registry limit p.levels
    (p.tokens.flatMap Token.commands) (p.start.noted (.call p.text p.tokens))
  rw [p.substituted] at hcommands
  have hended := (Eval.compositional_grows registry limit).dispatched p.words p.ready
  exact (hcommands.trans hended).mem List.mem_cons_self

namespace Shell

/-- The environment and the files of a shell. -/
def ground (sh : Shell) : Ground := ⟨sh.env, sh.files⟩

/-- The calls are those that a line has performed, in their order: they stand in the line or in a
command in back-quotes of it, they are in the log, they lead from what the line found to what it
left, and they run the applications that the log shows. -/
structure PerformedBy (sh : Shell) (line : Text) (ran : Ran)
    (ps : List (Performed sh.registry sh.limit)) : Prop where
  leads : Leads sh.ground ps ran.shell.ground
  invocations : invocationsIn ran.log = ps.filterMap Performed.invocation?
  calls : ∀ p ∈ ps, Eval.CallOf p.text line
  logged : ∀ p ∈ ps, ⟨p.start.depth, .call p.text p.tokens⟩ ∈ ran.log

/-- **A line changes the environment and the files by performing calls.** -/
theorem exists_performedBy (sh : Shell) (happs : sh.registry.Confined) (line : Text)
    (input : Option Source) (output : Sink) :
    ∃ ps, sh.PerformedBy line (sh.run line input output) ps := by
  have hperforms := Eval.performing_line happs sh.limit (sh.limit - sh.depth) line
    (sh.machine input output) ⟨output, rfl⟩
  obtain ⟨ps, ⟨hleads, hinvocations⟩, hps⟩ := hperforms.calls
  refine ⟨ps, hleads, ?_, fun p hp ↦ (hps p hp).text,
    fun p hp ↦ List.mem_reverse.2 ((hps p hp).logged.mem p.mem_log)⟩
  have hlog : invocationsIn (sh.run line input output).log =
      ((ps.filterMap Performed.invocation?).reverse ++ []).reverse :=
    (invocationsIn_reverse _).trans (congrArg List.reverse hinvocations)
  rw [hlog, List.append_nil, List.reverse_reverse]

/-- What performed calls and recording preserve, a session preserves. -/
theorem ground_after {P : Ground → Prop}
    (hcalls : ∀ {registry : Registry} {limit : Nat} (p : Performed registry limit),
      registry.Confined → P p.before → P p.after)
    (hrecord : ∀ {env files}, P ⟨env, files⟩ → ∀ history, P ⟨{ env with history }, files⟩)
    {sh : Shell} (happs : sh.registry.Confined) {requests : List Request}
    (hrequests : ∀ request ∈ requests, request.OfSession) (h : P sh.ground) :
    P (sh.after requests).ground := by
  have hline : ∀ (sh : Shell) line input output, sh.registry.Confined → P sh.ground →
      P (sh.run line input output).shell.ground := by
    intro sh line input output happs hsh
    obtain ⟨ps, hps⟩ := sh.exists_performedBy happs line input output
    exact (hps.leads.preserves (fun p _ ↦ hcalls p happs) hsh).2
  refine (after_preserves (P := fun sh ↦ sh.registry.Confined ∧ P sh.ground)
    (fun sh request hmem hsh ↦ ⟨?_, ?_⟩) ⟨happs, h⟩).2
  · rw [(registry_next sh request).1]
    exact hsh.1
  · cases hrequests request hmem with
    | run line input output => exact hline sh line input output hsh.1 hsh.2
    | eval line output =>
      obtain ⟨errors, heval⟩ := eval_shell_eq sh line output
      rw [next, heval]
      exact hline sh line none output hsh.1 hsh.2
    | record recorded => exact hrecord hsh.2 _

end Shell

end LineShell
