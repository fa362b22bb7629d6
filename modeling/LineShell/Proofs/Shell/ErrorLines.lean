import LineShell.Proofs.Application.Quotes
import LineShell.Proofs.Glob.Unbroken
import LineShell.Proofs.Shell.Performed

/-!
# Errors of one line

A line without back-quotes whose calls have no report mark ends with its first error, and reports
that one only. Its message is one line, unless it is the report of a regular expression, which has
several (`Shell.failure_is_reported_once`). Every report of a regular expression is about the way it
is written: a refusal for the size of its matcher, which would be one line, is assumed not to occur
(`Regex.Matcher.compile`).

What such a message quotes is a word of a call, which is made of the characters of the line
(`mem_of_mem_wordsWith`), a name of the files that a word is expanded to, or a path that the shell
knows. So if none of these has a line feed in it, no message gets one from what it quotes. This is
an invariant of the run (`Eval.Calm`), as a name of a file can come from an earlier call.
-/

namespace LineShell

open Text

/-! ### The words of a call -/

theorem exists_mem_text_of_mem_splice {parts : List Part} {d : Char} (h : d ∈ splice parts []) :
    ∃ part ∈ parts, d ∈ part.text := by
  induction parts with
  | nil => cases h
  | cons part rest ih =>
    cases part with
    | literal t =>
      rcases List.mem_append.1 h with hd | hd
      · exact ⟨_, List.mem_cons_self, hd⟩
      · obtain ⟨part, hpart, hd⟩ := ih hd
        exact ⟨part, List.mem_cons_of_mem _ hpart, hd⟩
    | command c =>
      obtain ⟨part, hpart, hd⟩ := ih h
      exact ⟨part, List.mem_cons_of_mem _ hpart, hd⟩

theorem exists_slot_of_mem_spliced {slots : List Slot} {role : Role} {word : Text}
    (h : (role, word) ∈ spliced slots []) : ∃ slot ∈ slots, word = splice slot.parts [] := by
  induction slots with
  | nil => cases h
  | cons slot rest ih =>
    rw [spliced, List.drop_nil] at h
    rcases List.mem_cons.1 h with heq | h
    · exact ⟨slot, List.mem_cons_self, (Prod.mk.inj heq).2⟩
    · obtain ⟨slot', hslot, hword⟩ := ih h
      exact ⟨slot', List.mem_cons_of_mem _ hslot, hword⟩

/-- The character of a marker stands in the call. -/
theorem Token.char_mem_of_mem_read {text : Text} {ts : List Token} {m : Marker}
    (hread : Token.read text = .ok ts) (hm : .marker m ∈ ts) : m.char ∈ text := by
  by_contra hnone
  have hcount : ts.count (.marker m) = 0 :=
    (Token.count_marker hread m).trans (bareCountFrom_of_not_mem hnone _)
  exact absurd hm (List.count_eq_zero.1 hcount)

/-- **Without commands, the words of a call are made of its characters.** -/
theorem mem_of_mem_wordsWith {text word : Text} {ts : List Token} {role : Role} {d : Char}
    (hread : Token.read text = .ok ts) (hword : word ∈ wordsWith role (spliced (placedSlots ts) []))
    (hd : d ∈ word) : d ∈ text := by
  obtain ⟨⟨role', word'⟩, hmem, rfl⟩ := List.mem_map.1 hword
  obtain ⟨slot, hslot, rfl⟩ := exists_slot_of_mem_spliced (List.mem_filter.1 hmem).1
  obtain ⟨part, hpart, hd⟩ := exists_mem_text_of_mem_splice hd
  rw [← slotsOf_eq_placedSlots] at hslot
  rcases Eval.parts_of_mem_slotsOf hslot with hparts | ⟨m, hm, hparts⟩
  · exact Token.mem_of_read hread hparts hpart hd
  · rw [hparts, List.mem_singleton] at hpart
    rw [hpart] at hd
    exact List.mem_singleton.1 hd ▸ Token.char_mem_of_mem_read hread hm

/-- A call that ends the line when it fails: no report mark is in front of its command word. This is
said of calls without commands, whose words are known from the text. -/
def SafeCall (text : Text) : Prop :=
  ∀ ts, Token.read text = .ok ts → ∀ command ∈ (splicedWords ts []).arguments.head?,
    (readCommandWord command).1 = .endLine

theorem safeCall_iff_of_read {text : Text} {ts : List Token} (hread : Token.read text = .ok ts) :
    SafeCall text ↔ ∀ command ∈ (splicedWords ts []).arguments.head?,
      (readCommandWord command).1 = .endLine := by
  refine ⟨fun h ↦ h ts hread, fun h ts' hread' ↦ ?_⟩
  obtain rfl := Except.ok.inj (hread.symm.trans hread')
  exact h

instance (text : Text) : Decidable (SafeCall text) :=
  match hread : Token.read text with
  | .error _ => isTrue fun _ hread' ↦ nomatch hread.symm.trans hread'
  | .ok _ => decidable_of_iff' _ (safeCall_iff_of_read hread)

/-- A text with a line feed behind it is one line if it is unbroken. -/
theorem count_newline_eq_one_iff (t : Text) :
    (t ++ [newline]).count newline = 1 ↔ t.Unbroken := by
  rw [List.count_append, List.count_singleton_self, Nat.add_eq_right, List.count_eq_zero]
  rfl

/-! ### Command words -/

/-- A name in lower case is made of a word. -/
theorem unbroken_name_of_readCommandWord {word : Text} (h : word.Unbroken) :
    (readCommandWord word).2.Unbroken := by
  have hlower : word.lower.Unbroken := h.lower
  rw [readCommandWord]
  cases hword : word.lower with
  | nil => exact unbroken_nil
  | cons c rest =>
    rw [hword] at hlower
    dsimp only
    split
    · exact (unbroken_cons.1 hlower).2
    · exact hlower

/-! ### Errors and what they quote -/

/-- The error names what failed: the reading of a line, its redirections, an application, or a name
that no application has. -/
def ShellError.NamesComponent (registry : Registry) (e : ShellError) : Prop :=
  e = .unknownApplication e.component ∨
    e.component ∈ ShellError.parserName :: redirectionName :: registry.names

/-- An error that names what failed; where `U` holds, neither the name nor what the message quotes
has a line feed in it. -/
structure ShellError.Told (U : Prop) (e : ShellError) : Prop where
  component : e.NamesComponent .standard
  unbroken : U → e.component.Unbroken ∧ e.Plain

namespace ShellError.Told

variable {U : Prop}

theorem unterminated (d : Delimiter) : Told U (.unterminated d) where
  component := Or.inr List.mem_cons_self
  unbroken _ := ⟨unbroken_parserName, nofun⟩

theorem redirection (m : Marker) : Told U (.redirection m) where
  component := Or.inr (List.mem_cons_of_mem _ List.mem_cons_self)
  unbroken _ := ⟨unbroken_redirectionName, nofun⟩

/-- A target that cannot be opened is quoted. -/
theorem target {target : Text} (h : U → target.Unbroken) (e : OsError) :
    Told U (.path redirectionName (.os target e)) where
  component := Or.inr (List.mem_cons_of_mem _ List.mem_cons_self)
  unbroken hU := ⟨unbroken_redirectionName, List.forall_mem_singleton.2 (h hU)⟩

theorem unknownApplication {name : Text} (h : U → name.Unbroken) :
    Told U (.unknownApplication name) where
  component := Or.inl rfl
  unbroken hU := ⟨h hU, List.forall_mem_singleton.2 (h hU)⟩

theorem component_of_names {app : Text} {e : ShellError} (h : e.Names app) : e.component = app := by
  cases e with
  | unterminated d => cases h
  | unknownApplication name => cases h
  | redirection m => cases h
  | depth limit => cases h
  | _ => exact Option.some.inj h

/-- An application of the shell fails in its name. -/
theorem application {app : Application} (happ : app ∈ Registry.standard.applications)
    {e : ShellError} (hname : e.Names app.name) (h : U → e.Plain) : Told U e := by
  have hcomponent : e.component = app.name := component_of_names hname
  have hnames : ∀ name ∈ Registry.standard.names, Text.Unbroken name := by decide +kernel
  have hmem : app.name ∈ Registry.standard.names := List.mem_map.2 ⟨app, happ, rfl⟩
  refine ⟨Or.inr ?_, fun hU ↦ ⟨?_, h hU⟩⟩
  · rw [hcomponent]
    exact List.mem_cons_of_mem _ (List.mem_cons_of_mem _ hmem)
  · rw [hcomponent]
    exact hnames _ hmem

end ShellError.Told

namespace Eval

/-! ### One call -/

variable {α : Type} {U : Prop} {m : Machine}

/-- The machine has passed no error over; where `U` holds, no path that it knows has a line feed in
it. -/
structure Calm (U : Prop) (m : Machine) : Prop where
  silent : passedOver m.log = []
  unbroken : U → m.world.Unbroken

/-- Only the log, the environment and the files count. -/
theorem Calm.of_ground {m' : Machine} (h : Calm U m) (hlog : passedOver m'.log = passedOver m.log)
    (hground : U → m.world.Unbroken → m'.world.Unbroken) : Calm U m' :=
  ⟨hlog.trans h.silent, fun hU ↦ hground hU (h.unbroken hU)⟩

theorem Calm.withInput (h : Calm U m) (input : Option Source) : Calm U (m.withInput input) :=
  h.of_ground rfl fun _ hw ↦ ⟨hw.files, hw.env⟩

theorem Calm.withOutput (h : Calm U m) (output : Output) : Calm U (m.withOutput output) :=
  h.of_ground rfl fun _ hw ↦ ⟨hw.files, hw.env⟩

/-- The step keeps a machine calm, and its errors tell what failed. -/
abbrev KeepsCalm (U : Prop) (x : Eval α) : Prop := Keeps (Calm U) (ShellError.Told U) x

theorem runOn_settled_endLine (result : Except ShellError Unit) (m : Machine) :
    runOn (settled .endLine result) m = (result, m) := by
  cases result <;> rfl

/-- An application keeps the machine calm when its failure ends the line. -/
theorem keepsCalm_dispatch {words : List Text} (hwords : U → ∀ word ∈ words, word.Unbroken)
    (hsafe : ∀ command ∈ words.head?, (readCommandWord command).1 = .endLine) :
    KeepsCalm U (dispatch .standard words) := by
  cases words with
  | nil => exact .pure ()
  | cons command arguments =>
    cases hres : Registry.standard.resolve command with
    | error e =>
      rw [dispatch, hres, ofResult_error_bind, Registry.eq_of_resolve_eq_error hres]
      refine .throw (.unknownApplication fun hU ↦ ?_)
      exact unbroken_name_of_readCommandWord (hwords hU command List.mem_cons_self)
    | ok found =>
      obtain ⟨app, policy⟩ := found
      have happ : app ∈ Registry.standard.applications := Registry.mem_of_resolve_eq_ok hres
      obtain rfl : policy = .endLine :=
        (Registry.policy_of_resolve_eq_ok hres).trans (hsafe command rfl)
      have hexpanded : ∀ {m}, Calm U m → U → ∀ t ∈ expandedOn m app arguments, t.Unbroken :=
        fun hm hU t ht ↦ Glob.unbroken_of_mem_expandArguments (hm.unbroken hU).files
          (fun arg harg ↦ hwords hU arg (List.mem_cons_of_mem _ harg)) ht
      refine ⟨fun _ ↦ rfl, fun {m} hm ↦ ?_, fun {m e} hm he ↦ ?_⟩
      · rw [runOn_dispatch_of_resolve hres, runOn_settled_endLine]
        exact hm.of_ground rfl fun _ hworld ↦
          Registry.standard_confined.unbroken happ _ hworld
      · rw [runOn_dispatch_of_resolve hres, runOn_settled_endLine] at he
        refine .application happ (Registry.standard_raises app happ _ _ e he) fun hU ↦ ?_
        exact Registry.standard_failsPlainly app happ _ (hexpanded hm hU) _ (hm.unbroken hU) e he

/-- The file of `>` is made under an unbroken name. -/
theorem unbroken_of_openedBy_eq_ok {ws : Words} {w w' : World}
    (hout : ∀ t ∈ ws.outputs, t.Unbroken) (hw : w.Unbroken) (h : openedBy ws w = .ok w') :
    w'.Unbroken := by
  obtain ⟨henv, hfiles⟩ := openedBy_eq_ok h
  refine ⟨?_, henv ▸ hw.env⟩
  split at hfiles
  · next files loc houtput =>
    obtain ⟨t, ht, hcreate⟩ := create_of_outputOf houtput
    have hpath : Path.Unbroken (w.env.resolve t) :=
      Path.unbroken_resolve hw.env.workingDir (Path.unbroken_ofText (hout t (List.mem_of_head? ht)))
    exact hfiles.1 ▸ hw.files.create hpath hcreate
  · exact hfiles.1 ▸ hw.files

/-- A call is calm behind its redirections. -/
theorem keepsCalm_redirected {ws : Words} {x : Eval Unit}
    (hin : U → ∀ t ∈ ws.inputs, t.Unbroken) (hout : U → ∀ t ∈ ws.outputs, t.Unbroken)
    (hx : KeepsCalm U x) : KeepsCalm U (redirected ws x) := by
  have hready : ∀ {m w'}, Calm U m → openedBy ws m.world = .ok w' → Calm U (m.withWorld w') :=
    fun hm hopened ↦ hm.of_ground rfl fun hU hw ↦ unbroken_of_openedBy_eq_ok (hout hU) hw hopened
  refine ⟨fun _ ↦ rfl, fun {m} hm ↦ ?_, fun {m e} hm he ↦ ?_⟩
  · rw [runOn_redirected]
    split
    · exact hm
    · next w' hopened =>
      exact (hx.keeps (hready hm hopened)).of_ground rfl fun _ hw ↦ ⟨hw.files, hw.env⟩
  · rw [runOn_redirected] at he
    split at he
    · next e' hopened =>
      obtain ⟨t, f, ht, rfl⟩ := exists_of_openedBy_eq_error hopened
      refine Except.error.inj he ▸ .target (fun hU ↦ ?_) f
      exact ht.elim (fun ht ↦ hin hU t (List.mem_of_head? ht))
        fun ht ↦ hout hU t (List.mem_of_head? ht)
    · next w' hopened => exact hx.fails (hready hm hopened) he

/-- A call without back-quotes has no commands. -/
theorem commands_eq_nil {text : Text} {ts : List Token} (hread : Token.read text = .ok ts)
    (hcommands : '`' ∉ text) : ts.flatMap Token.commands = [] := by
  refine List.eq_nil_iff_forall_not_mem.2 fun c hc ↦ ?_
  obtain ⟨parts, hparts, hc⟩ := exists_word_of_mem_commands hc
  exact hcommands (CommandIn.mem ⟨ts, parts, hread, hparts, hc⟩)

/-- **A safe call without back-quotes keeps the machine calm.** -/
theorem keepsCalm_call {text : Text} (htext : U → text.Unbroken) (hcommands : '`' ∉ text)
    (hsafe : SafeCall text) (sub : Text → Eval Text) : KeepsCalm U (call .standard sub text) := by
  rw [call]
  cases hread : Token.read text with
  | error d => exact .throw (.unterminated d)
  | ok ts =>
    refine .bind (.note fun hm ↦ hm.of_ground rfl fun _ hw ↦ hw) fun _ ↦ ?_
    cases hmarkers : checkMarkers ts with
    | error e =>
      obtain ⟨marker, rfl⟩ := exists_of_checkMarkers_eq_error hmarkers
      rw [tokens, hmarkers, ofResult_error_bind]
      exact .throw (.redirection marker)
    | ok _ =>
      have hwords : ∀ role, U → ∀ word ∈ wordsWith role (spliced (placedSlots ts) []),
          word.Unbroken := fun role hU word hword ↦
        (htext hU).of_subset fun c hc ↦ mem_of_mem_wordsWith hread hword hc
      rw [tokens_eq hmarkers, commands_eq_nil hread hcommands, List.mapM_nil, pure_bind]
      exact keepsCalm_redirected (hwords _) (hwords _)
        (keepsCalm_dispatch (hwords _) (hsafe ts hread))

/-! ### Whole lines -/

theorem keepsCalm_fedBy {x : Eval α} (source : Option Source) (hx : KeepsCalm U x) :
    KeepsCalm U (fedBy source x) := by
  refine ⟨fun _ ↦ rfl, fun {m} hm ↦ ?_, fun {m e} hm he ↦ ?_⟩
  · rw [runOn_fedBy]
    exact (hx.keeps (hm.withInput source)).withInput _
  · rw [runOn_fedBy] at he
    exact hx.fails (hm.withInput source) he

theorem keepsCalm_intoBuffer {x : Eval Unit} (hx : KeepsCalm U x) : KeepsCalm U (intoBuffer x) := by
  refine ⟨fun _ ↦ rfl, fun {m} hm ↦ ?_, fun {m e} hm he ↦ ?_⟩
  · rw [runOn_intoBuffer]
    exact (hx.keeps (hm.withOutput _)).withOutput _
  · rw [runOn_intoBuffer] at he
    refine hx.fails (hm.withOutput (.sink .fresh)) ?_
    cases hrun : (runOn x (m.withOutput (.sink .fresh))).1 with
    | ok _ =>
      rw [hrun] at he
      cases he
    | error e' =>
      rw [hrun] at he
      exact congrArg _ (Except.error.inj he)

/-- A tree keeps the machine calm if its calls do. -/
theorem keepsCalm_tree {t : Tree} {sub : Text → Eval Text}
    (h : ∀ text ∈ t.calls, KeepsCalm U (call .standard sub text)) :
    KeepsCalm U (tree .standard sub t) := by
  induction t with
  | call text => exact h text (List.mem_singleton.2 rfl)
  | seq left right ihl ihr =>
    have hl := ihl fun text htext ↦ h text (List.mem_append_left _ htext)
    have hr := ihr fun text htext ↦ h text (List.mem_append_right _ htext)
    exact .bind hl fun _ ↦ hr
  | pipe left right ihl ihr =>
    have hl := ihl fun text htext ↦ h text (List.mem_append_left _ htext)
    have hr := ihr fun text htext ↦ h text (List.mem_append_right _ htext)
    exact .bind (keepsCalm_intoBuffer hl) fun _ ↦ keepsCalm_fedBy _ hr

/-- **A line of safe calls without back-quotes keeps the machine calm.** -/
theorem keepsCalm_line {text : Text} (htext : U → text.Unbroken) (hcommands : '`' ∉ text)
    (hsafe : ∀ t, Tree.parse text = .ok t → ∀ call ∈ t.calls, SafeCall call) (limit levels : Nat) :
    KeepsCalm U (line .standard limit levels text) := by
  rw [line_eq, lineWith]
  cases ht : Tree.parse text with
  | error d => exact .throw (.unterminated d)
  | ok t =>
    have hmem : ∀ call ∈ t.calls, ∀ c ∈ call, c ∈ text :=
      fun call hcall c ↦ CallOf.mem_of_mem (.here ht hcall)
    refine .bind (.note fun hm ↦ hm.of_ground rfl fun _ hw ↦ hw) fun _ ↦
      keepsCalm_tree fun call hcall ↦ keepsCalm_call ?_ ?_ (hsafe t ht call hcall) _
    · exact fun hU ↦ (htext hU).of_subset (hmem call hcall)
    · exact fun hc ↦ hcommands (hmem call hcall _ hc)

end Eval

namespace Shell

open Eval

/-- **A failure is reported once, on one line if nothing breaks it.** Evaluate a line without
back-quotes whose calls have no report mark, in a shell with the usual applications and an error
channel that accepts everything. If the line succeeds, nothing is reported. If it fails, the message
of its error is, and a line feed behind it. The message begins with the name of what failed, and it
is one line unless it is the report of a regular expression, or the name or a text that it quotes
has a line feed in it. It quotes no such text if there is no line feed in the line, in the name of a
file or in a path that the shell knows. -/
theorem failure_is_reported_once (sh : Shell) (hregistry : sh.registry = .standard)
    (haccepts : sh.errors.refuses = false) (line : Text) (hcommands : '`' ∉ line)
    (hsafe : ∀ t, Tree.parse line = .ok t → ∀ text ∈ t.calls, SafeCall text) (output : Sink) :
    let ended := sh.eval line output
    ended.1 = success ∧ ended.2.1.errors = sh.errors ∨
    ∃ e, (sh.run line none output).result = .error e ∧ ended.1 = failure ∧
      let report := e.message ++ [newline]
      ended.2.1.errors = sh.errors.append report.encode ∧
      (∃ detail, report = e.component ++ ": ".toList ++ detail) ∧ e.NamesComponent sh.registry ∧
      (report.count newline = 1 ↔
        e.component.Unbroken ∧ ¬ e.IsRegexRefusal ∧ ∀ t ∈ e.quoted, t.Unbroken) ∧
      (line.Unbroken → sh.files.Unbroken → sh.env.Unbroken →
        (report.count newline = 1 ↔ ¬ e.IsRegexRefusal)) := by
  intro ended
  let U : Prop := line.Unbroken ∧ sh.files.Unbroken ∧ sh.env.Unbroken
  have hline : KeepsCalm U (Eval.line sh.registry sh.limit (sh.limit - sh.depth) line) := by
    rw [hregistry]
    exact keepsCalm_line (fun hU ↦ hU.1) hcommands hsafe _ _
  have hstart : Calm U (sh.machine none output) := ⟨rfl, fun hU ↦ ⟨hU.2.1, hU.2.2⟩⟩
  -- Nothing was passed over, so the error channel is as before when the line ends.
  have hnone : passedOver (sh.run line none output).log = [] := by
    rw [run_eq]
    exact (passedOver_reverse _).trans (congrArg List.reverse (hline.keeps hstart).silent)
  have herrors : (sh.run line none output).shell.errors = sh.errors := by
    rw [(run_tells haccepts line none output).1, hnone]
    exact Sink.append_nil _
  rcases hresult : (sh.run line none output).result with e | ⟨⟩
  · refine Or.inr ⟨e, rfl, ?_⟩
    have hended : ended = _ := eval_of_error hresult
    have htold : e.Told U := hline.fails hstart hresult
    obtain ⟨detail, hdetail⟩ := e.message_eq
    have hbroken := (count_newline_eq_one_iff e.message).trans e.unbroken_message_iff
    refine ⟨congrArg Prod.fst hended, ?_, ⟨detail ++ [newline], ?_⟩, hregistry ▸ htold.component,
      hbroken, fun hunbroken hfiles henv ↦ ?_⟩
    · rw [hended]
      exact (showError_of_accepts (herrors ▸ haccepts)).trans (by rw [herrors]; rfl)
    · rw [hdetail, List.append_assoc]
    · obtain ⟨hcomponent, hplain⟩ := htold.unbroken ⟨hunbroken, hfiles, henv⟩
      rw [hbroken, and_iff_right hcomponent]
      exact and_iff_left hplain
  · have hended : ended = _ := eval_of_ok hresult
    refine Or.inl ?_
    rw [hended]
    exact ⟨rfl, herrors⟩

/-- A word that matches no file stands for itself, and is quoted. -/
theorem failure_is_reported_once_missing :
    let files : Files := ⟨.dir (.cons (Path.ofText "ab".toList) (.file [0x61]) .nil)⟩
    let sh : Shell := { env := { workingDir := [Path.slash] }, files }
    let line : Text := "cat a* >out; pwd | grep x no*".toList
    let calls := ["cat a* >out".toList, " pwd ".toList, " grep x no*".toList]
    let t : Tree := .seq (.call "cat a* >out".toList)
      (.pipe (.call " pwd ".toList) (.call " grep x no*".toList))
    let report : Text := "grep: no*: No such file or directory (os error 2)\n".toList
    sh.registry = .standard ∧ sh.errors.refuses = false ∧ '`' ∉ line ∧
    Tree.parse line = .ok t ∧ t.calls = calls ∧ (∀ text ∈ calls, SafeCall text) ∧
    line.Unbroken ∧ sh.files.Unbroken ∧ sh.env.Unbroken ∧
    (sh.eval line .fresh).1 = failure ∧
    (sh.eval line .fresh).2.1.errors = sh.errors.append (Text.encode report) ∧
    report.count newline = 1 := by
  intro files sh line calls t report
  have ht : Tree.parse line = .ok t := by decide
  have hcalls : ∀ text ∈ calls, SafeCall text := by decide +kernel
  have hsafe : ∀ t', Tree.parse line = .ok t' → ∀ text ∈ t'.calls, SafeCall text := by
    intro t' ht'
    obtain rfl := Except.ok.inj (ht.symm.trans ht')
    exact hcalls
  have hline : line.Unbroken := by decide
  have hfiles : sh.files.Unbroken := ⟨by decide, trivial, trivial⟩
  have henv : sh.env.Unbroken := ⟨by decide, nofun⟩
  have hcode : (sh.eval line .fresh).1 = failure := by decide +kernel
  have hresult : (sh.run line none .fresh).result =
      .error (.path "grep".toList (.os "no*".toList .notFound)) := by decide +kernel
  have hmessage : report = (ShellError.path "grep".toList (.os "no*".toList .notFound)).message ++
      [newline] := by decide +kernel
  rcases failure_is_reported_once sh rfl rfl line (by decide) hsafe .fresh with
    ⟨hsuccess, -⟩ | ⟨e, he, -, herrors, -, -, -, hone⟩
  · exact absurd (hcode.symm.trans hsuccess) (by decide)
  · obtain rfl := Except.error.inj (hresult.symm.trans he)
    refine ⟨rfl, rfl, by decide, ht, rfl, hcalls, hline, hfiles, henv, hcode, ?_, ?_⟩
    · rw [hmessage]
      exact herrors
    · rw [hmessage]
      exact (hone hline hfiles henv).2 id

/-- **The report of a regular expression is not one line.** It draws the pattern on lines of its
own. -/
theorem regex_report_has_four_lines :
    let sh : Shell := { env := { workingDir := [Path.slash] }, files := .empty }
    let line : Text := "grep (".toList
    let report : Text := "grep: regex parse error:\n    (\n    ^\nerror: unclosed group\n".toList
    sh.registry = .standard ∧ sh.errors.refuses = false ∧ '`' ∉ line ∧
    (∀ t, Tree.parse line = .ok t → ∀ text ∈ t.calls, SafeCall text) ∧
    (sh.eval line .fresh).1 = failure ∧
    (sh.eval line .fresh).2.1.errors = sh.errors.append (Text.encode report) ∧
    report.count newline = 4 ∧
    ¬ ∃ text : Text, text.count newline = 1 ∧
      (sh.eval line .fresh).2.1.errors = sh.errors.append text.encode := by
  intro sh line report
  have hsafe : ∀ t, Tree.parse line = .ok t → ∀ text ∈ t.calls, SafeCall text := by
    have ht : Tree.parse line = .ok (.call line) := by decide
    intro t' ht'
    obtain rfl := Except.ok.inj (ht.symm.trans ht')
    decide +kernel
  have hcode : (sh.eval line .fresh).1 = failure := by decide +kernel
  have herrors : (sh.eval line .fresh).2.1.errors = sh.errors.append (Text.encode report) := by
    decide +kernel
  have hcount : report.count newline = 4 := by decide +kernel
  refine ⟨rfl, rfl, by decide, hsafe, hcode, herrors, hcount, ?_⟩
  rintro ⟨text, hone, htext⟩
  have hbytes : Text.encode report = text.encode :=
    congrArg Sink.bytes (herrors.symm.trans htext)
  rw [Text.encode_inj.1 hbytes, hone] at hcount
  exact absurd hcount (by decide)

end Shell

end LineShell
