import LineShell.Proofs.Application.Raises
import LineShell.Proofs.Application.Registry
import LineShell.Proofs.Line.Agreement
import LineShell.Proofs.Line.Command
import LineShell.Proofs.Shell.Steps

/-!
# Agreement of evaluations

Two evaluations of one line that differ in how they substitute commands agree wherever the
substitutions agree. The statement is made once, for every property `P` of machines that the
evaluator itself keeps and every set `E` of errors that it stays in: `AgreeOn P E x y` says that
from every machine with `P` the steps `x` and `y` do the same, end in a machine with `P`, and fail,
if at all, with an error of `E`. With `x` for `y` it says that a step keeps an invariant (`Keeps`).

What evaluation may do to a machine is listed in `Stable`, and the errors that it raises in
`Covers`; there is one lemma for each construction, and `AgreeOn.lineWith` puts them together.
The notes of lines and calls are not in `Stable`: that they keep the property is a hypothesis of its
own, so that a property may count calls.
-/

namespace LineShell

/-- A call that has a marker twice fails as a redirection. -/
theorem exists_of_checkMarkers_eq_error {ts : List Token} {e : ShellError}
    (h : checkMarkers ts = .error e) : ∃ m, e = .redirection m := by
  rw [checkMarkers] at h
  split at h
  · exact ⟨_, (Except.error.inj h).symm⟩
  split at h
  · exact ⟨_, (Except.error.inj h).symm⟩
  · cases h

namespace Eval

variable {α β : Type}

/-- From every machine with `P` the steps do the same, keep `P` and fail only with errors of `E`. -/
structure AgreeOn (P : Machine → Prop) (E : ShellError → Prop) (x y : Eval α) : Prop where
  eq : ∀ {m}, P m → runOn x m = runOn y m
  keeps : ∀ {m}, P m → P (runOn x m).2
  fails : ∀ {m e}, P m → (runOn x m).1 = .error e → E e

/-- From every machine with `P` the step keeps `P` and fails only with errors of `E`. -/
abbrev Keeps (P : Machine → Prop) (E : ShellError → Prop) (x : Eval α) : Prop := AgreeOn P E x x

/-- A property that no change of the world or of the error channel breaks, and no note of an
application or of an error of `E`. -/
structure Stable (P : Machine → Prop) (E : ShellError → Prop) : Prop where
  world : ∀ {m} (w : World), P m → P (m.withWorld w)
  errors : ∀ {m} (errors : Sink), P m → P { m with errors }
  application : ∀ {m} (name : Text) (arguments : List Text) (policy : FailurePolicy), P m →
    P (m.noted (.application name arguments policy))
  failure : ∀ {m e}, E e → P m → P (m.noted (.failure e))

theorem Stable.input {P : Machine → Prop} {E : ShellError → Prop} (hP : Stable P E) {m : Machine}
    (input : Option Source) (h : P m) : P (m.withInput input) := hP.world _ h

theorem Stable.output {P : Machine → Prop} {E : ShellError → Prop} (hP : Stable P E) {m : Machine}
    (output : Output) (h : P m) : P (m.withOutput output) := hP.world _ h

/-- The errors that evaluation raises itself, those of unclosed quotes and of the limit apart, and
those of the applications. -/
structure Covers (registry : Registry) (E : ShellError → Prop) : Prop where
  unknownApplication : ∀ name, E (.unknownApplication name)
  redirection : ∀ marker, E (.redirection marker)
  path : ∀ f, E (.path redirectionName f)
  stream : ∀ app f, E (.stream app f)
  application : ∀ app ∈ registry.applications, ∀ arguments, (app.run arguments).Raises E

theorem Covers.of_resolve_eq_error {registry : Registry} {E : ShellError → Prop}
    (hE : Covers registry E) {word : Text} {e : ShellError} (h : registry.resolve word = .error e) :
    E e :=
  Registry.eq_of_resolve_eq_error h ▸ hE.unknownApplication _

theorem covers_true (registry : Registry) : Covers registry fun _ ↦ True :=
  ⟨fun _ ↦ trivial, fun _ ↦ trivial, fun _ ↦ trivial, fun _ _ ↦ trivial,
    fun _ _ _ _ _ _ ↦ trivial⟩

variable {P : Machine → Prop} {E : ShellError → Prop} {x y : Eval α}

/-! ### Constructions -/

namespace AgreeOn

protected theorem pure (a : α) : Keeps P E (pure a) where
  eq _ := rfl
  keeps h := h
  fails _ h := nomatch h

protected theorem throw {e : ShellError} (he : E e) : Keeps P E (throw e : Eval α) where
  eq _ := rfl
  keeps h := h
  fails _ h := Except.error.inj h ▸ he

protected theorem get : Keeps P E get where
  eq _ := rfl
  keeps h := h
  fails _ h := nomatch h

/-- Agreement passes through sequencing. -/
protected theorem bind {f g : α → Eval β} (hx : AgreeOn P E x y)
    (hf : ∀ a, AgreeOn P E (f a) (g a)) : AgreeOn P E (x >>= f) (y >>= g) where
  eq {m} h := by
    have heq := hx.eq h
    have hkeep := hx.keeps h
    rcases hrun : runOn x m with ⟨e | a, m'⟩
    · rw [runOn_bind_of_error hrun, runOn_bind_of_error (heq.symm.trans hrun)]
    · rw [hrun] at hkeep
      rw [runOn_bind_of_ok hrun, runOn_bind_of_ok (heq.symm.trans hrun), (hf a).eq hkeep]
  keeps {m} h := by
    have hkeep := hx.keeps h
    rcases hrun : runOn x m with ⟨e | a, m'⟩ <;> rw [hrun] at hkeep
    · rwa [runOn_bind_of_error hrun]
    · rw [runOn_bind_of_ok hrun]
      exact (hf a).keeps hkeep
  fails {m e} h hr := by
    have hkeep := hx.keeps h
    rcases hrun : runOn x m with ⟨e' | a, m'⟩ <;> rw [hrun] at hkeep
    · rw [runOn_bind_of_error hrun] at hr
      obtain rfl : e' = e := Except.error.inj hr
      exact hx.fails h (congrArg Prod.fst hrun)
    · rw [runOn_bind_of_ok hrun] at hr
      exact (hf a).fails hkeep hr

protected theorem ofResult {result : Except ShellError α} (h : ∀ e, result = .error e → E e) :
    Keeps P E (ofResult result) where
  eq _ := rfl
  keeps h := h
  fails _ hr := h _ hr

/-- A note is kept when the property is. -/
protected theorem note {e : Event} (h : ∀ {m}, P m → P (m.noted e)) : Keeps P E (note e) where
  eq _ := rfl
  keeps hm := h hm
  fails _ hr := nomatch hr

/-- The error that an attempt gives back as a result is an error of `E`. -/
protected theorem attempt_bind {f g : Except ShellError α → Eval β} (h : AgreeOn P E x y)
    (hf : ∀ result, (∀ e, result = .error e → E e) → AgreeOn P E (f result) (g result)) :
    AgreeOn P E (attempt x >>= f) (attempt y >>= g) := by
  -- An attempt succeeds, so the rest always runs, on a result that is ok or an error of `E`.
  have next : ∀ {m}, P m → AgreeOn P E (f (runOn x m).1) (g (runOn x m).1) :=
    fun hm ↦ hf _ fun e he ↦ h.fails hm he
  refine ⟨fun {m} hm ↦ ?_, fun {m} hm ↦ ?_, fun {m e} hm hr ↦ ?_⟩
  · rw [runOn_bind_of_ok (runOn_attempt x m), runOn_bind_of_ok (runOn_attempt y m), ← h.eq hm]
    exact (next hm).eq (h.keeps hm)
  · rw [runOn_bind_of_ok (runOn_attempt x m)]
    exact (next hm).keeps (h.keeps hm)
  · rw [runOn_bind_of_ok (runOn_attempt x m)] at hr
    exact (next hm).fails (h.keeps hm) hr

variable (hP : Stable P E)

include hP

protected theorem ofAct {act : Act α} (hact : act.Raises E) : Keeps P E (ofAct act) where
  eq _ := rfl
  keeps h := hP.world _ h
  fails _ hr := hact _ _ hr

protected theorem fedBy (source : Option Source) (h : AgreeOn P E x y) :
    AgreeOn P E (fedBy source x) (fedBy source y) where
  eq hm := by rw [runOn_fedBy, runOn_fedBy, h.eq (hP.input source hm)]
  keeps hm := hP.input _ (h.keeps (hP.input source hm))
  fails hm hr := h.fails (hP.input source hm) hr

/-- A step that writes elsewhere gives its error back as a result, which is an error of `E`. -/
protected theorem writingTo_bind {x y : Eval Unit} (output : Output) (h : AgreeOn P E x y)
    {f g : Except ShellError Unit × Output → Eval β}
    (hf : ∀ result written, (∀ e, result = .error e → E e) →
      AgreeOn P E (f (result, written)) (g (result, written))) :
    AgreeOn P E (writingTo output x >>= f) (writingTo output y >>= g) := by
  have next : ∀ {m}, P m → AgreeOn P E
      (f ((runOn x (m.withOutput output)).1, (runOn x (m.withOutput output)).2.world.output))
      (g ((runOn x (m.withOutput output)).1, (runOn x (m.withOutput output)).2.world.output)) :=
    fun hm ↦ hf _ _ fun e he ↦ h.fails (hP.output output hm) he
  have back : ∀ {m}, P m → P ((runOn x (m.withOutput output)).2.withOutput m.world.output) :=
    fun hm ↦ hP.output _ (h.keeps (hP.output output hm))
  refine ⟨fun {m} hm ↦ ?_, fun {m} hm ↦ ?_, fun {m e} hm hr ↦ ?_⟩
  · rw [runOn_bind_of_ok (runOn_writingTo _ x m), runOn_bind_of_ok (runOn_writingTo _ y m),
      ← h.eq (hP.output output hm)]
    exact (next hm).eq (back hm)
  · rw [runOn_bind_of_ok (runOn_writingTo _ x m)]
    exact (next hm).keeps (back hm)
  · rw [runOn_bind_of_ok (runOn_writingTo _ x m)] at hr
    exact (next hm).fails (back hm) hr

protected theorem intoBuffer {x y : Eval Unit} (h : AgreeOn P E x y) :
    AgreeOn P E (intoBuffer x) (intoBuffer y) :=
  .writingTo_bind hP _ h fun _ _ he ↦ .bind (.ofResult he) fun _ ↦ .pure _

/-- An error of `E` is reported, or the error channel fails with one. -/
protected theorem report {e : ShellError} (app : Text) (he : E e)
    (hstream : ∀ f, E (.stream app f)) : Keeps P E (report app e) := by
  refine ⟨fun _ ↦ rfl, fun {m} hm ↦ ?_, fun {m e'} _ hr ↦ ?_⟩
  · rw [runOn_report]
    split
    · exact hP.errors _ (hP.failure he hm)
    · exact hP.failure he hm
  · rw [runOn_report] at hr
    split at hr
    · cases hr
    · exact Except.error.inj hr ▸ hstream _

/-! ### Calls -/

variable {registry : Registry} (hE : Covers registry E)

include hE

/-- Dispatching looks at nothing but the words. -/
protected theorem dispatch (words : List Text) : Keeps P E (dispatch registry words) := by
  cases words with
  | nil => exact .pure ()
  | cons command arguments =>
    rw [dispatch]
    cases hres : registry.resolve command with
    | error e =>
      rw [ofResult_error_bind]
      exact .throw (hE.of_resolve_eq_error hres)
    | ok found =>
      obtain ⟨app, policy⟩ := found
      rw [ofResult_ok_bind]
      refine .bind .get fun m ↦ .bind (.note (hP.application _ _ _)) fun _ ↦ ?_
      have hact := hE.application app (Registry.mem_of_resolve_eq_ok hres)
      refine .attempt_bind (.ofAct hP (hact _)) fun result hresult ↦ ?_
      cases result with
      | ok _ => exact .pure ()
      | error e =>
        cases policy with
        | endLine => exact .throw (hresult e rfl)
        | report => exact .report hP _ (hresult e rfl) (hE.stream _)

omit hP in
protected theorem openInput (target : Text) : Keeps P E (openInput target) := by
  refine .bind .get fun m ↦ ?_
  dsimp only
  split
  · exact .pure _
  · exact .throw (hE.path _)

protected theorem openOutput (target : Text) : Keeps P E (openOutput target) := by
  refine ⟨fun _ ↦ rfl, fun {m} hm ↦ ?_, fun {m e} _ hr ↦ ?_⟩
  · rw [runOn_openOutput]
    split
    · exact hP.world _ hm
    · exact hm
  · rw [runOn_openOutput] at hr
    split at hr
    · cases hr
    · exact Except.error.inj hr ▸ hE.path _

/-- Files are opened alike for calls that agree. -/
protected theorem redirected {x y : Eval Unit} (ws : Words) (h : AgreeOn P E x y) :
    AgreeOn P E (redirected ws x) (redirected ws y) := by
  have hin : Keeps P E (ws.inputs.head?.mapM openInput) := by
    cases ws.inputs.head? with
    | none => exact .pure _
    | some target => exact .bind (.openInput hE target) fun _ ↦ .pure _
  have hout : Keeps P E (ws.outputs.head?.mapM openOutput) := by
    cases ws.outputs.head? with
    | none => exact .pure _
    | some target => exact .bind (.openOutput hP hE target) fun _ ↦ .pure _
  refine .bind hin fun input ↦ .bind hout fun output ↦ .bind .get fun m ↦ ?_
  cases output with
  | none =>
    cases input with
    | none => exact h
    | some loc => exact .fedBy hP _ h
  | some loc =>
    refine .writingTo_bind hP _ ?_ fun _ _ he ↦ .ofResult he
    cases input with
    | none => exact h
    | some loc' => exact .fedBy hP _ h

/-- Captured commands agree if the commands do, and report errors of `E`. -/
protected theorem captured {x y : Eval Unit} (h : AgreeOn P E x y) :
    AgreeOn P E (captured x) (captured y) := by
  refine .writingTo_bind hP _ (.fedBy hP none h) fun result written hresult ↦ ?_
  cases result with
  | ok _ => exact .pure _
  | error e => exact .bind (.report hP _ (hresult e rfl) (hE.stream _)) fun _ ↦ .pure _

/-- A command is substituted alike if, one level deeper, it is evaluated alike: entering it leads
from `P` to `Q` and leaving it back. At a limit both are refused, so the limits must be one there.
-/
protected theorem substitute {Q : Machine → Prop} {limit limit' : Nat}
    {line line' : Text → Eval Unit} {c : Text}
    (hlimit : ∀ {m}, P m → limit ≤ m.depth ∨ limit' ≤ m.depth → limit = limit' ∧ E (.depth limit))
    (enter : ∀ {m}, P m → Q (m.entered c)) (leave : ∀ {m}, Q m → P m.left)
    (h : AgreeOn Q E (line c) (line' c)) :
    AgreeOn P E (substitute limit line c) (substitute limit' line' c) := by
  refine .captured hP hE ⟨fun {m} hm ↦ ?_, fun {m} hm ↦ ?_, fun {m e} hm hr ↦ ?_⟩
  -- If one of the limits is reached, they are one limit and both sides refuse.
  · by_cases hany : limit ≤ m.depth ∨ limit' ≤ m.depth
    · obtain ⟨rfl, -⟩ := hlimit hm hany
      rw [runOn_nested, runOn_nested, if_pos (or_self_iff.1 hany), if_pos (or_self_iff.1 hany)]
    · obtain ⟨hlt, hlt'⟩ := not_or.1 hany
      rw [runOn_nested, runOn_nested, if_neg hlt, if_neg hlt', h.eq (enter hm)]
  · rw [runOn_nested]
    split
    · exact hm
    · exact leave (h.keeps (enter hm))
  · rw [runOn_nested] at hr
    split at hr
    · next hle => exact Except.error.inj hr ▸ (hlimit hm (Or.inl hle)).2
    · exact h.fails (enter hm) hr

end AgreeOn

/-! ### Words -/

variable {sub sub' : Text → Eval Text}

/-- The parts of a slot are those of a word, or the text of a marker. -/
theorem parts_of_mem_slotsOf {ts : List Token} {slot : Slot} (h : slot ∈ slotsOf ts) :
    .word slot.parts ∈ ts ∨ ∃ m, .marker m ∈ ts ∧ slot.parts = [.literal [m.char]] := by
  have hbehind : ∀ {ts ts' : List Token}, ts ⊆ ts' →
      (.word slot.parts ∈ ts ∨ ∃ m, .marker m ∈ ts ∧ slot.parts = [.literal [m.char]]) →
      .word slot.parts ∈ ts' ∨ ∃ m, .marker m ∈ ts' ∧ slot.parts = [.literal [m.char]] :=
    fun hsub h ↦ h.imp (@hsub _) fun ⟨m, hm, hparts⟩ ↦ ⟨m, hsub hm, hparts⟩
  fun_induction slotsOf ts with
  | case1 => cases h
  | case2 parts rest ih =>
    rcases List.mem_cons.1 h with rfl | h
    · exact Or.inl List.mem_cons_self
    · exact hbehind (List.subset_cons_self _ _) (ih h)
  | case3 m parts rest ih =>
    rcases List.mem_cons.1 h with rfl | h
    · exact Or.inl (List.mem_cons_of_mem _ List.mem_cons_self)
    · exact hbehind (List.subset_cons_of_subset _ (List.subset_cons_self _ _)) (ih h)
  | case4 m rest _ ih =>
    rcases List.mem_cons.1 h with rfl | h
    · exact Or.inr ⟨m, List.mem_cons_self, rfl⟩
    · exact hbehind (List.subset_cons_self _ _) (ih h)

/-- The commands of a slot are those of a word. -/
theorem exists_word_of_mem_slotsOf {ts : List Token} {slot : Slot} {c : Text}
    (hslot : slot ∈ slotsOf ts) (hc : .command c ∈ slot.parts) :
    ∃ parts, .word parts ∈ ts ∧ .command c ∈ parts := by
  rcases parts_of_mem_slotsOf hslot with hparts | ⟨m, -, hparts⟩
  · exact ⟨slot.parts, hparts, hc⟩
  · rw [hparts, List.mem_singleton] at hc
    cases hc

namespace AgreeOn

/-- A word is put together alike if its commands are substituted alike. -/
protected theorem wordOf {parts : List Part}
    (hsub : ∀ c, .command c ∈ parts → AgreeOn P E (sub c) (sub' c)) :
    AgreeOn P E (wordOf sub parts) (wordOf sub' parts) := by
  induction parts with
  | nil => exact .pure _
  | cons part rest ih =>
    have hrest := ih fun c hc ↦ hsub c (List.mem_cons_of_mem _ hc)
    cases part with
    | literal t => exact .bind hrest fun _ ↦ .pure _
    | command c => exact .bind (hsub c List.mem_cons_self) fun _ ↦ .bind hrest fun _ ↦ .pure _

protected theorem wordsOf {slots : List Slot}
    (hsub : ∀ slot ∈ slots, ∀ c, .command c ∈ slot.parts → AgreeOn P E (sub c) (sub' c)) :
    AgreeOn P E (wordsOf sub slots) (wordsOf sub' slots) := by
  induction slots with
  | nil => exact .pure _
  | cons slot rest ih =>
    refine .bind (.wordOf (hsub slot List.mem_cons_self)) fun _ ↦ ?_
    exact .bind (ih fun s hs ↦ hsub s (List.mem_cons_of_mem _ hs)) fun _ ↦ .pure _

/-! ### Lines -/

variable {registry : Registry} (hP : Stable P E) (hE : Covers registry E)

include hP hE

/-- The tokens of a call are evaluated alike if its commands are substituted alike. -/
protected theorem tokens {ts : List Token}
    (hsub : ∀ parts c, .word parts ∈ ts → .command c ∈ parts → AgreeOn P E (sub c) (sub' c)) :
    AgreeOn P E (tokens registry sub ts) (tokens registry sub' ts) := by
  have hmarkers : ∀ e, checkMarkers ts = .error e → E e := by
    intro e h
    obtain ⟨m, rfl⟩ := exists_of_checkMarkers_eq_error h
    exact hE.redirection m
  refine .bind (.ofResult hmarkers) fun _ ↦ .bind (.wordsOf fun slot hslot c hc ↦ ?_) fun ws ↦
    .redirected hP hE ws (.dispatch hP hE ws.arguments)
  obtain ⟨parts, hparts, hc'⟩ := exists_word_of_mem_slotsOf hslot hc
  exact hsub parts c hparts hc'

variable (hcall : ∀ {m} text ts, P m → P (m.noted (.call text ts)))

include hcall

protected theorem call {text : Text} (hbal : Balanced text)
    (hsub : ∀ c, CommandIn c text → AgreeOn P E (sub c) (sub' c)) :
    AgreeOn P E (call registry sub text) (call registry sub' text) := by
  obtain ⟨ts, hread⟩ := Token.exists_read_eq_ok hbal
  rw [call, call, hread]
  refine .bind (.note (hcall text ts)) fun _ ↦ .tokens hP hE fun parts c hparts hc ↦ ?_
  exact hsub c ⟨ts, parts, hread, hparts, hc⟩

/-- **One induction for every statement about trees.** -/
protected theorem tree {t : Tree} (hbal : ∀ text ∈ t.calls, Balanced text)
    (hsub : ∀ text ∈ t.calls, ∀ c, CommandIn c text → AgreeOn P E (sub c) (sub' c)) :
    AgreeOn P E (tree registry sub t) (tree registry sub' t) := by
  induction t with
  | call text =>
    exact .call hP hE hcall (hbal text (List.mem_singleton.2 rfl))
      (hsub text (List.mem_singleton.2 rfl))
  | seq left right ihl ihr =>
    have hl := ihl (fun text h ↦ hbal text (List.mem_append_left _ h))
      fun text h ↦ hsub text (List.mem_append_left _ h)
    have hr := ihr (fun text h ↦ hbal text (List.mem_append_right _ h))
      fun text h ↦ hsub text (List.mem_append_right _ h)
    exact .bind hl fun _ ↦ hr
  | pipe left right ihl ihr =>
    have hl := ihl (fun text h ↦ hbal text (List.mem_append_left _ h))
      fun text h ↦ hsub text (List.mem_append_left _ h)
    have hr := ihr (fun text h ↦ hbal text (List.mem_append_right _ h))
      fun text h ↦ hsub text (List.mem_append_right _ h)
    exact .bind (.intoBuffer hP hl) fun bytes ↦ .fedBy hP _ hr

/-- **Lines are evaluated alike if their commands are substituted alike.** A line that is refused is
refused by both. -/
theorem lineWith {line : Text} (hline : ∀ {m} t, P m → P (m.noted (.line t)))
    (hopen : ∀ d, Tree.parse line = .error d → E (.unterminated d))
    (hsub : ∀ c, CommandOf c line → AgreeOn P E (sub c) (sub' c)) :
    AgreeOn P E (lineWith registry sub line) (lineWith registry sub' line) := by
  rw [Eval.lineWith, Eval.lineWith]
  cases hparse : Tree.parse line with
  | error d => exact .throw (hopen d hparse)
  | ok t =>
    have hcan : t.Canonical := (Tree.parse_eq_ok_iff_render.1 hparse).1
    refine .bind (.note (hline t)) fun _ ↦ .tree hP hE hcall
      (fun text htext ↦ hcan.balanced_of_mem_calls htext) fun text htext c hc ↦ ?_
    exact hsub c ⟨t, hparse, text, htext, hc⟩

end AgreeOn

end Eval

end LineShell
