import LineShell.Proofs.Line.Markers
import LineShell.Proofs.Shell.Flat

/-!
# Substituted text is inert

What a command in back-quotes prints is put into its word and never looked at again. The shape of a
call is fixed by its text: which words it has, what each word is for, which commands are
substituted. So a call substitutes all its commands first, one after the other, and then goes on
with words into which the answers are spliced (`Eval.tokens_eq`). Two runs of a call, in any two
shells, differ in these answers only (`Shell.substituted_text_is_inert`).

The roles of the words are read off the places of the tokens (`slotAt?`). Evaluation finds them in a
pass that looks one token ahead; the two agree on every list of tokens (`slotsOf_eq_placedSlots`).
-/

namespace LineShell

/-! ### Places of tokens -/

/-- A token that is a word. -/
def Token.IsWord : Token → Prop
  | word _ => True
  | marker _ => False

instance (t : Token) : Decidable t.IsWord := by
  cases t
  · exact isTrue trivial
  · exact isFalse id

/-- The marker right in front of a place. -/
def markerBefore? (ts : List Token) : Nat → Option Marker
  | 0 => none
  | i + 1 =>
    match ts[i]? with
    | some (.marker m) => some m
    | _ => none

/-- The word of a call that the token at a place makes. A word right behind a marker is its target,
any other word an argument. A marker makes a word only if no word is right behind it: itself. -/
def slotAt? (ts : List Token) (i : Nat) : Option Slot :=
  match ts[i]? with
  | none => none
  | some (.word parts) =>
    match markerBefore? ts i with
    | some m => some ⟨.redirection m, parts⟩
    | none => some ⟨.argument, parts⟩
  | some (.marker m) =>
    match ts[i + 1]? with
    | some (.word _) => none
    | _ => some ⟨.argument, [.literal [m.char]]⟩

/-- The words of a call, place by place. -/
def placedSlots (ts : List Token) : List Slot := (List.range ts.length).filterMap (slotAt? ts)

theorem placedSlots_cons (t : Token) (ts : List Token) :
    placedSlots (t :: ts) =
      (slotAt? (t :: ts) 0).toList ++
        (List.range ts.length).filterMap fun i ↦ slotAt? (t :: ts) (i + 1) := by
  rw [placedSlots, List.length_cons, List.range_succ_eq_map, List.filterMap_cons,
    List.filterMap_map]
  cases slotAt? (t :: ts) 0 <;> rfl

/-- A token changes nothing for the places behind it, unless it is a marker in front of a word. -/
theorem slotAt?_cons_succ {t : Token} {ts : List Token}
    (h : t.IsWord ∨ ∀ t' ∈ ts.head?, ¬ t'.IsWord) (i : Nat) :
    slotAt? (t :: ts) (i + 1) = slotAt? ts i := by
  simp only [slotAt?, List.getElem?_cons_succ]
  cases i with
  | succ i => simp [markerBefore?]
  | zero =>
    cases ts with
    | nil => rfl
    | cons t' ts =>
      cases t' with
      | marker m => rfl
      | word parts =>
        have ht : t.IsWord := h.resolve_right fun hnone ↦ hnone _ rfl trivial
        cases t with
        | word _ => rfl
        | marker _ => exact ht.elim

theorem placedSlots_cons_eq {t : Token} {ts : List Token}
    (h : t.IsWord ∨ ∀ t' ∈ ts.head?, ¬ t'.IsWord) :
    placedSlots (t :: ts) = (slotAt? (t :: ts) 0).toList ++ placedSlots ts := by
  rw [placedSlots_cons, funext (slotAt?_cons_succ h)]
  rfl

/-- **Looking one token ahead finds the words place by place.** -/
theorem slotsOf_eq_placedSlots (ts : List Token) : slotsOf ts = placedSlots ts := by
  fun_induction slotsOf ts with
  | case1 => rfl
  | case2 parts rest ih =>
    rw [ih, placedSlots_cons_eq (t := .word parts) (Or.inl trivial)]
    rfl
  | case3 m parts rest ih =>
    -- The marker makes no word, and the word behind it is its target.
    have hword : ∀ i, slotAt? (.marker m :: .word parts :: rest) (i + 2) = slotAt? rest i := by
      intro i
      rw [← slotAt?_cons_succ (t := .word parts) (Or.inl trivial) i]
      simp [slotAt?, markerBefore?]
    rw [ih, placedSlots_cons, List.length_cons, List.range_succ_eq_map, List.filterMap_cons,
      List.filterMap_map]
    simp only [Function.comp_def, hword]
    rfl
  | case4 m rest hrest ih =>
    have hnone : ∀ t ∈ rest.head?, ¬ t.IsWord := by
      rintro (parts | m') ht
      · obtain ⟨tail, rfl⟩ := List.head?_eq_some_iff.1 ht
        exact absurd rfl (hrest parts tail)
      · exact id
    rw [ih, placedSlots_cons_eq (Or.inr hnone)]
    cases rest with
    | nil => rfl
    | cons t rest =>
      cases t with
      | word parts => exact absurd trivial (hnone _ rfl)
      | marker m' => rfl

/-- Of two markers in a row the first is a word, and only the second has a target. -/
example :
    placedSlots [.word [.literal ['a']], .marker .output, .marker .input, .word [.literal ['f']]] =
      [⟨.argument, [.literal ['a']]⟩, ⟨.argument, [.literal ['>']]⟩,
        ⟨.redirection .input, [.literal ['f']]⟩] := by
  decide

/-- A call has no more targets of a marker than markers. -/
theorem count_role_le (ts : List Token) (m : Marker) :
    ((placedSlots ts).map Slot.role).count (.redirection m) ≤ ts.count (.marker m) := by
  rw [← slotsOf_eq_placedSlots]
  fun_induction slotsOf ts with
  | case1 => exact Nat.le_refl 0
  | case2 parts rest ih => simpa using ih
  | case3 m' parts rest ih =>
    simp only [List.map_cons, List.count_cons]
    by_cases h : m' = m <;> simp [h] <;> omega
  | case4 m' rest hrest ih =>
    simp only [List.map_cons, List.count_cons]
    simp
    omega

/-! ### Splicing -/

/-- The command of a part. -/
def Part.command? : Part → Option Text
  | literal _ => none
  | command c => some c

/-- The commands of a word, in order. -/
def commandsOf (parts : List Part) : List Text := parts.filterMap Part.command?

/-- The commands of a token, in order. -/
def Token.commands : Token → List Text
  | word parts => commandsOf parts
  | marker _ => []

/-- A word with its commands replaced by the texts, in order. -/
def splice : List Part → List Text → Text
  | [], _ => []
  | .literal t :: rest, texts => t ++ splice rest texts
  | .command _ :: rest, texts => texts.headD [] ++ splice rest texts.tail

/-- The words of a call with their roles, its commands replaced by the texts, in order. -/
def spliced : List Slot → List Text → List (Role × Text)
  | [], _ => []
  | slot :: rest, texts =>
    (slot.role, splice slot.parts texts) :: spliced rest (texts.drop (commandsOf slot.parts).length)

/-- The words that have a role. -/
def wordsWith (role : Role) (words : List (Role × Text)) : List Text :=
  (words.filter (·.1 = role)).map Prod.snd

/-- Words sorted by their roles. -/
def Words.ofRoles (words : List (Role × Text)) : Words where
  arguments := wordsWith .argument words
  inputs := wordsWith (.redirection .input) words
  outputs := wordsWith (.redirection .output) words

/-- The words that a call has when its commands are replaced by the texts. -/
def splicedWords (ts : List Token) (texts : List Text) : Words :=
  Words.ofRoles (spliced (placedSlots ts) texts)

theorem Words.ofRoles_cons (role : Role) (word : Text) (words : List (Role × Text)) :
    Words.ofRoles ((role, word) :: words) = (Words.ofRoles words).cons role word := by
  rcases role with _ | (_ | _) <;> simp [Words.ofRoles, Words.cons, wordsWith]

theorem length_wordsWith (role : Role) (words : List (Role × Text)) :
    (wordsWith role words).length = (words.map Prod.fst).count role := by
  rw [wordsWith, List.length_map, List.count, List.countP_map, List.countP_eq_length_filter]
  rfl

/-- Words of the same shape: as many arguments, and as many targets. -/
structure Words.SameShape (ws ws' : Words) : Prop where
  arguments : ws.arguments.length = ws'.arguments.length
  inputs : ws.inputs.length = ws'.inputs.length
  outputs : ws.outputs.length = ws'.outputs.length

/-- Whatever is spliced in, the words keep their roles. -/
theorem map_fst_spliced (slots : List Slot) (texts : List Text) :
    (spliced slots texts).map Prod.fst = slots.map Slot.role := by
  induction slots generalizing texts with
  | nil => rfl
  | cons slot rest ih => rw [spliced, List.map_cons, List.map_cons, ih]

/-- Whatever is spliced in, the words of a call have one shape. -/
theorem sameShape_splicedWords (ts : List Token) (texts texts' : List Text) :
    (splicedWords ts texts).SameShape (splicedWords ts texts') := by
  have hlength : ∀ role, (wordsWith role (spliced (placedSlots ts) texts)).length =
      (wordsWith role (spliced (placedSlots ts) texts')).length := by
    intro role
    rw [length_wordsWith, length_wordsWith, map_fst_spliced, map_fst_spliced]
  exact ⟨hlength _, hlength _, hlength _⟩

theorem splice_append {parts : List Part} {texts : List Text}
    (h : texts.length = (commandsOf parts).length) (more : List Text) :
    splice parts (texts ++ more) = splice parts texts := by
  induction parts generalizing texts with
  | nil => rfl
  | cons part rest ih =>
    cases part with
    | literal t => rw [splice, splice, ih h]
    | command c =>
      obtain ⟨text, texts, rfl⟩ := List.exists_cons_of_length_eq_add_one h
      rw [List.cons_append, splice, splice, List.tail_cons, List.tail_cons, List.headD_cons,
        List.headD_cons, ih (Nat.succ.inj h)]

/-- The commands of the words of a call are the commands of its tokens. -/
theorem commandsOf_placedSlots (ts : List Token) :
    (placedSlots ts).flatMap (fun slot ↦ commandsOf slot.parts) = ts.flatMap Token.commands := by
  rw [← slotsOf_eq_placedSlots]
  fun_induction slotsOf ts with
  | case1 => rfl
  | case2 parts rest ih => rw [List.flatMap_cons, List.flatMap_cons, ih]; rfl
  | case3 m parts rest ih =>
    rw [List.flatMap_cons, List.flatMap_cons, List.flatMap_cons, ih]
    rfl
  | case4 m rest hrest ih => rw [List.flatMap_cons, List.flatMap_cons, ih]; rfl

namespace Eval

variable {sub : Text → Eval Text} {m n : Machine} {commands texts : List Text}

/-- There is one text for each command. -/
theorem length_of_runOn_mapM (h : runOn (commands.mapM sub) m = (.ok texts, n)) :
    texts.length = commands.length := by
  induction commands generalizing m n texts with
  | nil =>
    obtain rfl : [] = texts := Except.ok.inj (congrArg Prod.fst h)
    rfl
  | cons c rest ih =>
    rw [List.mapM_cons] at h
    rcases hc : runOn (sub c) m with ⟨e | text, m'⟩
    · rw [runOn_bind_of_error hc] at h
      cases h
    · rw [runOn_bind_of_ok hc] at h
      rcases hrest : runOn (rest.mapM sub) m' with ⟨e | more, m''⟩
      · rw [runOn_bind_of_error hrest] at h
        cases h
      · rw [runOn_bind_of_ok hrest] at h
        obtain rfl : text :: more = texts := Except.ok.inj (congrArg Prod.fst h)
        rw [List.length_cons, List.length_cons, ih hrest]

/-- A word is put together by substituting its commands and splicing in what comes of them. -/
theorem wordOf_eq (sub : Text → Eval Text) (parts : List Part) :
    wordOf sub parts = (do
      let texts ← (commandsOf parts).mapM sub
      return splice parts texts) := by
  induction parts with
  | nil => simp [wordOf, commandsOf, splice]
  | cons part rest ih =>
    cases part with
    | literal t =>
      simp only [wordOf, ih, bind_assoc, pure_bind]
      rfl
    | command c =>
      have hcommands : commandsOf (.command c :: rest) = c :: commandsOf rest := rfl
      simp only [wordOf, ih, hcommands, List.mapM_cons, bind_assoc, pure_bind]
      rfl

/-- **The words of a call are put together by substituting all its commands, in text order.** -/
theorem wordsOf_eq (sub : Text → Eval Text) (slots : List Slot) :
    wordsOf sub slots = (do
      let texts ← (slots.flatMap fun slot ↦ commandsOf slot.parts).mapM sub
      return Words.ofRoles (spliced slots texts)) := by
  induction slots with
  | nil => rfl
  | cons slot rest ih =>
    rw [wordsOf, wordOf_eq, ih, List.flatMap_cons, List.mapM_append]
    simp only [bind_assoc, pure_bind]
    -- The texts of this word are told from those of the others by their number.
    refine ext_runOn fun m ↦ ?_
    rcases hrun : runOn ((commandsOf slot.parts).mapM sub) m with ⟨e | texts, m'⟩
    · rw [runOn_bind_of_error hrun, runOn_bind_of_error hrun]
    · rw [runOn_bind_of_ok hrun, runOn_bind_of_ok hrun]
      have hlength := length_of_runOn_mapM hrun
      have hspliced : ∀ more, Words.ofRoles (spliced (slot :: rest) (texts ++ more)) =
          (Words.ofRoles (spliced rest more)).cons slot.role (splice slot.parts texts) := by
        intro more
        rw [spliced, Words.ofRoles_cons, splice_append hlength, ← hlength, List.drop_left]
      simp only [hspliced]

variable {registry : Registry}

/-- **A call substitutes all its commands and goes on with the spliced words.** -/
theorem tokens_eq {ts : List Token} (h : checkMarkers ts = .ok ()) :
    tokens registry sub ts = (do
      let texts ← (ts.flatMap Token.commands).mapM sub
      let words := splicedWords ts texts
      redirected words (dispatch registry words.arguments)) := by
  rw [tokens, h, ofResult_ok_bind, wordsOf_eq, slotsOf_eq_placedSlots, commandsOf_placedSlots]
  simp only [bind_assoc, pure_bind]
  rfl

end Eval

/-! ### What is read behind the substitutions -/

/-- An event in which no text is read: an application is run, or an error is passed over. -/
def Event.ReadsNothing : Event → Prop
  | application .. | failure _ => True
  | line _ | call .. | substitution _ => False

/-- Since its log was `base`, the machine has read no line, no call and no command. -/
def ReadsNothingSince (base : List Note) (m : Machine) : Prop :=
  ∃ later, m.log = later ++ base ∧ ∀ note ∈ later, note.event.ReadsNothing

theorem ReadsNothingSince.noted {base : List Note} {m : Machine} (h : ReadsNothingSince base m)
    {e : Event} (he : e.ReadsNothing) : ReadsNothingSince base (m.noted e) := by
  obtain ⟨later, hlog, hlater⟩ := h
  refine ⟨⟨m.depth, e⟩ :: later, congrArg (List.cons _) hlog, ?_⟩
  exact List.forall_mem_cons.2 ⟨he, hlater⟩

namespace Eval

theorem stable_readsNothingSince {base : List Note} {E : ShellError → Prop} :
    Stable (ReadsNothingSince base) E where
  world _ h := h
  errors _ h := h
  application _ _ _ h := h.noted trivial
  failure _ h := h.noted trivial

/-- **Once the words are put together, nothing is read any more.** -/
theorem readsNothing_redirected (registry : Registry) (ws : Words) (m : Machine) :
    ReadsNothingSince m.log (runOn (redirected ws (dispatch registry ws.arguments)) m).2 := by
  have hcovers := covers_true registry
  have hkeeps : Keeps (ReadsNothingSince m.log) (fun _ ↦ True)
      (redirected ws (dispatch registry ws.arguments)) :=
    .redirected stable_readsNothingSince hcovers ws
      (.dispatch stable_readsNothingSince hcovers ws.arguments)
  exact hkeeps.keeps ⟨[], rfl, nofun⟩

end Eval

namespace Shell

open Eval

/-- Substituted one after the other, the commands of a call that begins on `m` give these texts and
leave `n`. -/
def Substitutes (sh : Shell) (text : Text) (ts : List Token) (m : Machine) (texts : List Text)
    (n : Machine) : Prop :=
  runOn ((ts.flatMap Token.commands).mapM
      (substitution sh.registry sh.limit (sh.limit - sh.depth)))
    (m.noted (.call text ts)) = (.ok texts, n)

/-- A call that begins on `m` takes the texts that its commands gave as they are, from `n` on. -/
structure Splices (sh : Shell) (text : Text) (ts : List Token) (m : Machine) (texts : List Text)
    (n : Machine) : Prop where
  /-- There is one text for each command. -/
  length_eq : texts.length = (ts.flatMap Token.commands).length
  /-- The call redirects to the spliced targets and dispatches the spliced arguments. -/
  runCall_eq : sh.runCall text m =
    runOn (redirected (splicedWords ts texts)
      (dispatch sh.registry (splicedWords ts texts).arguments)) n
  /-- The words have the roles of their places. -/
  roles_eq : (spliced (placedSlots ts) texts).map Prod.fst = (placedSlots ts).map Slot.role
  /-- No target is left aside. -/
  inputs_le : (splicedWords ts texts).inputs.length ≤ 1
  outputs_le : (splicedWords ts texts).outputs.length ≤ 1
  /-- No text is read any more. -/
  readsNothing : ReadsNothingSince n.log (sh.runCall text m).2

variable {sh sh' : Shell} {text : Text} {ts : List Token} {m m' n n' : Machine}
variable {texts texts' : List Text}

theorem checkMarkers_eq_ok (hread : Token.read text = .ok ts)
    (hin : bareCount '<' text ≤ 1) (hout : bareCount '>' text ≤ 1) : checkMarkers ts = .ok () := by
  have hinput : ts.count (.marker .input) = bareCount '<' text := Token.count_marker hread .input
  have houtput : ts.count (.marker .output) = bareCount '>' text :=
    Token.count_marker hread .output
  rw [checkMarkers, if_neg (by omega), if_neg (by omega)]

/-- A call has at most as many targets of a marker as its text has markers. -/
theorem length_wordsWith_le (hread : Token.read text = .ok ts) (marker : Marker) :
    (wordsWith (.redirection marker) (spliced (placedSlots ts) texts)).length ≤
      bareCount marker.char text := by
  rw [length_wordsWith, map_fst_spliced, ← Token.count_marker hread marker]
  exact count_role_le ts marker

/-- Without markers there are no targets. -/
theorem wordsWith_eq_nil (hread : Token.read text = .ok ts) (marker : Marker)
    (hcount : bareCount marker.char text = 0) :
    wordsWith (.redirection marker) (spliced (placedSlots ts) texts) = [] := by
  have hle : (wordsWith (.redirection marker) (spliced (placedSlots ts) texts)).length ≤
      bareCount marker.char text := length_wordsWith_le hread marker
  rw [hcount] at hle
  exact List.eq_nil_of_length_eq_zero (Nat.le_zero.1 hle)

/-- What the commands of one call give is spliced in. -/
theorem Substitutes.splices (h : sh.Substitutes text ts m texts n)
    (hread : Token.read text = .ok ts) (hin : bareCount '<' text ≤ 1)
    (hout : bareCount '>' text ≤ 1) : sh.Splices text ts m texts n := by
  have hrun : sh.runCall text m =
      runOn (redirected (splicedWords ts texts)
        (dispatch sh.registry (splicedWords ts texts).arguments)) n := by
    rw [runCall, call, hread]
    dsimp only
    rw [runOn_bind_of_ok (runOn_note _ m), tokens_eq (checkMarkers_eq_ok hread hin hout),
      runOn_bind_of_ok h]
  refine ⟨length_of_runOn_mapM h, hrun, map_fst_spliced _ _, ?_, ?_, ?_⟩
  · exact (length_wordsWith_le hread .input).trans hin
  · exact (length_wordsWith_le hread .output).trans hout
  · rw [hrun]
    exact readsNothing_redirected _ _ n

/-- **Substituted text is inert.** Take a call with at most one `<` and at most one `>` outside
quotes, and any two shells and machines in which its commands can be substituted. What the commands
give may differ; the words that are dispatched and the targets have one shape, which the places of
the tokens fix, each word holds what was given as it is, and the call reads nothing of it. -/
theorem substituted_text_is_inert (text : Text) (ts : List Token) (hread : Token.read text = .ok ts)
    (hin : bareCount '<' text ≤ 1) (hout : bareCount '>' text ≤ 1) (sh sh' : Shell)
    (m m' n n' : Machine) (texts texts' : List Text) (h : sh.Substitutes text ts m texts n)
    (h' : sh'.Substitutes text ts m' texts' n') :
    sh.Splices text ts m texts n ∧ sh'.Splices text ts m' texts' n' ∧
    (splicedWords ts texts).SameShape (splicedWords ts texts') :=
  ⟨h.splices hread hin hout, h'.splices hread hin hout, sameShape_splicedWords ts texts texts'⟩

/-- A working directory whose name is full of blanks, quotes and markers: it stays in its word, and
the marker that is left without a target is a word. -/
theorem substituted_text_is_inert_awkward :
    let text := "echo a`pwd`b >c <".toList
    let ts : List Token := [.word [.literal "echo".toList],
      .word [.literal "a".toList, .command "pwd".toList, .literal "b".toList],
      .marker .output, .word [.literal "c".toList], .marker .input]
    let awkward := "/x; 'y' `z` <|> \"".toList
    let sh : Shell := { env := { workingDir := [Path.slash] }, files := .empty }
    let sh' : Shell := { env := { workingDir := Path.ofText awkward }, files := .empty }
    let texts := ["/".toList]
    let m := sh.machine none .fresh
    let m' := sh'.machine none .fresh
    Token.read text = .ok ts ∧ bareCount '<' text ≤ 1 ∧ bareCount '>' text ≤ 1 ∧
    splicedWords ts [awkward] =
      ⟨["echo".toList, "a".toList ++ awkward ++ "b".toList, "<".toList], [], ["c".toList]⟩ ∧
    (∃ n, sh.Substitutes text ts m texts n ∧ sh.Splices text ts m texts n) ∧
    (∃ n', sh'.Substitutes text ts m' [awkward] n' ∧ sh'.Splices text ts m' [awkward] n') ∧
    (splicedWords ts texts).SameShape (splicedWords ts [awkward]) := by
  intro text ts awkward sh sh' texts m m'
  have hread : Token.read text = .ok ts := by decide
  have hin : bareCount '<' text ≤ 1 := by decide
  have hout : bareCount '>' text ≤ 1 := by decide
  have hsub : sh.Substitutes text ts m texts _ := Prod.ext (by decide +kernel) rfl
  have hsub' : sh'.Substitutes text ts m' [awkward] _ := Prod.ext (by decide +kernel) rfl
  obtain ⟨h, h', hshape⟩ :=
    substituted_text_is_inert text ts hread hin hout sh sh' m m' _ _ texts [awkward] hsub hsub'
  exact ⟨hread, hin, hout, by decide, ⟨_, hsub, h⟩, ⟨_, hsub', h'⟩, hshape⟩

end Shell

end LineShell
