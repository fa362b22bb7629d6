import LineShell.Proofs.Regex.EnclosedGroups
import Mathlib.Data.List.TakeDrop

/-!
# A pattern in a group: the whole pattern

The loop that reads a pattern takes one turn for each character that means something, and what is
open around the second reader is what is open around the first one and around that the group
(`Nested`). A turn leaves both readers side by side (`outcome_turn`), with one exception: a
parenthesis that closes nothing for the first reader closes the group for the second one, and what
it does then is not followed. It is why nothing is said of the second reading where the first one
fails so (`Outcome.unopened`).

At the end of the pattern the second reader closes the group, reads the boundary and is done
(`patternLoop_of_around`). If the first reader has a group open there so has the second one, and the
parenthesis closes only one of the two. If a comment is open there the second reader misses the
parenthesis (`Outcome.comment`).
-/

namespace LineShell.Regex.Read

variable {P : Text} {r r' : Reader}

/-! ### Pieces of pattern -/

theorem alike_primitive (h : Enclosed P r r') (hne : r.rest ≠ []) {n : Nat}
    (hn : r.rest.length ≤ n + 1) (c : Char) :
    Alike (Beside P SamePattern n) Missed (primitive c r) (primitive c r') := by
  have hpass := h.pass hne
  have hlt := Reader.length_pass_lt hne
  have hlength : r.pass.rest.length ≤ n := by omega
  rw [primitive]
  by_cases hback : c = '\\'
  · rw [if_pos hback]
    exact alike_escape h hne hn
  · simp only [hback, if_false, charSpan_bind, bump_bind]
    split
    · exact .ok ⟨rfl, hpass, hlength⟩
    · split
      · exact .ok ⟨rfl, hpass, hlength⟩
      · split
        · exact .ok ⟨rfl, hpass, hlength⟩
        · exact .ok ⟨rfl, hpass, hlength⟩

/-! ### What is open -/

/-- The group that the pattern stands in. -/
def around (span₀ span : Span) (start : Span) : OpenGroup :=
  .group ⟨span₀, [.assertion start (.word .boundary)]⟩ span (.capture 1) false

/-- What is open around the second reader is what is open around the first one, and around that the
group that the pattern stands in. The mark tells that an alternation is open inside. -/
inductive Nested (P : Text) : Bool → List OpenGroup → List OpenGroup → Prop where
  | bottom (span₀ span start : Span) : Nested P false [] [around span₀ span start]
  | group {mark : Bool} {stack stack' : List OpenGroup} {outer outer' : Sequence}
      (span span' : Span) (kind : GroupKind) (loose : Bool) (hflag : loose = true → 'x' ∈ P)
      (houter : SameSequence outer outer') (h : Nested P mark stack stack') :
    Nested P false (.group outer span kind loose :: stack)
      (.group outer' span' (kind.renumber 1) loose :: stack')
  | alternation {stack stack' : List OpenGroup} (start start' : Position)
      {branches branches' : List Pattern}
      (hbranches : branches'.map (Pattern.bare 0) = branches.map (Pattern.bare 1))
      (h : Nested P false stack stack') :
    Nested P true (.alternation start branches :: stack) (.alternation start' branches' :: stack')

theorem SameSequence.toPattern {s s' : Sequence} (h : SameSequence s s') :
    SamePattern s.toPattern s'.toPattern := by
  obtain ⟨span, parts⟩ := s
  obtain ⟨span', parts'⟩ := s'
  have hlength : parts'.length = parts.length := by
    simpa using congrArg List.length (show List.map _ parts' = List.map _ parts from h)
  match parts, parts' with
  | [], [] => rfl
  | [p], [p'] => exact (List.cons.inj h).1
  | p :: q :: parts, p' :: q' :: parts' =>
    show Pattern.bare 0 (.concat span' (p' :: q' :: parts').reverse) =
      Pattern.bare 1 (.concat span (p :: q :: parts).reverse)
    rw [Pattern.bare, Pattern.bare, Pattern.bareEach_eq_map, Pattern.bareEach_eq_map,
      List.map_reverse, List.map_reverse, h]

theorem SameSequence.endAt {s s' : Sequence} (h : SameSequence s s') (stop stop' : Position) :
    SameSequence (s.endAt stop) (s'.endAt stop') := h

theorem SameSequence.cons {s s' : Sequence} (h : SameSequence s s') {p p' : Pattern}
    (hp : SamePattern p p') :
    SameSequence { s with parts := p :: s.parts } { s' with parts := p' :: s'.parts } := by
  show List.map _ (p' :: s'.parts) = List.map _ (p :: s.parts)
  rw [List.map_cons, List.map_cons, h, hp]

/-- An open alternation is closed for both readers. -/
theorem Nested.close {mark : Bool} {stack stack' : List OpenGroup} (h : Nested P mark stack stack')
    {p p' : Pattern} (hp : SamePattern p p') (stop stop' : Position) :
    Nested P false (closeAlternation stop stack p).1 (closeAlternation stop' stack' p').1 ∧
      SamePattern (closeAlternation stop stack p).2 (closeAlternation stop' stack' p').2 := by
  cases h with
  | bottom span₀ span start => exact ⟨.bottom span₀ span start, hp⟩
  | group span span' kind loose hflag houter h =>
    exact ⟨.group span span' kind loose hflag houter h, hp⟩
  | @alternation stack stack' start start' branches branches' hbranches h =>
    refine ⟨h, ?_⟩
    show Pattern.bare 0 (.alternation _ (p' :: branches').reverse) =
      Pattern.bare 1 (.alternation _ (p :: branches).reverse)
    rw [Pattern.bare, Pattern.bare, Pattern.bareEach_eq_map, Pattern.bareEach_eq_map,
      List.map_reverse, List.map_reverse, List.map_cons, List.map_cons, hp, hbranches]

/-- What is left when the open alternation is closed behind the sequence that is read. -/
theorem Nested.closing {mark : Bool} {stack stack' : List OpenGroup}
    (h : Nested P mark stack stack') {s s' : Sequence} (hs : SameSequence s s')
    (stop stop' : Position) : ∃ inner p inner' p',
      closeAlternation stop stack (s.endAt stop).toPattern = (inner, p) ∧
      closeAlternation stop' stack' (s'.endAt stop').toPattern = (inner', p') ∧
      Nested P false inner inner' ∧ SamePattern p p' :=
  ⟨_, _, _, _, rfl, rfl, h.close (hs.endAt stop stop').toPattern stop stop'⟩

/-! ### What the readings come to -/

/-- The pattern that is read from a pattern in a group between word boundaries. -/
def Wrapped (p p' : Pattern) : Prop :=
  p'.bare 0 = .concat .nowhere [.assertion .nowhere (.word .boundary),
    .group .nowhere (.capture 1) (p.bare 1), .assertion .nowhere (.word .boundary)]

/-- What the two readings of a whole pattern come to. The second one fails where the first one does,
unless a parenthesis closes nothing; and where the first one does not, it only does where a comment
is open at the end. -/
inductive Outcome (P : Text) :
    Except Fault (Pattern × Reader) → Except Fault (Pattern × Reader) → Prop where
  | read {p p' : Pattern} (s s' : Reader) (h : Wrapped p p') :
    Outcome P (.ok (p, s)) (.ok (p', s'))
  | comment (z : Pattern × Reader) {f : Fault} (h : EndsInComment P)
      (hf : f.kind = .groupUnclosed) :
    Outcome P (.ok z) (.error f)
  | refused (f f' : Fault) : Outcome P (.error f) (.error f')
  | unopened {f : Fault} (hf : f.kind = .groupUnopened) (y : Except Fault (Pattern × Reader)) :
    Outcome P (.error f) y

theorem Outcome.of_vain {y : Except Fault (Pattern × Reader)} (h : Vain Prompt y) (f : Fault) :
    Outcome P (.error f) y := by
  cases y with
  | error f' => exact .refused f f'
  | ok z => exact (h z rfl).elim

theorem Outcome.bind {α β : Type} {R : α → β → Prop} {late : β → Prop} {x : Except Fault α}
    {y : Except Fault β} {g : α → Except Fault (Pattern × Reader)}
    {g' : β → Except Fault (Pattern × Reader)} (hxy : Alike R late x y)
    (hok : ∀ a b, R a b → Outcome P (g a) (g' b)) (hlate : ∀ b, late b → Vain Prompt (g' b)) :
    Outcome P (x >>= g) (y >>= g') := by
  cases hxy with
  | ok hab => exact hok _ _ hab
  | error f f' => exact .refused f f'
  | late f hb => exact .of_vain (hlate _ hb) f

/-! ### Turns of the reading -/

theorem setLoose_bind {β : Type} (loose : Bool) (next : Unit → Read β) :
    (setLoose loose >>= next) r = next () { r with loose } := rfl

/-- At the end of the text everything has to be closed. -/
theorem patternLoop_of_end (h : r.skip.rest = []) (fuel : Nat) (stack : List OpenGroup)
    (s : Sequence) : patternLoop (fuel + 1) stack s r =
      match closeAlternation r.skip.pos stack (s.endAt r.skip.pos).toPattern with
      | ([], p) => .ok (p, r.skip)
      | (.group _ span _ _ :: _, _) => .error ⟨.groupUnclosed, span, none⟩
      | (.alternation _ _ :: _, p) => .ok (p, r.skip) := by
  rw [patternLoop, skipBlanks_bind, peek_bind, h, List.head?_nil]
  dsimp only
  rw [pos_bind]
  generalize closeAlternation r.skip.pos stack (s.endAt r.skip.pos).toPattern = closed
  split <;> rfl

/-- A parenthesis closes the innermost group. -/
theorem patternLoop_of_close (h : r.skip.rest.head? = some ')') (fuel : Nat)
    (stack : List OpenGroup) (s : Sequence) : patternLoop (fuel + 1) stack s r =
      match closeAlternation r.skip.pos stack (s.endAt r.skip.pos).toPattern with
      | (.group outer span kind loose :: stack, body) =>
        patternLoop fuel stack
          { outer with parts := .group ⟨span.start, r.skip.pass.pos⟩ kind body :: outer.parts }
          { r.skip.pass with loose }
      | _ => .error ⟨.groupUnopened, ⟨r.skip.pos, r.skip.pass.pos⟩, none⟩ := by
  rw [patternLoop, skipBlanks_bind, peek_bind, h]
  simp only [pos_bind]
  generalize closeAlternation r.skip.pos stack (s.endAt r.skip.pos).toPattern = closed
  have hpass {r : Reader} (loose : Bool) :
      ({ r with loose } : Reader).pass = { r.pass with loose } := by
    obtain ⟨rest, pos, _, groups, names⟩ := r
    cases rest <;> rfl
  obtain ⟨stack, body⟩ := closed
  rcases stack with - | ⟨⟨outer, span, kind, loose⟩ | ⟨start, branches⟩, stack⟩
  · exact faultAtChar_run _ _
  · dsimp only
    rw [setLoose_bind, bump_bind, pos_bind, hpass]
  · exact faultAtChar_run _ _

/-- The characters with a meaning of their own outside of brackets. -/
def IsSign (c : Char) : Prop :=
  c = '(' ∨ c = ')' ∨ c = '|' ∨ c = '[' ∨ c = '?' ∨ c = '*' ∨ c = '+' ∨ c = '\x7b'

/-- A character without a meaning of its own, or an escape. -/
theorem patternLoop_of_piece {c : Char} (h : r.skip.rest.head? = some c) (hc : ¬IsSign c)
    (fuel : Nat) (stack : List OpenGroup) (s : Sequence) :
    patternLoop (fuel + 1) stack s r = primitive c r.skip >>= fun z ↦
      patternLoop fuel stack { s with parts := z.1 :: s.parts } z.2 := by
  simp only [IsSign, not_or] at hc
  obtain ⟨hopen, hclose, hbranch, hclass, hmark, hstar, hplus, hbrace⟩ := hc
  rw [patternLoop, skipBlanks_bind, peek_bind, h]
  simp only
  rfl

/-- Whether blanks mean nothing in a group, given whether they do around it. -/
def looseIn (outside : Bool) : GroupKind → Bool
  | .flags items => (flagState items .ignoreBlanks).getD outside
  | .capture _ => outside

/-- The reading goes on behind what a parenthesis begins. -/
def enter (fuel : Nat) (stack : List OpenGroup) (s : Sequence) (r : Reader) :
    Opening → Except Fault (Pattern × Reader)
  | .setting span items => patternLoop fuel stack { s with parts := .flags span items :: s.parts }
    { r with loose := looseIn r.loose (.flags items) }
  | .group span kind => patternLoop fuel (.group s span kind r.loose :: stack)
    ⟨⟨r.pos, r.pos⟩, []⟩ { r with loose := looseIn r.loose kind }

theorem patternLoop_of_open (h : r.skip.rest.head? = some '(') (fuel : Nat)
    (stack : List OpenGroup) (s : Sequence) : patternLoop (fuel + 1) stack s r =
      opening r.skip >>= fun z ↦ enter fuel stack s z.2 z.1 := by
  rw [patternLoop, skipBlanks_bind, peek_bind, h]
  show opening r.skip >>= _ = _
  refine congrArg (opening r.skip >>= ·) (funext fun z ↦ ?_)
  obtain ⟨o, r⟩ := z
  cases o with
  | setting span items =>
    dsimp only [enter, looseIn]
    cases flagState items .ignoreBlanks <;> rfl
  | group span kind => cases kind <;> rfl

/-- Where a list of flags names a flag it holds it. -/
theorem mem_of_flagState {items : List FlagItem} {f : Flag} {on : Bool}
    (h : flagState items f = some on) : .flag f ∈ items := by
  rw [flagState, List.span_eq_takeWhile_dropWhile] at h
  cases hrest : items.dropWhile (· != .flag f) with
  | nil =>
    rw [hrest] at h
    cases h
  | cons item rest =>
    have hitem : item = .flag f := by
      have hne : items.dropWhile (· != .flag f) ≠ [] := by
        rw [hrest]
        nofun
      simpa [hrest] using List.head_dropWhile_not (· != FlagItem.flag f) hne
    have hmem : item ∈ items.dropWhile (· != .flag f) := by
      rw [hrest]
      exact List.mem_cons_self
    exact hitem ▸ (List.dropWhile_suffix _).subset hmem

theorem flag_of_looseIn {outside : Bool} (hout : outside = true → 'x' ∈ P)
    {items items' : List FlagItem} (h : SameFlags P items items')
    (hloose : looseIn outside (.flags items) = true) : 'x' ∈ P := by
  rw [looseIn] at hloose
  cases hstate : flagState items .ignoreBlanks with
  | none =>
    rw [hstate] at hloose
    exact hout hloose
  | some on => exact h.2 (mem_of_flagState hstate)

/-- What is open behind a bar: the alternation with one more branch. -/
def branchOn (start : Position) (branch : Pattern) (stack : List OpenGroup) : List OpenGroup :=
  match stack with
  | .alternation start branches :: outer => .alternation start (branch :: branches) :: outer
  | _ => .alternation start [branch] :: stack

theorem patternLoop_of_branch (h : r.skip.rest.head? = some '|') (fuel : Nat)
    (stack : List OpenGroup) (s : Sequence) : patternLoop (fuel + 1) stack s r =
      patternLoop fuel (branchOn s.span.start (s.endAt r.skip.pos).toPattern stack)
        ⟨⟨r.skip.pass.pos, r.skip.pass.pos⟩, []⟩ r.skip.pass := by
  rw [patternLoop, skipBlanks_bind, peek_bind, h]
  simp only [pos_bind, bump_bind]
  rfl

theorem patternLoop_of_bracket (h : r.skip.rest.head? = some '[') (fuel : Nat)
    (stack : List OpenGroup) (s : Sequence) : patternLoop (fuel + 1) stack s r =
      bracket r.skip >>= fun z ↦
        patternLoop fuel stack { s with parts := z.1 :: s.parts } z.2 := by
  rw [patternLoop, skipBlanks_bind, peek_bind, h]
  rfl

/-- The signs of a repetition, each with the least and the greatest number of times. -/
inductive RepeatsFrom : Char → Nat → Option Nat → Prop where
  | mark : RepeatsFrom '?' 0 (some 1)
  | star : RepeatsFrom '*' 0 none
  | plus : RepeatsFrom '+' 1 none

theorem patternLoop_of_sign {c : Char} {least : Nat} {most : Option Nat}
    (hc : RepeatsFrom c least most) (h : r.skip.rest.head? = some c) (fuel : Nat)
    (stack : List OpenGroup) (s : Sequence) : patternLoop (fuel + 1) stack s r =
      signRepetition s least most r.skip >>= fun z ↦ patternLoop fuel stack z.1 z.2 := by
  rw [patternLoop, skipBlanks_bind, peek_bind, h]
  cases hc <;> rfl

theorem Nested.branch {mark : Bool} {stack stack' : List OpenGroup}
    (h : Nested P mark stack stack') {p p' : Pattern} (hp : SamePattern p p')
    (start start' : Position) :
    Nested P true (branchOn start p stack) (branchOn start' p' stack') := by
  cases h with
  | bottom span₀ span edge =>
    exact .alternation start start' (by rw [List.map_singleton, List.map_singleton, hp])
      (.bottom span₀ span edge)
  | group span span' kind loose hflag houter h =>
    exact .alternation start start' (by rw [List.map_singleton, List.map_singleton, hp])
      (.group span span' kind loose hflag houter h)
  | alternation start start' hbranches h =>
    exact .alternation start start' (by rw [List.map_cons, List.map_cons, hp, hbranches]) h

/-! ### Behind the parenthesis -/

/-- A group is the innermost thing that is open, but for an alternation. -/
def Grouped : List OpenGroup → Prop
  | .group _ _ _ _ :: _ => True
  | .alternation _ _ :: .group _ _ _ _ :: _ => True
  | _ => False

theorem Nested.grouped {mark : Bool} {stack stack' : List OpenGroup}
    (h : Nested P mark stack stack') : Grouped stack' := by
  cases h with
  | bottom => trivial
  | group => trivial
  | alternation start start' hbranches h => cases h <;> trivial

/-- The group is not closed at the end of the text. -/
theorem patternLoop_of_grouped {stack : List OpenGroup} (hstack : Grouped stack)
    (h : r.skip.rest = []) (fuel : Nat) (s : Sequence) :
    ∃ f, patternLoop (fuel + 1) stack s r = .error f ∧ f.kind = .groupUnclosed := by
  rw [patternLoop_of_end h]
  match stack, hstack with
  | .group _ _ _ _ :: _, _ => exact ⟨_, rfl, rfl⟩
  | .alternation _ _ :: .group _ _ _ _ :: _, _ => exact ⟨_, rfl, rfl⟩

/-- What is behind the parenthesis is one piece of pattern, or half of it. -/
theorem vain_primitive {c : Char} (h : r.rest.head? = some c) (hgone : Gone r) :
    ¬IsSign c ∧ Vain (fun z : Pattern × Reader ↦ z.2.rest = []) (primitive c r) := by
  obtain ⟨rest, pos, loose, groups, names⟩ := r
  obtain hrest | hrest | hrest : rest = ['\\', 'b'] ∨ rest = ['b'] ∨ rest = [] := by
    simpa [Gone, behind, List.suffix_cons_iff] using hgone
  · subst hrest
    cases h
    exact ⟨by simp [IsSign], .ok rfl⟩
  · subst hrest
    cases h
    exact ⟨by simp [IsSign], .ok rfl⟩
  · subst hrest
    cases h

/-- No group is closed behind the parenthesis. -/
theorem vain_patternLoop {stack : List OpenGroup} (hstack : Grouped stack) (hgone : Gone r.skip)
    (fuel : Nat) (s : Sequence) : Vain Prompt (patternLoop (fuel + 2) stack s r) := by
  have hend {r : Reader} (h : r.skip.rest = []) (fuel : Nat) (s : Sequence) :
      Vain Prompt (patternLoop (fuel + 1) stack s r) := by
    obtain ⟨f, hf, -⟩ := patternLoop_of_grouped hstack h fuel s
    rw [hf]
    exact .error f
  cases hrest : r.skip.rest with
  | nil => exact hend hrest (fuel + 1) s
  | cons c u =>
    have hhead : r.skip.rest.head? = some c := by
      rw [hrest]
      rfl
    obtain ⟨hsign, hpiece⟩ := vain_primitive hhead hgone
    rw [patternLoop_of_piece hhead hsign]
    refine hpiece.bind ?_
    rintro ⟨p, r⟩ (hr : r.rest = [])
    exact hend (by rw [Reader.skip_of_rest_eq_nil hr, hr]) fuel _

/-- The count that a brace opens has no number in front of the parenthesis. -/
theorem vain_countRepetition (h : r.passOver.rest = behind) (s : Sequence) :
    Vain Prompt (countRepetition s r) := by
  have hrepeated : Vain (fun z ↦ z.2 = r) (repeated s r) := by
    rw [repeated_run]
    cases s.parts with
    | nil => exact .error _
    | cons part parts =>
      dsimp only
      split
      · exact .error _
      · exact .ok rfl
  rw [countRepetition_run]
  refine hrepeated.bind ?_
  rintro ⟨⟨p, s⟩, _⟩ rfl
  dsimp only at h ⊢
  rw [if_neg (by rw [h]; decide)]
  exact (vain_counts h _).bind fun _ ↦ False.elim

theorem patternLoop_of_brace (h : r.skip.rest.head? = some '\x7b') (fuel : Nat)
    (stack : List OpenGroup) (s : Sequence) : patternLoop (fuel + 1) stack s r =
      countRepetition s r.skip >>= fun z ↦ patternLoop fuel stack z.1 z.2 := by
  rw [patternLoop, skipBlanks_bind, peek_bind, h]
  simp only
  rfl

theorem vain_patternLoop_of_missed {stack : List OpenGroup} (hstack : Grouped stack)
    {p : Pattern} (h : Missed (p, r)) (fuel : Nat) (s : Sequence) :
    Vain Prompt (patternLoop (fuel + 2) stack s r) := by
  rcases h with hgone | ⟨-, hhead, hbehind⟩
  · exact vain_patternLoop hstack ((Reader.rest_skip_suffix r).trans hgone) fuel s
  · have hskip : r.skip = r := Reader.skip_of_head hhead (by decide +kernel) (by decide)
    rw [patternLoop_of_brace (by rw [hskip, hhead]), hskip]
    exact (vain_countRepetition hbehind s).bind fun _ ↦ False.elim

/-! ### The whole pattern -/

/-- Blanks may mean nothing for both readers if the pattern says so. -/
theorem enclosed_setLoose (h : Enclosed P r r') {loose : Bool} (hflag : loose = true → 'x' ∈ P) :
    Enclosed P { r with loose } { r' with loose } :=
  ⟨h.suffix, h.rest, rfl, hflag, h.groups, h.names⟩

/-- What is behind the parenthesis is a boundary, and with it the pattern ends. -/
theorem patternLoop_of_boundary (h : r.rest = behind.tail) (fuel : Nat) (s : Sequence) :
    ∃ span stop r', patternLoop (fuel + 2) [] s r =
      .ok ((Sequence.endAt { s with parts := .assertion span (.word .boundary) :: s.parts }
        stop).toPattern, r') := by
  have hhead : r.rest.head? = some '\\' := by
    rw [h]
    rfl
  have hskip : r.skip = r := Reader.skip_of_head hhead isBlankChar_backslash (by decide)
  obtain ⟨span, r', hpiece, hrest⟩ : ∃ span r',
      primitive '\\' r = .ok (.assertion span (.word .boundary), r') ∧ r'.rest = [] := by
    obtain ⟨rest, pos, loose, groups, names⟩ := r
    obtain rfl : rest = ['\\', 'b'] := h
    exact ⟨_, _, rfl, rfl⟩
  have hend : r'.skip.rest = [] := by rw [Reader.skip_of_rest_eq_nil hrest, hrest]
  refine ⟨span, r'.skip.pos, r'.skip, ?_⟩
  rw [patternLoop_of_piece (by rw [hskip, hhead]) (by simp [IsSign]), hskip, hpiece]
  exact patternLoop_of_end hend fuel [] _

/-- The group around is closed by the parenthesis, and the pattern ends with a boundary. -/
theorem patternLoop_of_around {span₀ span start : Span} {fuel : Nat} (h : r.skip.rest = behind)
    {stack : List OpenGroup} {s : Sequence} {p q : Pattern}
    (hclosed : closeAlternation r.skip.pos stack (s.endAt r.skip.pos).toPattern =
      ([around span₀ span start], q)) (hp : SamePattern p q) :
    ∃ p' r', patternLoop (fuel + 3) stack s r = .ok (p', r') ∧ Wrapped p p' := by
  have hrest : ({ r.skip.pass with loose := false } : Reader).rest = behind.tail := by
    rw [Reader.rest_pass, h]
  rw [patternLoop_of_close (by rw [h]; rfl), hclosed]
  obtain ⟨edge, stop, r', hrun⟩ := patternLoop_of_boundary hrest fuel
    ⟨span₀, [.group ⟨span.start, r.skip.pass.pos⟩ (.capture 1) q,
      .assertion start (.word .boundary)]⟩
  refine ⟨_, r', hrun, ?_⟩
  show Pattern.concat .nowhere [_, Pattern.group .nowhere (.capture 1) (q.bare 0), _] = _
  rw [hp]
  rfl

/-! ### Turns of both readings -/

/-- The two readings come to one of the outcomes, from wherever the readers stand side by side with
at most `n` characters in front of the first one. -/
def Concludes (P : Text) (n fuel fuel' : Nat) : Prop :=
  ∀ ⦃t t' : Reader⦄, Enclosed P t t' → t.rest.length ≤ n →
    ∀ ⦃mark : Bool⦄ ⦃stack stack' : List OpenGroup⦄, Nested P mark stack stack' →
      ∀ ⦃s s' : Sequence⦄, SameSequence s s' →
        Outcome P (patternLoop fuel stack s t) (patternLoop fuel' stack' s' t')

section Turns

variable {mark : Bool} {n fuel fuel' : Nat} {stack stack' : List OpenGroup} {s s' : Sequence}

theorem Concludes.bind_part (hnext : Concludes P n fuel fuel') (hstack : Nested P mark stack stack')
    (hs : SameSequence s s') {late : Pattern × Reader → Prop}
    {x y : Except Fault (Pattern × Reader)} (hxy : Alike (Beside P SamePattern n) late x y)
    (hlate : ∀ z, late z →
      Vain Prompt (patternLoop fuel' stack' { s' with parts := z.1 :: s'.parts } z.2)) :
    Outcome P (x >>= fun z ↦ patternLoop fuel stack { s with parts := z.1 :: s.parts } z.2)
      (y >>= fun z ↦ patternLoop fuel' stack' { s' with parts := z.1 :: s'.parts } z.2) := by
  refine .bind hxy ?_ hlate
  rintro ⟨q, t⟩ ⟨q', t'⟩ ⟨hq, ht, hlength⟩
  exact hnext ht hlength hstack (hs.cons hq)

theorem Concludes.bind_sequence (hnext : Concludes P n fuel fuel')
    (hstack : Nested P mark stack stack') {x y : Except Fault (Sequence × Reader)}
    (hxy : Alike (Beside P SameSequence n) Prompt x y) :
    Outcome P (x >>= fun z ↦ patternLoop fuel stack z.1 z.2)
      (y >>= fun z ↦ patternLoop fuel' stack' z.1 z.2) := by
  refine .bind hxy ?_ fun _ ↦ False.elim
  rintro ⟨u, t⟩ ⟨u', t'⟩ ⟨hu, ht, hlength⟩
  exact hnext ht hlength hstack hu

/-- Behind what a parenthesis begins both readings go on. -/
theorem Concludes.enter (hnext : Concludes P n fuel fuel') (hstack : Nested P mark stack stack')
    (hs : SameSequence s s') (h : Enclosed P r r') (hlength : r.rest.length ≤ n) {o o' : Opening}
    (ho : SameStart P o o') : Outcome P (enter fuel stack s r o) (enter fuel' stack' s' r' o') := by
  cases ho with
  | @setting items items' span span' hflags =>
    obtain rfl := hflags.1
    rw [Read.enter, Read.enter, h.loose]
    exact hnext (enclosed_setLoose h (flag_of_looseIn h.flag hflags)) hlength hstack (hs.cons rfl)
  | @flags items items' span span' hflags =>
    obtain rfl := hflags.1
    rw [Read.enter, Read.enter, h.loose]
    exact hnext (enclosed_setLoose h (flag_of_looseIn h.flag hflags)) hlength
      (.group span span' (.flags items') r.loose h.flag hs hstack) rfl
  | @capture index index' span span' hindex =>
    subst hindex
    rw [Read.enter, Read.enter, h.loose]
    exact hnext (enclosed_setLoose h h.flag) hlength
      (.group span span' (.capture index) r.loose h.flag hs hstack) rfl

/-- What begins behind the parenthesis is not closed either. -/
theorem vain_enter (hstack : Grouped stack) (hgone : Gone r) (fuel : Nat) (s : Sequence)
    (o : Opening) : Vain Prompt (enter (fuel + 2) stack s r o) := by
  have hskipped (loose : Bool) : Gone ({ r with loose } : Reader).skip :=
    (Reader.rest_skip_suffix _).trans hgone
  cases o with
  | setting span items => exact vain_patternLoop hstack (hskipped _) _ _
  | group span kind =>
    have hgrouped : Grouped (.group s span kind r.loose :: stack) := trivial
    exact vain_patternLoop hgrouped (hskipped _) _ _

section Side

variable (h : Enclosed P r.skip r'.skip) (hn : r.skip.rest.length ≤ n + 1)
  (hstack : Nested P mark stack stack') (hs : SameSequence s s')
include h hn hstack hs

theorem outcome_open (hspare : 2 ≤ fuel') (hnext : Concludes P n fuel fuel')
    (hc : r.skip.rest.head? = some '(') (hc' : r'.skip.rest.head? = some '(') :
    Outcome P (patternLoop (fuel + 1) stack s r) (patternLoop (fuel' + 1) stack' s' r') := by
  obtain ⟨spare, rfl⟩ := Nat.exists_eq_add_of_le' hspare
  rw [patternLoop_of_open hc, patternLoop_of_open hc']
  refine .bind (alike_opening h (Reader.ne_of_head hc) hn) ?_ ?_
  · rintro ⟨o, t⟩ ⟨o', t'⟩ ⟨ho, ht, hlength⟩
    exact hnext.enter hstack hs ht hlength ho
  · rintro ⟨o, t⟩ (hgone : Gone t)
    exact vain_enter hstack.grouped hgone spare s' o

theorem outcome_close (hnext : Concludes P n fuel fuel') (hc : r.skip.rest.head? = some ')')
    (hc' : r'.skip.rest.head? = some ')') :
    Outcome P (patternLoop (fuel + 1) stack s r) (patternLoop (fuel' + 1) stack' s' r') := by
  have hne := Reader.ne_of_head hc
  have hlt := Reader.length_pass_lt hne
  obtain ⟨inner, p, inner', p', hinner, hinner', hclosed, hpattern⟩ :=
    hstack.closing hs r.skip.pos r'.skip.pos
  rw [patternLoop_of_close hc, patternLoop_of_close hc', hinner, hinner']
  cases hclosed with
  | bottom span₀ span start => exact .unopened rfl _
  | group span span' kind loose hflag houter hstack =>
    have hgroup : SamePattern (.group ⟨span.start, r.skip.pass.pos⟩ kind p)
        (.group ⟨span'.start, r'.skip.pass.pos⟩ (kind.renumber 1) p') := by
      rw [SamePattern, Pattern.bare, Pattern.bare, hpattern]
      cases kind <;> rfl
    exact hnext (enclosed_setLoose (h.pass hne) hflag) (show r.skip.pass.rest.length ≤ n by omega)
      hstack (houter.cons hgroup)

theorem outcome_branch (hnext : Concludes P n fuel fuel') (hc : r.skip.rest.head? = some '|')
    (hc' : r'.skip.rest.head? = some '|') :
    Outcome P (patternLoop (fuel + 1) stack s r) (patternLoop (fuel' + 1) stack' s' r') := by
  have hne := Reader.ne_of_head hc
  have hlt := Reader.length_pass_lt hne
  rw [patternLoop_of_branch hc, patternLoop_of_branch hc']
  exact hnext (h.pass hne) (by omega) (hstack.branch (hs.endAt _ _).toPattern _ _) rfl

theorem outcome_bracket (hnext : Concludes P n fuel fuel') (hc : r.skip.rest.head? = some '[')
    (hc' : r'.skip.rest.head? = some '[') :
    Outcome P (patternLoop (fuel + 1) stack s r) (patternLoop (fuel' + 1) stack' s' r') := by
  rw [patternLoop_of_bracket hc, patternLoop_of_bracket hc']
  exact hnext.bind_part hstack hs (alike_bracket h hn) fun _ ↦ False.elim

theorem outcome_sign (hnext : Concludes P n fuel fuel') {c : Char} {least : Nat} {most : Option Nat}
    (hsign : RepeatsFrom c least most) (hc : r.skip.rest.head? = some c)
    (hc' : r'.skip.rest.head? = some c) :
    Outcome P (patternLoop (fuel + 1) stack s r) (patternLoop (fuel' + 1) stack' s' r') := by
  rw [patternLoop_of_sign hsign hc, patternLoop_of_sign hsign hc']
  exact hnext.bind_sequence hstack
    (alike_signRepetition hs h (Reader.ne_of_head hc) hn least most)

theorem outcome_brace (hnext : Concludes P n fuel fuel') (hc : r.skip.rest.head? = some '\x7b')
    (hc' : r'.skip.rest.head? = some '\x7b') :
    Outcome P (patternLoop (fuel + 1) stack s r) (patternLoop (fuel' + 1) stack' s' r') := by
  rw [patternLoop_of_brace hc, patternLoop_of_brace hc']
  exact hnext.bind_sequence hstack (alike_countRepetition hs h (Reader.ne_of_head hc) hn)

theorem outcome_piece (hspare : 2 ≤ fuel') (hnext : Concludes P n fuel fuel') {c : Char}
    (hsign : ¬IsSign c) (hc : r.skip.rest.head? = some c) (hc' : r'.skip.rest.head? = some c) :
    Outcome P (patternLoop (fuel + 1) stack s r) (patternLoop (fuel' + 1) stack' s' r') := by
  obtain ⟨spare, rfl⟩ := Nat.exists_eq_add_of_le' hspare
  rw [patternLoop_of_piece hc hsign, patternLoop_of_piece hc' hsign]
  exact hnext.bind_part hstack hs (alike_primitive h (Reader.ne_of_head hc) hn c)
    fun ⟨_, _⟩ hmissed ↦ vain_patternLoop_of_missed hstack.grouped hmissed _ _

/-- A turn of both readings. -/
theorem outcome_turn (hspare : 2 ≤ fuel') (hnext : Concludes P n fuel fuel') {c : Char}
    (hc : r.skip.rest.head? = some c) (hc' : r'.skip.rest.head? = some c) :
    Outcome P (patternLoop (fuel + 1) stack s r) (patternLoop (fuel' + 1) stack' s' r') := by
  by_cases hsign : IsSign c
  · rcases hsign with rfl | rfl | rfl | rfl | rfl | rfl | rfl | rfl
    · exact outcome_open h hn hstack hs hspare hnext hc hc'
    · exact outcome_close h hn hstack hs hnext hc hc'
    · exact outcome_branch h hn hstack hs hnext hc hc'
    · exact outcome_bracket h hn hstack hs hnext hc hc'
    · exact outcome_sign h hn hstack hs hnext .mark hc hc'
    · exact outcome_sign h hn hstack hs hnext .star hc hc'
    · exact outcome_sign h hn hstack hs hnext .plus hc hc'
    · exact outcome_brace h hn hstack hs hnext hc hc'
  · exact outcome_piece h hn hstack hs hspare hnext hsign hc hc'

end Side

/-! ### The end of both readings -/

/-- The first reader is done, and the second one reads the end of the group and the boundary. -/
theorem outcome_end (hstack : Nested P mark stack stack') (hs : SameSequence s s')
    (hend : r.skip.rest = []) (hend' : r'.skip.rest = behind) :
    Outcome P (patternLoop (fuel + 1) stack s r) (patternLoop (fuel' + 3) stack' s' r') := by
  obtain ⟨inner, p, inner', p', hinner, hinner', hclosed, hpattern⟩ :=
    hstack.closing hs r.skip.pos r'.skip.pos
  rw [patternLoop_of_end hend, hinner]
  cases hclosed with
  | bottom span₀ span start =>
    obtain ⟨q, t, hrun, hwrapped⟩ := patternLoop_of_around hend' hinner' hpattern
    rw [hrun]
    exact .read _ _ hwrapped
  | group span span' kind loose hflag houter h =>
    have hgone : Gone ({ r'.skip.pass with loose } : Reader) := by
      refine .of_eq ?_
      rw [Reader.rest_pass, hend']
    rw [patternLoop_of_close (by rw [hend']; rfl), hinner']
    exact .of_vain (vain_patternLoop h.grouped ((Reader.rest_skip_suffix _).trans hgone) _ _) _

/-- The comment that the first reader ends in takes the end of the group from the second one. -/
theorem outcome_comment (h : Enclosed P r.skip r'.skip) (hstack : Nested P mark stack stack')
    (hs : SameSequence s s') (hend : r.skip.rest = []) (hend' : r'.skip.rest = []) :
    Outcome P (patternLoop (fuel + 1) stack s r) (patternLoop (fuel' + 1) stack' s' r') := by
  obtain ⟨f', hf', hkind⟩ := patternLoop_of_grouped hstack.grouped hend' fuel' s'
  obtain ⟨inner, p, inner', p', hinner, -, hclosed, -⟩ :=
    hstack.closing hs r.skip.pos r'.skip.pos
  rw [patternLoop_of_end hend, hinner, hf']
  cases hclosed with
  | bottom => exact .comment _ (h.endsInComment hend hend') hkind
  | group => exact .refused _ _

end Turns

/-- **The reading of a pattern in the group** comes to what the reading of the pattern by itself
comes to. -/
theorem outcome_patternLoop {mark : Bool} {fuel fuel' : Nat} (h : Enclosed P r r')
    (hfuel : r.rest.length < fuel) (hfuel' : r'.rest.length < fuel') {stack stack' : List OpenGroup}
    (hstack : Nested P mark stack stack') {s s' : Sequence} (hs : SameSequence s s') :
    Outcome P (patternLoop fuel stack s r) (patternLoop fuel' stack' s' r') := by
  induction fuel generalizing mark fuel' r r' stack stack' s s' with
  | zero => exact absurd hfuel (Nat.not_lt_zero _)
  | succ fuel ih =>
    obtain ⟨fuel', rfl⟩ := Nat.exists_eq_succ_of_ne_zero (Nat.ne_zero_of_lt hfuel')
    have hskip := h.skip
    have hlength := (Reader.rest_skip_suffix r).length_le
    have hlength' := (Reader.rest_skip_suffix r').length_le
    have hbehind : behind.length = 3 := rfl
    rcases hskip.cases with ⟨⟨c, hc, hc'⟩, hne, hne'⟩ | ⟨hend, hend'⟩ | ⟨hend, hend'⟩
    · obtain ⟨n, hn⟩ := Nat.exists_eq_add_of_le' (List.length_pos_iff.2 hne)
      have hrest := congrArg List.length (hskip.rest_of_ne hne)
      rw [List.length_append] at hrest
      -- A turn leaves less in front of both readers, so that the next one has fuel.
      have hnext : Concludes P n fuel fuel' := fun t t' ht hle mark stack stack' hstack s s' hs ↦ by
        have hlt' := hskip.length_lt ht (by omega)
        exact ih ht (by omega) (by omega) hstack hs
      exact outcome_turn hskip (Nat.le_of_eq hn) hstack hs (by omega) hnext hc hc'
    · have hspare := congrArg List.length hend'
      obtain ⟨fuel', rfl⟩ := Nat.exists_eq_add_of_le' (show 2 ≤ fuel' by omega)
      exact outcome_end hstack hs hend hend'
    · exact outcome_comment hskip hstack hs hend hend'

end LineShell.Regex.Read
