import LineShell.Proofs.Regex.EnclosedEscapes

/-!
# A pattern in a group: classes in brackets

Nothing in brackets is a class unless a bracket closes it, and there is none behind the pattern. So
the second reader fails whenever the first one does (`alike_bracket`): once it has passed the end of
the pattern it finds no bracket, however it goes on (`vain_bracketLoop`). Up to there both read the
same items, ranges, set operations and named classes, and what they have open differs in spans only
(`SameOpen`).

A named class such as `[:alpha:]` is tried first, and where there is none the reader goes back and
reads a bracket. Whether there is one depends on the text alone (`named?`), and the parenthesis
behind the pattern does not change it (`named?_append`).
-/

namespace LineShell.Regex

/-! ### Classes without spans -/

/-- The sets of characters are the same but for spans. -/
def SameSet (s t : ClassSet) : Prop := t.bare = s.bare

theorem ClassSet.span_bare (s : ClassSet) : s.bare.span = .nowhere := by
  cases s <;> rfl

namespace Read

/-- The piece of pattern as an item of a class. -/
def item? : Pattern → Option ClassSet
  | .literal l => some (.literal l)
  | .property p => some (.property p)
  | .perl span negated c => some (.perl span negated c)
  | _ => none

/-- The piece of pattern as an end of a range. -/
def rangeEnd? : Pattern → Option Literal
  | .literal l => some l
  | _ => none

theorem itemOf_run (p : Pattern) (r : Reader) : itemOf p r =
    match item? p with
    | some s => .ok (s, r)
    | none => .error ⟨.classEscapeInvalid, p.span, none⟩ := by
  cases p <;> rfl

theorem rangeEndOf_run (p : Pattern) (r : Reader) : rangeEndOf p r =
    match rangeEnd? p with
    | some l => .ok (l, r)
    | none => .error ⟨.classRangeLiteral, p.span, none⟩ := by
  cases p <;> rfl

theorem item?_bare (k : Nat) (p : Pattern) : item? (p.bare k) = (item? p).map ClassSet.bare := by
  cases p <;> rfl

theorem rangeEnd?_bare (k : Nat) (p : Pattern) :
    rangeEnd? (p.bare k) = (rangeEnd? p).map Literal.bare := by
  cases p <;> rfl

/-- The union without spans. -/
def Union.bare (u : Union) : Union := ⟨.nowhere, u.items.map ClassSet.bare⟩

theorem Union.bare_toSet (u : Union) : u.toSet.bare = u.bare.toSet := by
  obtain ⟨span, items⟩ := u
  match items with
  | [] => rfl
  | [item] => rfl
  | item :: item' :: items =>
    show ClassSet.union .nowhere (ClassSet.bareEach _) = _
    rw [ClassSet.bareEach_eq_map, List.map_reverse]
    rfl

theorem Union.bare_push (u : Union) (item : ClassSet) :
    (u.push item).bare = ⟨.nowhere, item.bare :: u.bare.items⟩ := rfl

/-- What is open, without spans. -/
def OpenClass.bare : OpenClass → OpenClass
  | bracket outer _ negated => bracket outer.bare .nowhere negated
  | operation op left => operation op left.bare

/-- The unions are the same but for spans. -/
def SameUnion (u v : Union) : Prop := v.bare = u.bare

/-- What is open is the same but for spans. -/
def SameOpen (stack stack' : List OpenClass) : Prop :=
  stack'.map OpenClass.bare = stack.map OpenClass.bare

theorem SameUnion.push {u v : Union} (h : SameUnion u v) {s t : ClassSet} (hset : SameSet s t) :
    SameUnion (u.push s) (v.push t) := by
  rw [SameUnion, Union.bare_push, Union.bare_push, h, hset]

theorem SameUnion.toSet {u v : Union} (h : SameUnion u v) : SameSet u.toSet v.toSet := by
  rw [SameSet, Union.bare_toSet, Union.bare_toSet, h]

theorem SameUnion.isEmpty {u v : Union} (h : SameUnion u v) :
    v.items.isEmpty = u.items.isEmpty := by
  have hitems : v.items.map ClassSet.bare = u.items.map ClassSet.bare := congrArg Union.items h
  rw [← List.isEmpty_map, hitems, List.isEmpty_map]

theorem closeOperation_bare (stack : List OpenClass) (right : ClassSet) :
    closeOperation (stack.map OpenClass.bare) right.bare =
      ((closeOperation stack right).1.map OpenClass.bare, (closeOperation stack right).2.bare) := by
  match stack with
  | [] => rfl
  | .bracket outer span negated :: stack => rfl
  | .operation op left :: stack =>
    simp only [List.map_cons, OpenClass.bare, closeOperation, ClassSet.span_bare, ClassSet.bare]

/-- What is left open by the end of a set operation, and the set of the operation. -/
def SameClosed (x y : List OpenClass × ClassSet) : Prop := SameOpen x.1 y.1 ∧ SameSet x.2 y.2

theorem sameClosed_closeOperation {stack stack' : List OpenClass} (h : SameOpen stack stack')
    {s t : ClassSet} (hset : SameSet s t) :
    SameClosed (closeOperation stack s) (closeOperation stack' t) := by
  have heq : ((closeOperation stack' t).1.map OpenClass.bare, (closeOperation stack' t).2.bare) =
      ((closeOperation stack s).1.map OpenClass.bare, (closeOperation stack s).2.bare) := by
    rw [← closeOperation_bare, ← closeOperation_bare, h, hset]
  exact ⟨congrArg Prod.fst heq, congrArg Prod.snd heq⟩

/-! ### Items and ranges -/

variable {P : Text} {r r' : Reader}

/-- The reading went on where nothing was left of the pattern. -/
def Overrun {β : Type} : β × Reader → Prop
  | (_, r) => r.rest <:+ behind

theorem alike_itemOf {p p' : Pattern} (hp : SamePattern p p') (h : Enclosed P r r') {n : Nat}
    (hn : r.rest.length ≤ n) :
    Alike (Beside P SameSet n) Prompt (itemOf p r) (itemOf p' r') := by
  have hitem : (item? p').map ClassSet.bare = (item? p).map ClassSet.bare := by
    rw [← item?_bare 0, ← item?_bare 1, hp]
  rw [itemOf_run, itemOf_run]
  cases hs : item? p with
  | none =>
    rw [hs, Option.map_none, Option.map_eq_none_iff] at hitem
    rw [hitem]
    exact .error _ _
  | some s =>
    rw [hs, Option.map_some, Option.map_eq_some_iff] at hitem
    obtain ⟨t, ht, hbare⟩ := hitem
    rw [ht]
    exact .ok ⟨hbare, h, hn⟩

/-- The characters are the same but for spans. -/
def SameLiteral (l m : Literal) : Prop := m.bare = l.bare

theorem alike_rangeEndOf {p p' : Pattern} (hp : SamePattern p p') (h : Enclosed P r r') {n : Nat}
    (hn : r.rest.length ≤ n) :
    Alike (Beside P SameLiteral n) Prompt (rangeEndOf p r) (rangeEndOf p' r') := by
  have hend : (rangeEnd? p').map Literal.bare = (rangeEnd? p).map Literal.bare := by
    rw [← rangeEnd?_bare 0, ← rangeEnd?_bare 1, hp]
  rw [rangeEndOf_run, rangeEndOf_run]
  cases hs : rangeEnd? p with
  | none =>
    rw [hs, Option.map_none, Option.map_eq_none_iff] at hend
    rw [hend]
    exact .error _ _
  | some l =>
    rw [hs, Option.map_some, Option.map_eq_some_iff] at hend
    obtain ⟨m, hm, hbare⟩ := hend
    rw [hm]
    exact .ok ⟨hbare, h, hn⟩

theorem alike_classItem (h : Enclosed P r r') (hne : r.rest ≠ []) {n : Nat}
    (hn : r.rest.length ≤ n + 1) :
    Alike (Beside P SamePattern n) Missed (classItem r) (classItem r') := by
  have hlt := Reader.length_pass_lt hne
  obtain ⟨c, u, hc⟩ := List.exists_cons_of_ne_nil hne
  have hhead : r.rest.head? = some c := by rw [hc]; rfl
  rw [classItem, peek_bind, peek_bind, h.head_eq hne, hhead]
  by_cases hback : c = '\\'
  · subst hback
    exact alike_escape h hne hn
  · simp only [charSpan_bind, bump_bind]
    exact .ok ⟨rfl, h.pass hne, by omega⟩

/-- What comes over blanks and a mark is the same character in front of the parenthesis, where it is
not the first one that stands for nothing. -/
theorem peekOverFrom_append {c : Char} (hc : c ≠ ')') {all : Text} (hall : all.head? ≠ some c)
    (marked : Bool) (u : Text) :
    peekOverFrom marked (all ++ behind) (u ++ behind) = some c ↔
      peekOverFrom marked all u = some c := by
  induction u generalizing marked with
  | nil => simp [peekOverFrom, behind, isBlankChar_parenthesis, hc.symm, hall]
  | cons d u ih =>
    rw [List.cons_append, peekOverFrom, peekOverFrom]
    split
    · exact ih marked
    · split
      · exact ih true
      · rfl

/-- The range from one piece of pattern to another. -/
def rangeOf (first last : Pattern) : Read ClassSet := do
  let span : Span := ⟨first.span.start, last.span.stop⟩
  let low ← rangeEndOf first
  let high ← rangeEndOf last
  if high.char < low.char then fault .classRangeInvalid span none
  return .range span low high

/-- The range from a piece of pattern to the one behind the dash that comes next. -/
def rangeTo (stack : List OpenClass) (first : Pattern) : Read ClassSet := do
  if !(← bumpOver) then faultUnclosed stack
  rangeOf first (← classItem)

/-- The item or range that begins with the given piece of pattern. -/
def rangeFrom (stack : List OpenClass) (first : Pattern) : Read ClassSet := do
  skipBlanks
  if ← atEnd then faultUnclosed stack
  let second ← peekOver?
  if (← peek?) ≠ some '-' ∨ second = some ']' ∨ second = some '-' then itemOf first
  else rangeTo stack first

theorem classRange_eq (stack : List OpenClass) :
    classRange stack = classItem >>= rangeFrom stack := rfl

/-- The character after the next one, where blanks may be passed over. -/
def over? (r : Reader) : Option Char :=
  if r.loose then peekOverFrom false (r.rest.drop 1) (r.rest.drop 1) else (r.rest.drop 1).head?

theorem peekOver_bind {β : Type} (r : Reader) (next : Option Char → Read β) :
    (peekOver? >>= next) r = next (over? r) r := rfl

/-- The character after the next one closes a class or is a dash for both or for neither. -/
theorem over_iff (h : Enclosed P r r') (hne : r.rest ≠ []) {c : Char} (hc : c ≠ ')')
    (hblank : isBlankChar c = false) (hmark : c ≠ '#') : over? r' = some c ↔ over? r = some c := by
  obtain ⟨d, u, hu⟩ := List.exists_cons_of_ne_nil hne
  have hu' : r'.rest = d :: (u ++ behind) := by
    rw [h.rest_of_ne hne, hu, List.cons_append]
  rw [over?, over?, h.loose, hu, hu', List.drop_one, List.tail_cons, List.drop_one, List.tail_cons]
  by_cases hhead : u.head? = some c
  · obtain ⟨v, rfl⟩ : ∃ v, u = c :: v := List.head?_eq_some_iff.1 hhead
    simp [peekOverFrom, hblank, hmark]
  · split
    · exact peekOverFrom_append hc hhead false u
    · cases u with
      | nil => simp [behind, hc.symm]
      | cons e u => rfl

theorem alike_rangeOf {p p' q q' : Pattern} (hp : SamePattern p p') (hq : SamePattern q q')
    (h : Enclosed P r r') {n : Nat} (hn : r.rest.length ≤ n) :
    Alike (Beside P SameSet n) Prompt (rangeOf p q r) (rangeOf p' q' r') := by
  rw [rangeOf, rangeOf]
  refine (alike_rangeEndOf hp h hn).bind_prompt ?_
  rintro ⟨low, s⟩ ⟨low', s'⟩ ⟨hlow, hs, hlength⟩
  refine (alike_rangeEndOf hq hs hlength).bind_prompt ?_
  rintro ⟨high, s⟩ ⟨high', s'⟩ ⟨hhigh, hs, hlength⟩
  have hchar {l m : Literal} (h : SameLiteral l m) : m.char = l.char :=
    show m.bare.char = l.bare.char from congrArg Literal.char h
  dsimp only
  rw [hchar hlow, hchar hhigh]
  split
  · exact .error _ _
  · have hset : SameSet (.range ⟨p.span.start, q.span.stop⟩ low high)
        (.range ⟨p'.span.start, q'.span.stop⟩ low' high') := by
      rw [SameSet, ClassSet.bare, ClassSet.bare, hlow, hhigh]
    exact .ok ⟨hset, hs, hlength⟩

theorem faultUnclosed_run {α : Type} (stack : List OpenClass) (r : Reader) :
    ∃ f, (faultUnclosed stack : Read α) r = .error f := by
  induction stack with
  | nil => exact ⟨_, faultHere_run r _⟩
  | cons opened stack ih =>
    cases opened with
    | bracket outer span negated => exact ⟨_, rfl⟩
    | operation op left => exact ih

/-! ### Items and ranges behind the end -/

theorem vain_itemOf (p : Pattern) (h : r.rest <:+ behind) : Vain Overrun (itemOf p r) := by
  rw [itemOf_run]
  cases item? p with
  | none => exact .error _
  | some s => exact .ok h

theorem vain_rangeOf (p q : Pattern) (h : r.rest <:+ behind) : Vain Overrun (rangeOf p q r) := by
  have hend {p : Pattern} {r : Reader} (h : r.rest <:+ behind) :
      Vain Overrun (rangeEndOf p r) := by
    rw [rangeEndOf_run]
    cases rangeEnd? p with
    | none => exact .error _
    | some l => exact .ok h
  rw [rangeOf]
  refine (hend h).bind ?_
  rintro ⟨low, s⟩ hs
  refine (hend hs).bind ?_
  rintro ⟨high, s⟩ hs
  dsimp only
  split
  · exact .error _
  · exact .ok hs

/-- No dash is behind the pattern. -/
theorem head_ne_of_suffix {c : Char} (h : r.rest <:+ behind) (hc : c ∉ behind) :
    r.rest.head? ≠ some c := fun hhead ↦ hc (h.subset (List.mem_of_mem_head? hhead))

theorem vain_rangeFrom (stack : List OpenClass) (p : Pattern) (h : r.skip.rest <:+ behind) :
    Vain Overrun (rangeFrom stack p r) := by
  rw [rangeFrom, skipBlanks_bind, atEnd_bind]
  obtain ⟨f, hf⟩ := faultUnclosed_run (α := PUnit) stack r.skip
  split
  · rw [bind_of_error _ hf]
    exact .error f
  · dsimp only
    rw [peekOver_bind, peek_bind, if_pos (.inl (head_ne_of_suffix h (by decide)))]
    exact vain_itemOf p h

theorem vain_rangeFrom_of_missed (stack : List OpenClass) {p : Pattern} (h : Missed (p, r)) :
    Vain Overrun (rangeFrom stack p r) := by
  rcases h with hgone | ⟨⟨span, a, rfl⟩, hhead, -⟩
  · exact vain_rangeFrom stack p ((Reader.rest_skip_suffix r).trans
      (List.IsSuffix.trans hgone (List.tail_suffix _)))
  · have hskip : r.skip = r := Reader.skip_of_head hhead (by decide +kernel) (by decide)
    rw [rangeFrom, skipBlanks_bind, atEnd_bind, hskip,
      if_neg (by simpa using Reader.ne_of_head hhead)]
    dsimp only
    rw [peekOver_bind, peek_bind, hhead, if_pos (.inl (by decide)), itemOf_run]
    exact .error _

theorem suffix_behind {u : Text} (h : u = behind) : u <:+ behind := h ▸ List.suffix_refl u

theorem eq_of_suffix_behind {u : Text} (h : u <:+ behind) :
    u = [')', '\\', 'b'] ∨ u = ['\\', 'b'] ∨ u = ['b'] ∨ u = [] := by
  simpa [behind, List.suffix_cons_iff] using h

theorem vain_rangeOf_of_missed (p : Pattern) {q : Pattern} (h : Missed (q, r)) :
    Vain Overrun (rangeOf p q r) := by
  rcases h with hgone | ⟨⟨span, a, rfl⟩, -⟩
  · exact vain_rangeOf p q (List.IsSuffix.trans hgone (List.tail_suffix _))
  · have hfirst : Vain (fun _ ↦ True) (rangeEndOf p r) := fun _ _ ↦ trivial
    rw [rangeOf]
    refine hfirst.bind fun z _ ↦ ?_
    dsimp only
    intro y hy
    cases hy

theorem vain_classItem (h : r.rest <:+ behind) : Vain Overrun (classItem r) := by
  obtain ⟨rest, pos, loose, groups, names⟩ := r
  obtain rfl | rfl | rfl | rfl := eq_of_suffix_behind h
  · exact .ok (List.tail_suffix behind)
  · exact .ok (List.nil_suffix)
  · exact .ok (List.nil_suffix)
  · exact .error _

theorem vain_classRange (stack : List OpenClass) (h : r.rest <:+ behind) :
    Vain Overrun (classRange stack r) := by
  rw [classRange_eq]
  refine (vain_classItem h).bind ?_
  rintro ⟨p, s⟩ hs
  exact vain_rangeFrom stack p ((Reader.rest_skip_suffix s).trans hs)

/-- The set operation that comes next. -/
def op? (r : Reader) : Option SetOp :=
  match r.rest.head?, (r.rest.drop 1).head? with
  | some '&', some '&' => some .intersection
  | some '-', some '-' => some .difference
  | some '~', some '~' => some .symmetricDifference
  | _, _ => none

theorem setOp_bind {β : Type} (r : Reader) (next : Option SetOp → Read β) :
    (setOp? >>= next) r = next (op? r) r := by
  have hrun : setOp? r = .ok (op? r, r) := by
    rw [setOp?, peek_bind, op?]
    show (match r.rest.head?, (r.rest.drop 1).head? with
      | some '&', some '&' => (pure (some .intersection) : Read (Option SetOp))
      | some '-', some '-' => pure (some .difference)
      | some '~', some '~' => pure (some .symmetricDifference)
      | _, _ => pure none) r = _
    generalize r.rest.head? = a, (r.rest.drop 1).head? = b
    split <;> simp_all [pure_run]
  show (setOp? r >>= fun x ↦ next x.1 x.2) = _
  rw [hrun]
  rfl

/-- No class is closed behind the end of the pattern. -/
theorem vain_bracketLoop (fuel : Nat) (stack : List OpenClass) (u : Union)
    (hskip : r.skip.rest <:+ behind) :
    Vain Prompt (bracketLoop fuel stack u r) := by
  induction fuel generalizing stack u r with
  | zero =>
    obtain ⟨f, hf⟩ := faultUnclosed_run (α := Pattern) stack r
    rw [bracketLoop, hf]
    exact .error f
  | succ fuel ih =>
    have hitem (u : Union) : Vain Prompt ((classRange stack >>= fun s ↦
        bracketLoop fuel stack (u.push s)) r.skip) := by
      refine (vain_classRange stack hskip).bind ?_
      rintro ⟨s, r⟩ hr
      exact ih stack _ ((Reader.rest_skip_suffix r).trans hr)
    rw [bracketLoop, skipBlanks_bind, peek_bind, setOp_bind]
    obtain hrest | hrest | hrest | hrest := eq_of_suffix_behind hskip
    · rw [op?, hrest]
      exact hitem u
    · rw [op?, hrest]
      exact hitem u
    · rw [op?, hrest]
      exact hitem u
    · obtain ⟨f, hf⟩ := faultUnclosed_run (α := Pattern) stack r.skip
      rw [op?, hrest]
      show Vain Prompt (faultUnclosed stack r.skip)
      rw [hf]
      exact .error f

theorem alike_rangeTo {p p' : Pattern} (hp : SamePattern p p') (h : Enclosed P r r')
    (hne : r.rest ≠ []) {n : Nat} (hn : r.rest.length ≤ n) (stack stack' : List OpenClass) :
    Alike (Beside P SameSet n) Overrun (rangeTo stack p r) (rangeTo stack' p' r') := by
  have hover := h.passOver hne
  have hlt := Reader.length_passOver_lt hne
  obtain ⟨f, hf⟩ := faultUnclosed_run (α := PUnit) stack r.passOver
  obtain ⟨f', hf'⟩ := faultUnclosed_run (α := PUnit) stack' r'.passOver
  rw [rangeTo, rangeTo, bumpOver_bind, bumpOver_bind]
  rcases hover.cases with ⟨-, hpast, hpast'⟩ | ⟨hend, hend'⟩ | ⟨hend, hend'⟩
  · simp only [List.isEmpty_eq_false_iff.2 hpast, List.isEmpty_eq_false_iff.2 hpast',
      Bool.not_false, Bool.not_true, Bool.false_eq_true, if_false]
    refine (alike_classItem (n := n) hover hpast (by omega)).bind ?_ ?_
    · rintro ⟨q, s⟩ ⟨q', s'⟩ ⟨hq, hs, hlength⟩
      exact (alike_rangeOf hp hq hs hlength).of_prompt
    · rintro ⟨q, s⟩ hmissed f
      exact (vain_rangeOf_of_missed p' hmissed).alike f
  · simp only [hend, hend', behind, List.isEmpty_nil, List.isEmpty_cons, Bool.not_false,
      Bool.not_true, Bool.false_eq_true, if_false, if_true]
    rw [bind_of_error _ hf]
    refine Vain.alike ((vain_classItem (suffix_behind hend')).bind ?_) f
    rintro ⟨q, s⟩ hs
    exact vain_rangeOf p' q hs
  · simp only [hend, hend', List.isEmpty_nil, Bool.not_true, Bool.not_false, if_true]
    rw [bind_of_error _ hf, bind_of_error _ hf']
    exact .error f f'

theorem alike_rangeFrom {p p' : Pattern} (hp : SamePattern p p') (h : Enclosed P r r') {n : Nat}
    (hn : r.rest.length ≤ n) (stack stack' : List OpenClass) :
    Alike (Beside P SameSet n) Overrun (rangeFrom stack p r) (rangeFrom stack' p' r') := by
  have hskip := h.skip
  have hlength : r.skip.rest.length ≤ n := Nat.le_trans (Reader.rest_skip_suffix r).length_le hn
  obtain ⟨f, hf⟩ := faultUnclosed_run (α := PUnit) stack r.skip
  rcases hskip.cases with ⟨⟨c, hc, hc'⟩, hpast, hpast'⟩ | ⟨hend, hend'⟩ | ⟨hend, hend'⟩
  · rw [rangeFrom, rangeFrom]
    simp only [skipBlanks_bind, atEnd_bind, List.isEmpty_eq_false_iff.2 hpast,
      List.isEmpty_eq_false_iff.2 hpast', Bool.false_eq_true, if_false, peekOver_bind, peek_bind,
      hc, hc', over_iff hskip hpast (show ']' ≠ ')' by decide) (by decide +kernel) (by decide),
      over_iff hskip hpast (show '-' ≠ ')' by decide) (by decide +kernel) (by decide)]
    split
    · exact (alike_itemOf hp hskip hlength).of_prompt
    · exact alike_rangeTo hp hskip hpast hlength stack stack'
  · have hrun : rangeFrom stack p r = .error f := by
      rw [rangeFrom, skipBlanks_bind, atEnd_bind, hend, List.isEmpty_nil, if_pos rfl,
        bind_of_error _ hf]
    rw [hrun]
    exact (vain_rangeFrom stack' p' (suffix_behind hend')).alike f
  · obtain ⟨f', hf'⟩ := faultUnclosed_run (α := PUnit) stack' r'.skip
    rw [rangeFrom, rangeFrom, skipBlanks_bind, atEnd_bind, hend, skipBlanks_bind, atEnd_bind, hend',
      List.isEmpty_nil, if_pos rfl, if_pos rfl, bind_of_error _ hf, bind_of_error _ hf']
    exact .error f f'

theorem alike_classRange (h : Enclosed P r r') (hne : r.rest ≠ []) {n : Nat}
    (hn : r.rest.length ≤ n + 1) (stack stack' : List OpenClass) :
    Alike (Beside P SameSet n) Overrun (classRange stack r) (classRange stack' r') := by
  rw [classRange_eq, classRange_eq]
  refine (alike_classItem h hne hn).bind ?_ ?_
  · rintro ⟨p, s⟩ ⟨p', s'⟩ ⟨hp, hs, hlength⟩
    exact alike_rangeFrom hp hs hlength stack stack'
  · rintro ⟨p, s⟩ hmissed f
    exact (vain_rangeFrom_of_missed stack' hmissed).alike f

/-! ### Brackets -/

/-- A bracket that has been opened, behind the `]` that may stand for itself in front. -/
def opened (outer : Union) (start : Position) (negated : Bool) (u : Union) :
    Read (OpenClass × Union) := do
  if u.items.isEmpty && (← peek?) == some ']' then
    let u := u.push (.literal ⟨← charSpan, ']', false⟩)
    if !(← bumpOver) then faultFrom .classUnclosed start (← pos)
    return (.bracket outer ⟨start, ← pos⟩ negated, u)
  else return (.bracket outer ⟨start, ← pos⟩ negated, u)

/-- What stands for itself in front of a class. -/
def openFrom (outer : Union) (start : Position) (negated : Bool) : Read (OpenClass × Union) := do
  let here ← pos
  let u ← leadingDashes start (← get).rest.length ⟨⟨here, here⟩, []⟩
  opened outer start negated u

/-- A bracket with its negation, behind the bracket. -/
def openNegated (outer : Union) (start : Position) : Read (OpenClass × Union) := do
  let negated := decide ((← peek?) = some '^')
  if negated then
    if !(← bumpOver) then faultFrom .classUnclosed start (← pos)
    openFrom outer start negated
  else openFrom outer start negated

theorem openBracket_run (outer : Union) (r : Reader) : openBracket outer r =
    if r.passOver.rest.isEmpty then
      .error ⟨.classUnclosed, ⟨r.pos, r.passOver.pos⟩, none⟩
    else openNegated outer r.pos r.passOver := by
  rw [openBracket, pos_bind, bumpOver_bind]
  cases r.passOver.rest.isEmpty <;> rfl

theorem openNegated_run (outer : Union) (start : Position) (r : Reader) :
    openNegated outer start r = if r.rest.head? = some '^' then
      if r.passOver.rest.isEmpty then .error ⟨.classUnclosed, ⟨start, r.passOver.pos⟩, none⟩
      else openFrom outer start true r.passOver
    else openFrom outer start false r := by
  rw [openNegated, peek_bind]
  by_cases hhead : r.rest.head? = some '^'
  · simp only [hhead, decide_true, if_true, bumpOver_bind]
    cases r.passOver.rest.isEmpty <;> rfl
  · simp only [hhead, decide_false, Bool.false_eq_true, if_false]

theorem opened_run (outer : Union) (start : Position) (negated : Bool) (u : Union) (r : Reader) :
    opened outer start negated u r = if u.items.isEmpty && r.rest.head? == some ']' then
      if r.passOver.rest.isEmpty then .error ⟨.classUnclosed, ⟨start, r.passOver.pos⟩, none⟩
      else .ok ((.bracket outer ⟨start, r.passOver.pos⟩ negated,
        u.push (.literal ⟨⟨r.pos, r.pass.pos⟩, ']', false⟩)), r.passOver)
    else .ok ((.bracket outer ⟨start, r.pos⟩ negated, u), r) := by
  rw [opened, peek_bind]
  cases u.items.isEmpty && r.rest.head? == some ']' with
  | true =>
    simp only [if_true, charSpan_bind, bumpOver_bind]
    cases r.passOver.rest.isEmpty <;> rfl
  | false => rfl

theorem leadingDashes_succ_run (start : Position) (fuel : Nat) (u : Union) (r : Reader) :
    leadingDashes start (fuel + 1) u r = if r.rest.head? = some '-' then
      if r.passOver.rest.isEmpty then .error ⟨.classUnclosed, ⟨start, start⟩, none⟩
      else leadingDashes start fuel (u.push (.literal ⟨⟨r.pos, r.pass.pos⟩, '-', false⟩)) r.passOver
    else .ok (u, r) := by
  rw [leadingDashes, peek_bind]
  by_cases hhead : r.rest.head? = some '-'
  · simp only [hhead, if_true, charSpan_bind, bumpOver_bind]
    cases r.passOver.rest.isEmpty <;> rfl
  · simp only [hhead, if_false]
    rfl

/-- Nothing stands for itself in front of a character that is no dash. -/
theorem leadingDashes_of_head (h : r.rest.head? ≠ some '-') (start : Position) (fuel : Nat)
    (u : Union) : leadingDashes start fuel u r = .ok (u, r) := by
  cases fuel with
  | zero => rfl
  | succ fuel => rw [leadingDashes_succ_run, if_neg h]

theorem alike_leadingDashes (h : Enclosed P r r') {n fuel fuel' : Nat}
    (hn : r.rest.length ≤ n) (hfuel : r.rest.length ≤ fuel) (hfuel' : r'.rest.length ≤ fuel')
    {u u' : Union} (hu : SameUnion u u') (start start' : Position) :
    Alike (Beside P SameUnion n) Overrun (leadingDashes start fuel u r)
      (leadingDashes start' fuel' u' r') := by
  induction fuel generalizing fuel' r r' u u' with
  | zero =>
    have hend : r.rest = [] := List.length_eq_zero_iff.1 (Nat.le_zero.1 hfuel)
    have hhead : r.rest.head? ≠ some '-' := by simp [hend]
    rw [leadingDashes_of_head hhead, leadingDashes_of_head (mt (h.head_iff (by decide)).1 hhead)]
    exact .ok ⟨hu, h, hn⟩
  | succ fuel ih =>
    by_cases hhead : r.rest.head? = some '-'
    · have hne := Reader.ne_of_head hhead
      have hlt := Reader.length_passOver_lt hne
      have hlt' := Reader.length_passOver_lt (h.ne hne)
      obtain ⟨fuel', rfl⟩ := Nat.exists_eq_succ_of_ne_zero (show fuel' ≠ 0 by omega)
      rw [leadingDashes_succ_run, leadingDashes_succ_run, if_pos hhead,
        if_pos ((h.head_iff (by decide)).2 hhead)]
      refine alike_unlessEmpty (h.passOver hne) (fun _ _ ↦ ?_) fun _ hbehind f ↦ ?_
      · exact ih (h.passOver hne) (by omega) (by omega) (by omega) (hu.push rfl)
      · rw [leadingDashes_of_head (head_ne_of_suffix (suffix_behind hbehind) (by decide))]
        exact .late f (suffix_behind hbehind)
    · rw [leadingDashes_of_head hhead, leadingDashes_of_head (mt (h.head_iff (by decide)).1 hhead)]
      exact .ok ⟨hu, h, hn⟩

/-- What a bracket opens is the same but for spans. -/
def SameOpening (x y : OpenClass × Union) : Prop := y.1.bare = x.1.bare ∧ SameUnion x.2 y.2

theorem vain_opened (outer : Union) (start : Position) (negated : Bool) (u : Union)
    (h : r.rest <:+ behind) : Vain Overrun (opened outer start negated u r) := by
  have hhead : (r.rest.head? == some ']') = false := by
    simpa using head_ne_of_suffix h (show ']' ∉ behind by decide)
  rw [opened_run, hhead, Bool.and_false, if_neg (by decide)]
  exact .ok h

theorem vain_openFrom (outer : Union) (start : Position) (negated : Bool)
    (h : r.rest <:+ behind) : Vain Overrun (openFrom outer start negated r) := by
  rw [openFrom, pos_bind, get_bind]
  have hdashes := leadingDashes_of_head (head_ne_of_suffix h (by decide)) start r.rest.length
    ⟨⟨r.pos, r.pos⟩, []⟩
  show Vain Overrun (leadingDashes start r.rest.length ⟨⟨r.pos, r.pos⟩, []⟩ r >>= fun z ↦
    opened outer start negated z.1 z.2)
  rw [hdashes]
  exact vain_opened outer start negated _ h

theorem alike_openFrom (h : Enclosed P r r') {n : Nat} (hn : r.rest.length ≤ n) {u u' : Union}
    (hu : SameUnion u u') (start start' : Position) (negated : Bool) :
    Alike (Beside P SameOpening n) Overrun (openFrom u start negated r)
      (openFrom u' start' negated r') := by
  rw [openFrom, openFrom, pos_bind, pos_bind, get_bind, get_bind]
  have hempty : SameUnion ⟨⟨r.pos, r.pos⟩, []⟩ ⟨⟨r'.pos, r'.pos⟩, []⟩ := rfl
  refine (alike_leadingDashes h (Nat.le_refl _) (Nat.le_refl _) (Nat.le_refl _) hempty _ _).bind
    ?_ ?_
  · rintro ⟨v, s⟩ ⟨v', s'⟩ ⟨hv, hs, hlength⟩
    have hout (span span' : Span) :
        (OpenClass.bracket u' span' negated).bare = (OpenClass.bracket u span negated).bare := by
      rw [OpenClass.bare, OpenClass.bare, hu]
    have hhead : (s'.rest.head? == some ']') = (s.rest.head? == some ']') := by
      rw [Bool.eq_iff_iff, beq_iff_eq, beq_iff_eq, hs.head_iff (by decide)]
    dsimp only
    rw [opened_run, opened_run, hv.isEmpty, hhead]
    split
    · next hclose =>
      have hne : s.rest ≠ [] := Reader.ne_of_head (by simpa using And.right (by simpa using hclose))
      have hlt := Reader.length_passOver_lt hne
      refine alike_unlessEmpty (hs.passOver hne) (fun _ _ ↦ ?_) fun _ hbehind f ↦ ?_
      · exact .ok ⟨⟨hout _ _, hv.push rfl⟩, hs.passOver hne, by omega⟩
      · exact .late f (suffix_behind hbehind)
    · exact .ok ⟨⟨hout _ _, hv⟩, hs, by omega⟩
  · rintro ⟨v, s⟩ hs f
    exact (vain_opened u' start' negated v hs).alike f

theorem alike_openBracket (h : Enclosed P r r') (hne : r.rest ≠ []) {n : Nat}
    (hn : r.rest.length ≤ n + 1) {u u' : Union} (hu : SameUnion u u') :
    Alike (Beside P SameOpening n) Overrun (openBracket u r) (openBracket u' r') := by
  have hover := h.passOver hne
  have hlt := Reader.length_passOver_lt hne
  rw [openBracket_run, openBracket_run]
  refine alike_unlessEmpty hover (fun hpast _ ↦ ?_) fun _ hbehind f ↦ ?_
  · rw [openNegated_run, openNegated_run]
    simp only [hover.head_iff (show '^' ≠ ')' by decide)]
    split
    · have hlt' := Reader.length_passOver_lt hpast
      refine alike_unlessEmpty (hover.passOver hpast) (fun _ _ ↦ ?_) fun _ hbehind f ↦ ?_
      · exact alike_openFrom (hover.passOver hpast) (by omega) hu _ _ true
      · exact (vain_openFrom u' _ true (suffix_behind hbehind)).alike f
    · exact alike_openFrom hover (by omega) hu _ _ false
  · rw [openNegated_run, if_neg (head_ne_of_suffix (suffix_behind hbehind) (by decide))]
    exact (vain_openFrom u' _ false (suffix_behind hbehind)).alike f

/-! ### Named classes -/

/-- The name in front of `:]`, if the text begins so. -/
def nameIn? (u : Text) : Option Text :=
  let name := u.takeWhile (· != ':')
  if [':', ']'].isPrefixOf (u.drop name.length) then some name else none

/-- The class that is named at the front of the text, with the count of characters that it is
written with and whether it is negated. -/
def named? (u : Text) : Option (Nat × Bool × AsciiClass) :=
  if (u.drop 1).head? ≠ some ':' then none
  else
    let body := (u.drop 1).drop 1
    let negated := decide (body.head? = some '^')
    (nameIn? (if negated then body.drop 1 else body)).bind fun name ↦
      (AsciiClass.ofName? name).map fun c ↦
        (2 + (if negated then 1 else 0) + name.length + 2, negated, c)

theorem asciiClass_run (r : Reader) : asciiClass? r = match named? r.rest with
    | none => .ok (none, r)
    | some (count, negated, c) =>
      let stop := (r.rest.take count).foldl Position.next r.pos
      .ok (some (.ascii ⟨r.pos, stop⟩ negated c),
        { r with rest := r.rest.drop count, pos := stop }) := by
  rw [asciiClass?, get_bind, named?]
  by_cases hcolon : (r.rest.drop 1).head? = some ':'
  · simp only [hcolon, ne_eq, not_true_eq_false, if_false]
    generalize decide (((r.rest.drop 1).drop 1).head? = some '^') = negated
    generalize (if negated = true then ((r.rest.drop 1).drop 1).drop 1
      else (r.rest.drop 1).drop 1) = body
    rw [nameIn?]
    cases [':', ']'].isPrefixOf (body.drop (body.takeWhile (· != ':')).length) with
    | false => rfl
    | true =>
      simp only [Bool.not_true, Bool.false_eq_true, if_false, if_true, Option.bind_some]
      cases AsciiClass.ofName? (body.takeWhile (· != ':')) <;> rfl
  · simp only [hcolon, ne_eq, not_false_eq_true, if_true]
    rfl

theorem nameIn?_append (u : Text) : nameIn? (u ++ behind) = nameIn? u := by
  by_cases hcolon : ':' ∈ u
  · obtain ⟨front, back, rfl, hfront⟩ := List.eq_append_cons_of_mem hcolon
    have hall : ∀ c ∈ front, (c != ':') = true := fun c hc ↦ by
      simpa using fun heq : c = ':' ↦ hfront (heq ▸ hc)
    have htake (rest : Text) : (front ++ ':' :: rest).takeWhile (· != ':') = front := by
      rw [List.takeWhile_append_of_pos hall]
      simp
    rw [List.append_assoc, List.cons_append, nameIn?, nameIn?, htake, htake, List.drop_left,
      List.drop_left]
    cases back with
    | nil => rfl
    | cons c back => rfl
  · have hall : ∀ c ∈ u, (c != ':') = true := fun c hc ↦ by
      simpa using fun heq : c = ':' ↦ hcolon (heq ▸ hc)
    have htake : (u ++ behind).takeWhile (· != ':') = u ++ behind := by
      rw [List.takeWhile_append_of_pos hall]
      rfl
    have htake' : u.takeWhile (· != ':') = u := by
      simpa using (List.takeWhile_append_of_pos hall :
        (u ++ ([] : Text)).takeWhile (· != ':') = u ++ ([] : Text).takeWhile (· != ':'))
    rw [nameIn?, nameIn?, htake, htake', List.drop_length, List.drop_length]
    rfl

theorem named?_append {u : Text} (h : u ≠ []) : named? (u ++ behind) = named? u := by
  have hhead {c : Char} (hc : c ≠ ')') (v : Text) :
      (v ++ behind).head? = some c ↔ v.head? = some c := by
    cases v with
    | nil => simp [behind, hc.symm]
    | cons d v => rfl
  obtain ⟨c, u, rfl⟩ := List.exists_cons_of_ne_nil h
  rw [named?, named?]
  simp only [List.cons_append, List.drop_succ_cons, List.drop_zero, ne_eq,
    hhead (show ':' ≠ ')' by decide)]
  split
  · rfl
  · next hcolon =>
    obtain ⟨v, rfl⟩ := List.head?_eq_some_iff.1 (Decidable.not_not.1 hcolon)
    simp only [List.cons_append, List.drop_succ_cons, List.drop_zero,
      hhead (show '^' ≠ ')' by decide)]
    by_cases hnegated : v.head? = some '^'
    · obtain ⟨w, rfl⟩ := List.head?_eq_some_iff.1 hnegated
      simp [nameIn?_append]
    · simp [hnegated, nameIn?_append]

theorem length_of_nameIn {u name : Text} (h : nameIn? u = some name) :
    name.length + 2 ≤ u.length := by
  rw [nameIn?] at h
  split at h
  · next hclose =>
    obtain rfl := Option.some.inj h
    have hlength := (List.isPrefixOf_iff_prefix.1 hclose).length_le
    rw [List.length_drop] at hlength
    simp only [List.length_cons, List.length_nil] at hlength
    omega
  · cases h

theorem length_of_named {u : Text} {count : Nat} {negated : Bool} {c : AsciiClass}
    (h : named? u = some (count, negated, c)) : 0 < count ∧ count ≤ u.length := by
  rw [named?] at h
  split at h
  · cases h
  · next hcolon =>
    obtain ⟨v, hv⟩ := List.head?_eq_some_iff.1 (Decidable.not_not.1 hcolon)
    obtain ⟨name, hname, hrest⟩ := Option.bind_eq_some_iff.1 h
    obtain ⟨d, -, heq⟩ := Option.map_eq_some_iff.1 hrest
    obtain rfl := congrArg Prod.fst heq
    have hlength := length_of_nameIn hname
    have hu : u.length = v.length + 2 := by
      have hdrop := congrArg List.length hv
      rw [List.length_drop, List.length_cons] at hdrop
      omega
    rw [hv, List.drop_succ_cons, List.drop_zero] at hlength ⊢
    refine ⟨by omega, ?_⟩
    by_cases hnegated : v.head? = some '^'
    · obtain ⟨w, rfl⟩ := List.head?_eq_some_iff.1 hnegated
      simp at hlength hu ⊢
      omega
    · simp [hnegated] at hlength ⊢
      omega

theorem advance (h : Enclosed P r r') {count : Nat} (hcount : count ≤ r.rest.length)
    (hne : r.rest ≠ []) (pos pos' : Position) :
    Enclosed P { r with rest := r.rest.drop count, pos }
      { r' with rest := r'.rest.drop count, pos := pos' } := by
  refine ⟨(List.drop_suffix _ _).trans h.suffix, ?_, h.loose, h.flag, h.groups, h.names⟩
  rcases h.rest with hrest | ⟨-, hend, -⟩
  · exact .inl (by rw [hrest, List.drop_append_of_le_length hcount])
  · exact absurd hend hne

/-- Both readers have the same named class in front of them, or neither has one. -/
theorem asciiClass_cases (h : Enclosed P r r') (hne : r.rest ≠ []) :
    (asciiClass? r = .ok (none, r) ∧ asciiClass? r' = .ok (none, r')) ∨
      ∃ s t x x', asciiClass? r = .ok (some s, x) ∧ asciiClass? r' = .ok (some t, x') ∧
        SameSet s t ∧ Enclosed P x x' ∧ x.rest.length < r.rest.length := by
  have hnamed : named? r'.rest = named? r.rest := by
    rw [h.rest_of_ne hne, named?_append hne]
  rw [asciiClass_run, asciiClass_run, hnamed]
  cases hrest : named? r.rest with
  | none => exact .inl ⟨rfl, rfl⟩
  | some found =>
    obtain ⟨count, negated, c⟩ := found
    obtain ⟨hpos, hcount⟩ := length_of_named hrest
    refine .inr ⟨_, _, _, _, rfl, rfl, rfl, advance h hcount hne _ _, ?_⟩
    simp only [List.length_drop]
    omega

/-! ### The whole class -/

theorem op_eq (h : Enclosed P r r') (hne : r.rest ≠ []) : op? r' = op? r := by
  obtain ⟨c, u, hu⟩ := List.exists_cons_of_ne_nil hne
  have hu' : r'.rest = c :: (u ++ behind) := by
    rw [h.rest_of_ne hne, hu, List.cons_append]
  rw [op?, op?, hu, hu']
  cases u with
  | nil =>
    have hnone (d : Option Char) (hd : d = none ∨ d = some ')') : (match some c, d with
        | some '&', some '&' => some SetOp.intersection
        | some '-', some '-' => some .difference
        | some '~', some '~' => some .symmetricDifference
        | _, _ => none) = none := by
      rcases hd with rfl | rfl <;> split <;> simp_all
    exact (hnone _ (.inr rfl)).trans (hnone _ (.inl rfl)).symm
  | cons d u => rfl

/-- Where a set operation comes next there are two characters. -/
theorem ne_of_op {op : SetOp} (h : op? r = some op) : r.rest ≠ [] ∧ r.pass.rest ≠ [] := by
  rw [Reader.rest_pass]
  rw [op?] at h
  obtain hrest | ⟨c, hrest⟩ | ⟨c, d, u, hrest⟩ : r.rest = [] ∨ (∃ c, r.rest = [c]) ∨
      ∃ c d u, r.rest = c :: d :: u := by
    match r.rest with
    | [] => exact .inl rfl
    | [c] => exact .inr (.inl ⟨c, rfl⟩)
    | c :: d :: u => exact .inr (.inr ⟨c, d, u, rfl⟩)
  · simp [hrest] at h
  · simp [hrest] at h
  · simp [hrest]

theorem SameOpen.isEmpty {stack stack' : List OpenClass} (h : SameOpen stack stack') :
    stack'.isEmpty = stack.isEmpty := by
  rw [← List.isEmpty_map, h, List.isEmpty_map]

/-- What is open is empty on both sides, or begins with the same thing. -/
theorem SameOpen.cases {stack stack' : List OpenClass} (h : SameOpen stack stack') :
    (stack = [] ∧ stack' = []) ∨
      (∃ outer outer' span span' negated rest rest', stack = .bracket outer span negated :: rest ∧
        stack' = .bracket outer' span' negated :: rest' ∧ SameUnion outer outer' ∧
        SameOpen rest rest') ∨
      ∃ op left left' rest rest', stack = .operation op left :: rest ∧
        stack' = .operation op left' :: rest' := by
  cases stack with
  | nil => exact .inl ⟨rfl, List.map_eq_nil_iff.1 h⟩
  | cons o rest =>
    obtain ⟨o', rest', rfl, ho, hrest⟩ := List.map_eq_cons_iff.1 h
    cases o with
    | bracket outer span negated =>
      cases o' with
      | bracket outer' span' negated' =>
        injection ho with houter _ hnegated
        subst hnegated
        exact .inr (.inl ⟨_, _, _, _, _, _, _, rfl, rfl, houter, hrest⟩)
      | operation op left => cases ho
    | operation op left =>
      cases o' with
      | bracket outer span negated => cases ho
      | operation op' left' =>
        injection ho with hop
        subst hop
        exact .inr (.inr ⟨_, _, _, _, _, rfl, rfl⟩)

theorem samePattern_bracket {s t : ClassSet} (negated : Bool) (h : SameSet s t)
    {span span' : Span} :
    SamePattern (.bracket span negated s) (.bracket span' negated t) := by
  rw [SamePattern, Pattern.bare, Pattern.bare, h]

theorem bracketLoop_of_end (h : r.skip.rest = []) (fuel : Nat) (stack : List OpenClass)
    (u : Union) : bracketLoop (fuel + 1) stack u r = faultUnclosed stack r.skip := by
  rw [bracketLoop, skipBlanks_bind, peek_bind, setOp_bind, op?, h]
  rfl

/-! ### Turns of one reading -/

section OneReading

variable {fuel : Nat} {stack : List OpenClass} {u : Union}

/-- An inner class, which is no named class. -/
theorem bracketLoop_of_open (h : r.skip.rest.head? = some '[')
    (hnone : stack.isEmpty = true ∨ asciiClass? r.skip = .ok (none, r.skip)) :
    bracketLoop (fuel + 1) stack u r =
      (openBracket u >>= fun x ↦ bracketLoop fuel (x.1 :: stack) x.2) r.skip := by
  rw [bracketLoop, skipBlanks_bind, peek_bind, setOp_bind, h]
  dsimp only
  split
  · rfl
  · exact bind_of_ok _ (hnone.resolve_left ‹_›) _

theorem bracketLoop_of_named (h : r.skip.rest.head? = some '[') (hstack : stack.isEmpty = false)
    {s : ClassSet} {x : Reader} (hrun : asciiClass? r.skip = .ok (some s, x)) :
    bracketLoop (fuel + 1) stack u r = bracketLoop fuel stack (u.push s) x := by
  rw [bracketLoop, skipBlanks_bind, peek_bind, setOp_bind, h]
  dsimp only
  rw [hstack]
  exact bind_of_ok _ hrun _

theorem bracketLoop_of_close (h : r.skip.rest.head? = some ']') :
    bracketLoop (fuel + 1) stack u r =
      match closeOperation stack u.toSet with
      | ([], set) => .ok (.bracket set.span false set, r.skip.pass)
      | (.bracket _ span negated :: [], set) =>
        .ok (.bracket ⟨span.start, r.skip.pass.pos⟩ negated set, r.skip.pass)
      | (.bracket outer span negated :: stack, set) =>
        bracketLoop fuel stack
          (outer.push (.bracketed ⟨span.start, r.skip.pass.pos⟩ negated set)) r.skip.pass
      | (.operation _ _ :: _, set) => .ok (.bracket set.span false set, r.skip.pass) := by
  rw [bracketLoop, skipBlanks_bind, peek_bind, setOp_bind, h]
  simp only [bump_bind]
  generalize closeOperation stack u.toSet = closed
  obtain ⟨stack, set⟩ := closed
  rcases stack with - | ⟨⟨outer, span, negated⟩ | ⟨op, left⟩, - | ⟨o, stack⟩⟩ <;> rfl

/-- What comes next is neither the beginning nor the end of a class. -/
theorem bracketLoop_of_op {op : SetOp} (h : op? r.skip = some op) :
    bracketLoop (fuel + 1) stack u r =
      bracketLoop fuel
        (.operation op (closeOperation stack u.toSet).2 :: (closeOperation stack u.toSet).1)
        ⟨⟨r.skip.pass.pass.pos, r.skip.pass.pass.pos⟩, []⟩ r.skip.pass.pass := by
  obtain ⟨c, hc, hopen, hclose⟩ : ∃ c, r.skip.rest.head? = some c ∧ c ≠ '[' ∧ c ≠ ']' := by
    rw [op?] at h
    split at h <;> simp_all
  rw [bracketLoop, skipBlanks_bind, peek_bind, setOp_bind, h, hc]
  simp only [bump_bind, pos_bind]

theorem bracketLoop_of_item {c : Char} (h : r.skip.rest.head? = some c) (hopen : c ≠ '[')
    (hclose : c ≠ ']') (hop : op? r.skip = none) :
    bracketLoop (fuel + 1) stack u r =
      (classRange stack >>= fun s ↦ bracketLoop fuel stack (u.push s)) r.skip := by
  rw [bracketLoop, skipBlanks_bind, peek_bind, setOp_bind, h, hop]
  simp only

end OneReading

/-! ### Turns of both readings -/

/-- The rest of the class is the same for both readings and ends in the pattern, from wherever the
readers stand side by side with at most `m` characters in front of the first one. -/
def Closes (P : Text) (n m fuel fuel' : Nat) : Prop :=
  ∀ ⦃t t' : Reader⦄, Enclosed P t t' → t.rest.length ≤ m →
    ∀ ⦃stack stack' : List OpenClass⦄, SameOpen stack stack' →
      ∀ ⦃u u' : Union⦄, SameUnion u u' →
        Alike (Beside P SamePattern n) Prompt (bracketLoop fuel stack u t)
          (bracketLoop fuel' stack' u' t')

section Turns

variable {n m fuel fuel' : Nat} {stack stack' : List OpenClass} {u u' : Union}
  (h : Enclosed P r.skip r'.skip) (hm : r.skip.rest.length ≤ m + 1)
  (hnext : Closes P n m fuel fuel') (hstack : SameOpen stack stack') (hu : SameUnion u u')
include h hm hnext hstack hu

theorem alike_openTurn (hc : r.skip.rest.head? = some '[') (hc' : r'.skip.rest.head? = some '[') :
    Alike (Beside P SamePattern n) Prompt (bracketLoop (fuel + 1) stack u r)
      (bracketLoop (fuel' + 1) stack' u' r') := by
  have hne := Reader.ne_of_head hc
  have hempty := hstack.isEmpty
  have henter : Alike (Beside P SamePattern n) Prompt
      ((openBracket u >>= fun x ↦ bracketLoop fuel (x.1 :: stack) x.2) r.skip)
      ((openBracket u' >>= fun x ↦ bracketLoop fuel' (x.1 :: stack') x.2) r'.skip) := by
    refine (alike_openBracket h hne hm hu).bind ?_ ?_
    · rintro ⟨⟨o, v⟩, s⟩ ⟨⟨o', v'⟩, s'⟩ ⟨⟨ho, hv⟩, hs, hlength⟩
      have hopen : SameOpen (o :: stack) (o' :: stack') := by
        rw [SameOpen, List.map_cons, ho, hstack, List.map_cons]
      exact hnext hs hlength hopen hv
    · rintro ⟨⟨o, v⟩, s⟩ hs f
      exact (vain_bracketLoop fuel' _ v ((Reader.rest_skip_suffix s).trans hs)).alike f
  rcases asciiClass_cases h hne with ⟨hrun, hrun'⟩ | ⟨s, t, x, x', hrun, hrun', hset, hx, hlt⟩
  · rw [bracketLoop_of_open hc (.inr hrun), bracketLoop_of_open hc' (.inr hrun')]
    exact henter
  · cases hnil : stack.isEmpty with
    | true =>
      rw [bracketLoop_of_open hc (.inl hnil), bracketLoop_of_open hc' (.inl (hempty.trans hnil))]
      exact henter
    | false =>
      rw [bracketLoop_of_named hc hnil hrun, bracketLoop_of_named hc' (hempty.trans hnil) hrun']
      exact hnext hx (by omega) hstack (hu.push hset)

theorem alike_closeTurn (hmn : m ≤ n) (hc : r.skip.rest.head? = some ']')
    (hc' : r'.skip.rest.head? = some ']') :
    Alike (Beside P SamePattern n) Prompt (bracketLoop (fuel + 1) stack u r)
      (bracketLoop (fuel' + 1) stack' u' r') := by
  have hpass := h.pass (Reader.ne_of_head hc)
  have hlt := Reader.length_pass_lt (Reader.ne_of_head hc)
  have hclosed := sameClosed_closeOperation hstack hu.toSet
  rw [bracketLoop_of_close hc, bracketLoop_of_close hc']
  generalize closeOperation stack u.toSet = closed at hclosed ⊢
  generalize closeOperation stack' u'.toSet = closed' at hclosed ⊢
  obtain ⟨open₁, set⟩ := closed
  obtain ⟨open₂, set'⟩ := closed'
  obtain ⟨hopen, hset⟩ := hclosed
  rcases SameOpen.cases hopen with ⟨rfl, rfl⟩ |
    ⟨outer, outer', span, span', negated, rest, rest', rfl, rfl, houter, hrest⟩ |
    ⟨op, left, left', rest, rest', rfl, rfl⟩
  · exact .ok ⟨samePattern_bracket false hset, hpass, by omega⟩
  · have hempty := SameOpen.isEmpty hrest
    cases rest with
    | nil =>
      obtain rfl : rest' = [] := List.isEmpty_iff.1 hempty
      exact .ok ⟨samePattern_bracket negated hset, hpass, by omega⟩
    | cons o rest =>
      obtain ⟨o', rest', rfl⟩ := List.exists_cons_of_ne_nil (List.isEmpty_eq_false_iff.1 hempty)
      refine hnext hpass (by omega) hrest (houter.push ?_)
      rw [SameSet, ClassSet.bare, ClassSet.bare, hset]
  · exact .ok ⟨samePattern_bracket false hset, hpass, by omega⟩

theorem alike_opTurn {op : SetOp} (hop : op? r.skip = some op) (hop' : op? r'.skip = some op) :
    Alike (Beside P SamePattern n) Prompt (bracketLoop (fuel + 1) stack u r)
      (bracketLoop (fuel' + 1) stack' u' r') := by
  obtain ⟨hne, hmore⟩ := ne_of_op hop
  have hlt := Reader.length_pass_lt hne
  have hlt' := Reader.length_pass_lt hmore
  have hclosed := sameClosed_closeOperation hstack hu.toSet
  rw [bracketLoop_of_op hop, bracketLoop_of_op hop']
  refine hnext ((h.pass hne).pass hmore) (by omega) ?_ rfl
  rw [SameOpen, List.map_cons, List.map_cons, OpenClass.bare, OpenClass.bare, hclosed.1, hclosed.2]

theorem alike_itemTurn {c : Char} (hopen : c ≠ '[') (hclose : c ≠ ']')
    (hc : r.skip.rest.head? = some c) (hc' : r'.skip.rest.head? = some c)
    (hop : op? r.skip = none) (hop' : op? r'.skip = none) :
    Alike (Beside P SamePattern n) Prompt (bracketLoop (fuel + 1) stack u r)
      (bracketLoop (fuel' + 1) stack' u' r') := by
  rw [bracketLoop_of_item hc hopen hclose hop, bracketLoop_of_item hc' hopen hclose hop']
  refine (alike_classRange h (Reader.ne_of_head hc) hm stack stack').bind ?_ ?_
  · rintro ⟨set, s⟩ ⟨set', s'⟩ ⟨hset, hs, hlength⟩
    exact hnext hs hlength hstack (hu.push hset)
  · rintro ⟨set, s⟩ hs f
    exact (vain_bracketLoop fuel' _ _ ((Reader.rest_skip_suffix s).trans hs)).alike f

/-- A turn of both readings. -/
theorem alike_turn (hmn : m ≤ n) {c : Char} (hc : r.skip.rest.head? = some c)
    (hc' : r'.skip.rest.head? = some c) :
    Alike (Beside P SamePattern n) Prompt (bracketLoop (fuel + 1) stack u r)
      (bracketLoop (fuel' + 1) stack' u' r') := by
  have hop' := op_eq h (Reader.ne_of_head hc)
  by_cases hopen : c = '['
  · subst hopen
    exact alike_openTurn h hm hnext hstack hu hc hc'
  · by_cases hclose : c = ']'
    · subst hclose
      exact alike_closeTurn h hm hnext hstack hu hmn hc hc'
    · cases hop : op? r.skip with
      | some op => exact alike_opTurn h hm hnext hstack hu hop (hop'.trans hop)
      | none => exact alike_itemTurn h hm hnext hstack hu hopen hclose hc hc' hop (hop'.trans hop)

end Turns

/-- A class that is read in the group is the same but for spans, and it is closed in the pattern. -/
theorem alike_bracketLoop {fuel fuel' n : Nat} (h : Enclosed P r r') (hfuel : r.rest.length < fuel)
    (hfuel' : r'.rest.length < fuel') (hn : r.rest.length ≤ n + 1) {stack stack' : List OpenClass}
    (hstack : SameOpen stack stack') {u u' : Union} (hu : SameUnion u u') :
    Alike (Beside P SamePattern n) Prompt (bracketLoop fuel stack u r)
      (bracketLoop fuel' stack' u' r') := by
  induction fuel generalizing fuel' r r' stack stack' u u' with
  | zero => exact absurd hfuel (Nat.not_lt_zero _)
  | succ fuel ih =>
    obtain ⟨fuel', rfl⟩ := Nat.exists_eq_succ_of_ne_zero (Nat.ne_zero_of_lt hfuel')
    have hskip := h.skip
    have hlength := (Reader.rest_skip_suffix r).length_le
    have hlength' := (Reader.rest_skip_suffix r').length_le
    obtain ⟨f, hf⟩ := faultUnclosed_run (α := Pattern) stack r.skip
    rcases hskip.cases with ⟨⟨c, hc, hc'⟩, hne, hne'⟩ | ⟨hend, hend'⟩ | ⟨hend, hend'⟩
    · obtain ⟨m, hm⟩ := Nat.exists_eq_add_of_le' (List.length_pos_iff.2 hne)
      -- A turn leaves less in front of both readers, so that the next one has fuel.
      have hnext : Closes P n m fuel fuel' := fun t t' ht hle stack stack' hstack u u' hu ↦ by
        have hlt' := hskip.length_lt ht (by omega)
        exact ih ht (by omega) (by omega) (by omega) hstack hu
      exact alike_turn hskip (Nat.le_of_eq hm) hnext hstack hu (by omega) hc hc'
    · rw [bracketLoop_of_end hend, hf]
      exact (vain_bracketLoop (fuel' + 1) stack' u' (suffix_behind hend')).alike f
    · obtain ⟨f', hf'⟩ := faultUnclosed_run (α := Pattern) stack' r'.skip
      rw [bracketLoop_of_end hend, hf, bracketLoop_of_end hend', hf']
      exact .error f f'

theorem alike_bracket (h : Enclosed P r r') {n : Nat} (hn : r.rest.length ≤ n + 1) :
    Alike (Beside P SamePattern n) Prompt (bracket r) (bracket r') := by
  rw [bracket, pos_bind, pos_bind, get_bind, get_bind]
  exact alike_bracketLoop h (Nat.lt_succ_self _) (Nat.lt_succ_self _) hn rfl rfl

end Read

end LineShell.Regex
