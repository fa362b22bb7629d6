import LineShell.Application.Search
import LineShell.Proofs.Regex.EnclosedPatterns
import LineShell.Proofs.Regex.Search

/-!
# A pattern between word boundaries

`grep` looks for whole words by looking for `\b(P)\b` in place of a pattern `P`, put together as
texts. If both patterns are accepted the second one matches between two places of a text exactly if
`P` does and both places are at the boundary of a word (`alike_sense`): flags that `P` sets end with
the group, alternatives stay in it, and that its groups have other numbers changes no match
(`Expr.matches_renumber`).

`restricts_compile` says what becomes of the two patterns in all cases, and in which cases only one
of them is accepted. The group counts for the nesting (`isSome_tooDeep_of_wrapped`); the other cases
are about the reading of the two texts (`outcome_wholeWords`). That a matcher may be of any size is
assumed (`Matcher.compile`).
-/

namespace LineShell.Regex

open Application Read

/-! ### Nesting -/

theorem isSome_orElse {α : Type} (x y : Option α) : (x <|> y).isSome = (x.isSome || y.isSome) := by
  cases x <;> rfl

mutual

theorem ClassSet.isSome_tooDeep_bare (room : Nat) (s : ClassSet) :
    (s.bare.tooDeep? room).isSome = (s.tooDeep? room).isSome := by
  cases s with
  | bracketed span negated set =>
    cases room with
    | zero => rfl
    | succ room => exact ClassSet.isSome_tooDeep_bare room set
  | union span items =>
    cases room with
    | zero => rfl
    | succ room => exact ClassSet.isSome_anyTooDeep_bare room items
  | operation span op left right =>
    cases room with
    | zero => rfl
    | succ room =>
      show (left.bare.tooDeep? room <|> right.bare.tooDeep? room).isSome =
        (left.tooDeep? room <|> right.tooDeep? room).isSome
      rw [isSome_orElse, isSome_orElse, ClassSet.isSome_tooDeep_bare room left,
        ClassSet.isSome_tooDeep_bare room right]
  | _ => rfl

theorem ClassSet.isSome_anyTooDeep_bare (room : Nat) (items : List ClassSet) :
    (ClassSet.anyTooDeep? room (ClassSet.bareEach items)).isSome =
      (ClassSet.anyTooDeep? room items).isSome := by
  cases items with
  | nil => rfl
  | cons item items =>
    rw [ClassSet.bareEach, ClassSet.anyTooDeep?, ClassSet.anyTooDeep?, isSome_orElse, isSome_orElse,
      ClassSet.isSome_tooDeep_bare room item, ClassSet.isSome_anyTooDeep_bare room items]

end

namespace Pattern

mutual

/-- Spans and numbers of groups do not count for the nesting. -/
theorem isSome_tooDeep_bare (k room : Nat) (p : Pattern) :
    ((p.bare k).tooDeep? room).isSome = (p.tooDeep? room).isSome := by
  cases p with
  | bracket span negated set =>
    cases room with
    | zero => rfl
    | succ room => exact set.isSome_tooDeep_bare room
  | repetition span least most greedy body =>
    cases room with
    | zero => rfl
    | succ room => exact isSome_tooDeep_bare k room body
  | group span kind body =>
    cases room with
    | zero => rfl
    | succ room => exact isSome_tooDeep_bare k room body
  | alternation span branches =>
    cases room with
    | zero => rfl
    | succ room => exact isSome_anyTooDeep_bare k room branches
  | concat span parts =>
    cases room with
    | zero => rfl
    | succ room => exact isSome_anyTooDeep_bare k room parts
  | _ => rfl

theorem isSome_anyTooDeep_bare (k room : Nat) (ps : List Pattern) :
    (anyTooDeep? room (bareEach k ps)).isSome = (anyTooDeep? room ps).isSome := by
  cases ps with
  | nil => rfl
  | cons p ps =>
    rw [bareEach, anyTooDeep?, anyTooDeep?, isSome_orElse, isSome_orElse,
      isSome_tooDeep_bare k room p, isSome_anyTooDeep_bare k room ps]

end

end Pattern

/-! What does not fit in more room does not fit in less. -/

mutual

theorem ClassSet.isSome_tooDeep_of_succ {room : Nat} {s : ClassSet}
    (h : (s.tooDeep? (room + 1)).isSome = true) : (s.tooDeep? room).isSome = true := by
  cases room with
  | zero => cases s <;> first | rfl | exact h
  | succ room =>
    cases s with
    | bracketed span negated set => exact ClassSet.isSome_tooDeep_of_succ (s := set) h
    | union span items => exact ClassSet.isSome_anyTooDeep_of_succ h
    | operation span op left right =>
      have h : (left.tooDeep? (room + 1) <|> right.tooDeep? (room + 1)).isSome = true := h
      show (left.tooDeep? room <|> right.tooDeep? room).isSome = true
      rw [isSome_orElse, Bool.or_eq_true] at h ⊢
      exact h.imp ClassSet.isSome_tooDeep_of_succ ClassSet.isSome_tooDeep_of_succ
    | _ => exact h

theorem ClassSet.isSome_anyTooDeep_of_succ {room : Nat} {items : List ClassSet}
    (h : (ClassSet.anyTooDeep? (room + 1) items).isSome = true) :
    (ClassSet.anyTooDeep? room items).isSome = true := by
  cases items with
  | nil => exact h
  | cons item items =>
    rw [ClassSet.anyTooDeep?, isSome_orElse, Bool.or_eq_true] at h ⊢
    exact h.imp ClassSet.isSome_tooDeep_of_succ ClassSet.isSome_anyTooDeep_of_succ

end

namespace Pattern

mutual

theorem isSome_tooDeep_of_succ {room : Nat} {p : Pattern}
    (h : (p.tooDeep? (room + 1)).isSome = true) : (p.tooDeep? room).isSome = true := by
  cases room with
  | zero => cases p <;> first | rfl | exact h
  | succ room =>
    cases p with
    | bracket span negated set => exact ClassSet.isSome_tooDeep_of_succ (s := set) h
    | repetition span least most greedy body => exact isSome_tooDeep_of_succ (p := body) h
    | group span kind body => exact isSome_tooDeep_of_succ (p := body) h
    | alternation span branches => exact isSome_anyTooDeep_of_succ h
    | concat span parts => exact isSome_anyTooDeep_of_succ h
    | _ => exact h

theorem isSome_anyTooDeep_of_succ {room : Nat} {ps : List Pattern}
    (h : (anyTooDeep? (room + 1) ps).isSome = true) : (anyTooDeep? room ps).isSome = true := by
  cases ps with
  | nil => exact h
  | cons p ps =>
    rw [anyTooDeep?, isSome_orElse, Bool.or_eq_true] at h ⊢
    exact h.imp isSome_tooDeep_of_succ isSome_anyTooDeep_of_succ

end

end Pattern

/-! ### Reading -/

/-- The reading of a whole pattern begins so. -/
def readFrom (t : Text) : Except Fault (Pattern × Reader) :=
  patternLoop (t.length + 1) [] ⟨⟨.start, .start⟩, []⟩ ⟨t, .start, false, 0, []⟩

theorem read_eq (t : Text) : Pattern.read t = readFrom t >>= fun z ↦
    match z.1.tooDeep? nestLimit with
    | some span => .error ⟨.nestedTooDeep, span, none⟩
    | none => .ok ⟨z.1, z.2.groups, z.2.names.map fun n ↦ (n.1, n.2.1)⟩ := by
  rw [Pattern.read]
  show readFrom t >>= _ = _
  refine congrArg (readFrom t >>= ·) (funext fun z ↦ ?_)
  obtain ⟨p, r⟩ := z
  dsimp only
  cases p.tooDeep? nestLimit <;> rfl

theorem wholeWords_eq (P : Text) : wholeWords P = '\\' :: 'b' :: '(' :: (P ++ behind) := rfl

/-- A mark in front of a pattern has nothing to repeat. -/
theorem readFrom_of_mark {P : Text} (h : P.head? = some '?') :
    ∃ f, readFrom P = .error f ∧ f.kind = .repetitionMissing := by
  obtain ⟨u, rfl⟩ := List.head?_eq_some_iff.1 h
  exact ⟨_, rfl, rfl⟩

theorem bumpIf_of_head {r : Reader} {c : Char} {t : Text} (h : r.rest.head? ≠ some c) :
    bumpIf (c :: t) r = .ok (false, r) := by
  have hprefix : (c :: t).isPrefixOf r.rest = false := by
    cases hrest : r.rest with
    | nil => rfl
    | cons d u =>
      have hne : c ≠ d := fun heq ↦ h (by rw [hrest, heq]; rfl)
      rw [List.isPrefixOf_cons_cons, beq_false_of_ne hne, Bool.false_and]
  rw [bumpIf, get_bind, hprefix]
  rfl

theorem bumpIfAny_of_head {r : Reader} {c : Char} (h : r.rest.head? ≠ some c) (ts : List String)
    (hts : ∀ t ∈ ts, t.toList.head? = some c) : bumpIfAny ts r = .ok (false, r) := by
  induction ts with
  | nil => rfl
  | cons t ts ih =>
    obtain ⟨u, hu⟩ := List.head?_eq_some_iff.1 (hts t List.mem_cons_self)
    rw [bumpIfAny, hu, bind_of_ok _ (bumpIf_of_head h)]
    exact ih fun t ht ↦ hts t (List.mem_cons_of_mem _ ht)

/-- A parenthesis with no mark behind it opens a capture group. -/
theorem opening_of_capture {r : Reader} (h : r.passOver.rest.head? ≠ some '?') :
    opening r = .ok (.group ⟨r.pos, r.pass.pos⟩ (.capture (r.passOver.groups + 1)),
      { r.passOver with groups := r.passOver.groups + 1 }) := by
  have haround := bumpIfAny_of_head h ["?=", "?!", "?<=", "?<!"] (by decide)
  have hnamed := bumpIfAny_of_head h ["?P<", "?<"] (by decide)
  have hmarked : bumpIf "?".toList r.passOver = .ok (false, r.passOver) := bumpIf_of_head h
  rw [opening, charSpan_bind, bump_bind, skipBlanks_bind]
  show (bumpIfAny ["?=", "?!", "?<=", "?<!"] >>= _) r.passOver = _
  rw [bind_of_ok _ haround, if_neg (by decide)]
  dsimp only
  rw [pos_bind, bind_of_ok _ hnamed, if_neg (by decide),
    bind_of_ok _ hmarked]
  rfl

/-- **The reading of a pattern between word boundaries** comes to what the reading of the pattern by
itself comes to. -/
theorem outcome_wholeWords {P : Text} (h : P.head? ≠ some '?') :
    Outcome P (readFrom P) (readFrom (wholeWords P)) := by
  have hhead : (P ++ behind).head? ≠ some '?' := by
    cases P with
    | nil => decide
    | cons c P => exact h
  -- Behind `\b(` the second reader stands in front of the pattern too, in one group.
  obtain ⟨span₀, span, start, pos, hopened⟩ : ∃ span₀ span start pos, readFrom (wholeWords P) =
      patternLoop (P.length + 5) [around span₀ span start] ⟨⟨pos, pos⟩, []⟩
        ⟨P ++ behind, pos, false, 1, []⟩ := by
    have hfuel : (wholeWords P).length + 1 = P.length + 7 := by
      simp [wholeWords_eq, behind]
    obtain ⟨edge, pos, hpiece⟩ : ∃ edge pos,
        primitive '\\' ⟨'\\' :: 'b' :: '(' :: (P ++ behind), .start, false, 0, []⟩ =
          .ok (.assertion edge (.word .boundary), ⟨'(' :: (P ++ behind), pos, false, 0, []⟩) :=
      ⟨_, _, rfl⟩
    have hgroup : opening ⟨'(' :: (P ++ behind), pos, false, 0, []⟩ =
        .ok (.group ⟨pos, pos.next '('⟩ (.capture 1), ⟨P ++ behind, pos.next '(', false, 1, []⟩) :=
      opening_of_capture hhead
    refine ⟨⟨.start, .start⟩, ⟨pos, pos.next '('⟩, edge, pos.next '(', ?_⟩
    rw [readFrom, hfuel, wholeWords_eq, patternLoop_of_piece rfl (by simp [IsSign])]
    refine (congrArg (· >>= _) hpiece).trans ?_
    refine (patternLoop_of_open (r := ⟨'(' :: (P ++ behind), pos, false, 0, []⟩) rfl
      (P.length + 5) [] _).trans ?_
    exact congrArg (· >>= _) hgroup
  have henclosed : Enclosed P ⟨P, .start, false, 0, []⟩ ⟨P ++ behind, pos, false, 1, []⟩ :=
    ⟨List.suffix_refl P, .inl rfl, rfl, Bool.noConfusion, rfl, rfl⟩
  rw [hopened]
  exact outcome_patternLoop henclosed (Nat.lt_succ_self _) (by simp [behind])
    (.bottom span₀ span start) rfl

/-! ### Meaning -/

/-- The expression matches in a text between the two places. -/
def Expr.MatchesIn (e : Expr) (t : Text) (p q : Place) : Prop :=
  (∃ k, p = (Place.start t).skip k) ∧ e.Matches p q

/-- The place is at the boundary of a word. -/
def Place.AtBoundary (p : Place) : Prop := (Look.word .boundary true).holds p = true

/-- The pattern is accepted, and this is its expression. -/
def Means (ignoreCase : Bool) (P : Text) (e : Expr) : Prop :=
  ∃ reading flags, Pattern.read P = .ok reading ∧
    reading.pattern.sense.run { ignoreCase } = .ok (e, flags)

theorem compile_eq (ignoreCase : Bool) (P : Text) : Matcher.compile ignoreCase P =
    Pattern.read P >>= fun reading ↦ reading.pattern.sense.run { ignoreCase } >>= fun z ↦
      .ok ⟨z.1.program, reading.groups, reading.names⟩ := rfl

theorem run_sense_boundaries (f : Flags) (p : Pattern) :
    (Pattern.sense (.concat .nowhere [.assertion .nowhere (.word .boundary),
      .group .nowhere (.capture 1) p, .assertion .nowhere (.word .boundary)])).run f =
      p.sense.run f >>= fun z ↦ .ok (.concat [.look (.word .boundary f.unicode), .capture 1 z.1,
        .look (.word .boundary f.unicode)], f) := by
  simp only [Pattern.sense, Pattern.senseEach, StateT.run_bind, StateT.run_pure, bind_assoc,
    pure_bind]
  show (p.sense.run f >>= fun z ↦ _) = _
  cases p.sense.run f <;> rfl

/-- What the meanings of a pattern and of the pattern between boundaries come to. -/
theorem alike_sense {p p' : Pattern} (h : Wrapped p p') (f : Flags) :
    Alike (fun x y : Expr × Flags ↦ y.1.Matches = fun a b ↦
        (Look.word .boundary f.unicode).holds a = true ∧ x.1.Matches a b ∧
          (Look.word .boundary f.unicode).holds b = true) Prompt
      (p.sense.run f) (p'.sense.run f) := by
  have hbody := Pattern.sense_bare 1 p f
  have hwhole := Pattern.sense_bare 0 p' f
  rw [h, run_sense_boundaries] at hwhole
  generalize p.sense.run f = x at hbody ⊢
  generalize (p.bare 1).sense.run f = body at hbody hwhole
  generalize p'.sense.run f = y at hwhole ⊢
  cases hbody with
  | error fault fault' =>
    cases hwhole with
    | error => exact .error _ _
  | late fault hlate => exact hlate.elim
  | @ok x body hbody =>
    subst hbody
    cases hwhole with
    | late fault hlate => exact hlate.elim
    | @ok y _ hwhole =>
      have hexpr : Expr.concat [.look (.word .boundary f.unicode),
          .capture 1 (x.1.renumber 1), .look (.word .boundary f.unicode)] = y.1.renumber 0 :=
        congrArg Prod.fst hwhole
      refine .ok (funext fun a ↦ funext fun b ↦ propext ?_)
      rw [← Expr.matches_renumber 0 y.1, ← hexpr]
      simp only [Expr.Matches, Expr.MatchesAll, Expr.matches_renumber]
      constructor
      · rintro ⟨_, ⟨hfront, rfl⟩, c, hmatch, _, ⟨hback, rfl⟩, rfl⟩
        exact ⟨hfront, hmatch, hback⟩
      · rintro ⟨hfront, hmatch, hback⟩
        exact ⟨a, ⟨hfront, rfl⟩, b, hmatch, b, ⟨hback, rfl⟩, rfl⟩

/-- What becomes of a pattern by itself and of the pattern between word boundaries. -/
inductive Restricts (ignoreCase : Bool) (P : Text) :
    Except Fault Matcher → Except Fault Matcher → Prop where
  /-- The second one matches where a match of the first one is between word boundaries. -/
  | both {e : Expr} {m m' : Matcher} (hmeans : Means ignoreCase P e)
      (h : ∀ t, m.isMatch t = true ↔ ∃ p q, e.MatchesIn t p q)
      (h' : ∀ t, m'.isMatch t = true ↔ ∃ p q, e.MatchesIn t p q ∧ p.AtBoundary ∧ q.AtBoundary) :
    Restricts ignoreCase P (.ok m) (.ok m')
  | neither (f f' : Fault) : Restricts ignoreCase P (.error f) (.error f')
  /-- The group nests too deep, or a comment takes the end of it. -/
  | first (m : Matcher) {f : Fault}
      (h : f.kind = .nestedTooDeep ∨ (f.kind = .groupUnclosed ∧ EndsInComment P)) :
    Restricts ignoreCase P (.ok m) (.error f)
  /-- A parenthesis of the pattern closes the group, or a mark changes it. -/
  | second {f : Fault} (m : Matcher) (h : f.kind = .groupUnopened ∨ P.head? = some '?') :
    Restricts ignoreCase P (.error f) (.ok m)

/-- The group and what it stands in take two levels. -/
theorem isSome_tooDeep_of_wrapped {p p' : Pattern} (h : Wrapped p p') (room : Nat) :
    (p'.tooDeep? (room + 2)).isSome = (p.tooDeep? room).isSome := by
  rw [← Pattern.isSome_tooDeep_bare 0, h, ← Pattern.isSome_tooDeep_bare 1 room p]
  show (none <|> (p.bare 1).tooDeep? room <|> none <|> none).isSome = _
  rw [isSome_orElse, isSome_orElse, Option.isSome_none, Bool.false_or, isSome_orElse,
    Option.isSome_none, Bool.or_false, Bool.or_false]

/-- A pattern that is read and does not nest too deep is compiled if it has a meaning. -/
theorem compile_of_read {P : Text} {p : Pattern} {s : Reader}
    (hread : readFrom P = .ok (p, s)) (hfits : p.tooDeep? nestLimit = none) (ignoreCase : Bool) :
    ∃ groups names, Pattern.read P = .ok ⟨p, groups, names⟩ ∧
      Matcher.compile ignoreCase P = p.sense.run { ignoreCase } >>= fun z ↦
        .ok ⟨z.1.program, groups, names⟩ := by
  have hreading : Pattern.read P = .ok ⟨p, s.groups, s.names.map fun n ↦ (n.1, n.2.1)⟩ := by
    rw [read_eq, hread]
    show (match p.tooDeep? nestLimit with | some span => _ | none => _) = _
    rw [hfits]
  exact ⟨_, _, hreading, by rw [compile_eq, hreading]; rfl⟩

theorem compile_of_tooDeep {P : Text} {p : Pattern} {s : Reader}
    (hread : readFrom P = .ok (p, s)) (hdeep : (p.tooDeep? nestLimit).isSome = true)
    (ignoreCase : Bool) :
    ∃ f, Matcher.compile ignoreCase P = .error f ∧ f.kind = .nestedTooDeep := by
  obtain ⟨span, hspan⟩ := Option.isSome_iff_exists.1 hdeep
  refine ⟨⟨.nestedTooDeep, span, none⟩, ?_, rfl⟩
  rw [compile_eq, read_eq, hread]
  show (match p.tooDeep? nestLimit with | some span => _ | none => _) >>= _ = _
  rw [hspan]
  rfl

theorem compile_of_error {P : Text} {f : Fault} (hread : readFrom P = .error f)
    (ignoreCase : Bool) : Matcher.compile ignoreCase P = .error f := by
  rw [compile_eq, read_eq, hread]
  rfl

section Restricts

variable {ignoreCase : Bool} {P : Text} {f : Fault}

theorem Restricts.of_first
    (hf : f.kind = .nestedTooDeep ∨ (f.kind = .groupUnclosed ∧ EndsInComment P))
    (x : Except Fault Matcher) : Restricts ignoreCase P x (.error f) := by
  cases x with
  | error f' => exact .neither f' f
  | ok m => exact .first m hf

theorem Restricts.of_second (hf : f.kind = .groupUnopened ∨ P.head? = some '?')
    (x : Except Fault Matcher) : Restricts ignoreCase P (.error f) x := by
  cases x with
  | error f' => exact .neither f f'
  | ok m => exact .second m hf

/-- Two expressions of which one is the other one between boundaries. -/
theorem restricts_programs {e e' : Expr} (hmeans : Means ignoreCase P e)
    (he' : e'.Matches = fun p q ↦ p.AtBoundary ∧ e.Matches p q ∧ q.AtBoundary)
    (groups groups' : Nat) (names names' : List (Text × Nat)) :
    Restricts ignoreCase P (.ok ⟨e.program, groups, names⟩)
      (.ok ⟨e'.program, groups', names'⟩) := by
  refine .both (e := e) hmeans (fun t ↦ ?_) fun t ↦ ?_
  · rw [Matcher.isMatch_iff]
    constructor
    · rintro ⟨k, q, h⟩
      exact ⟨_, q, ⟨k, rfl⟩, h⟩
    · rintro ⟨_, q, ⟨k, rfl⟩, h⟩
      exact ⟨k, q, h⟩
  · rw [Matcher.isMatch_iff, he']
    constructor
    · rintro ⟨k, q, hfront, h, hback⟩
      exact ⟨_, q, ⟨⟨k, rfl⟩, h⟩, hfront, hback⟩
    · rintro ⟨_, q, ⟨⟨k, rfl⟩, h⟩, hfront, hback⟩
      exact ⟨k, q, hfront, h, hback⟩

/-- What becomes of a pattern that is read, and of what it is read as in the group. -/
theorem restricts_of_read {p p' : Pattern} {s s' : Reader} (hread : readFrom P = .ok (p, s))
    (hread' : readFrom (wholeWords P) = .ok (p', s')) (hwrapped : Wrapped p p') :
    Restricts ignoreCase P (Matcher.compile ignoreCase P)
      (Matcher.compile ignoreCase (wholeWords P)) := by
  cases hdeep : (p'.tooDeep? nestLimit).isSome with
  | true =>
    obtain ⟨f, hcompile, hf⟩ := compile_of_tooDeep hread' hdeep ignoreCase
    rw [hcompile]
    exact .of_first (.inl hf) _
  | false =>
    -- What fits in the group fits without it.
    have hfits : p.tooDeep? nestLimit = none := by
      rw [show nestLimit = 248 + 2 from rfl, isSome_tooDeep_of_wrapped hwrapped,
        ← Bool.not_eq_true] at hdeep
      exact Option.not_isSome_iff_eq_none.1 fun h ↦
        hdeep (Pattern.isSome_tooDeep_of_succ (Pattern.isSome_tooDeep_of_succ h))
    have hfits' : p'.tooDeep? nestLimit = none :=
      Option.not_isSome_iff_eq_none.1 (Bool.not_eq_true _ ▸ hdeep)
    obtain ⟨groups, names, hreading, hcompile⟩ := compile_of_read hread hfits ignoreCase
    obtain ⟨groups', names', -, hcompile'⟩ := compile_of_read hread' hfits' ignoreCase
    have hsense := alike_sense hwrapped { ignoreCase }
    rw [hcompile, hcompile']
    generalize hmeaning : p.sense.run { ignoreCase } = z at hsense
    generalize p'.sense.run { ignoreCase } = z' at hsense
    cases hsense with
    | error f f' => exact .neither f f'
    | late f hlate => exact hlate.elim
    | ok hmatches =>
      exact restricts_programs ⟨_, _, hreading, hmeaning⟩ hmatches groups groups' names names'

end Restricts

/-- **A pattern between word boundaries** matches where the pattern matches between word boundaries;
the cases in which one of the two is not accepted are told apart. -/
theorem restricts_compile (ignoreCase : Bool) (P : Text) :
    Restricts ignoreCase P (Matcher.compile ignoreCase P)
      (Matcher.compile ignoreCase (wholeWords P)) := by
  by_cases hmark : P.head? = some '?'
  · obtain ⟨f, hread, -⟩ := readFrom_of_mark hmark
    rw [compile_of_error hread]
    exact .of_second (.inr hmark) _
  · have houtcome := outcome_wholeWords hmark
    generalize hread : readFrom P = x at houtcome
    generalize hread' : readFrom (wholeWords P) = x' at houtcome
    cases houtcome with
    | comment z hcomment hf =>
      rw [compile_of_error hread']
      exact .of_first (.inr ⟨hf, hcomment⟩) _
    | refused f f' =>
      rw [compile_of_error hread, compile_of_error hread']
      exact .neither f f'
    | unopened hf =>
      rw [compile_of_error hread]
      exact .of_second (.inl hf) _
    | read s s' hwrapped => exact restricts_of_read hread hread' hwrapped

end LineShell.Regex
