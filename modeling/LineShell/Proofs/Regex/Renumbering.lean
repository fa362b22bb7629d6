import LineShell.Proofs.Regex.Execution
import LineShell.Regex.Meaning

/-!
# Spans and numbers of groups

Where a pattern stands in a text, and how many capture groups are opened in front of it, has no part
in what it matches. `Pattern.bare k` leaves the spans out and counts `k` groups in front; the
expression of the pattern that it gives differs from that of the original only in the numbers of the
captures (`Pattern.sense_bare`), and these do not count in a match (`Expr.matches_renumber`). If a
pattern is refused so is the other; the faults may differ, in their spans.

That two results agree in this sense is `Alike`. It allows for a second result that comes late,
where the first one is a fault already; with nothing late both results are faults or neither is.
-/

namespace LineShell.Regex

/-! ### Results side by side -/

/-- Both are results that are related, both are faults, or the second is a result that comes
late. -/
inductive Alike {α β : Type} (R : α → β → Prop) (late : β → Prop) :
    Except Fault α → Except Fault β → Prop where
  | ok {a : α} {b : β} (h : R a b) : Alike R late (.ok a) (.ok b)
  | error (f g : Fault) : Alike R late (.error f) (.error g)
  | late (f : Fault) {b : β} (h : late b) : Alike R late (.error f) (.ok b)

/-- Nothing comes late. -/
abbrev Prompt {β : Type} : β → Prop := fun _ ↦ False

namespace Alike

variable {α β γ δ : Type} {R : α → β → Prop} {S : γ → δ → Prop} {late : β → Prop}
  {late' : δ → Prop} {x : Except Fault α} {y : Except Fault β}

theorem bind {g : α → Except Fault γ} {h : β → Except Fault δ} (hxy : Alike R late x y)
    (hok : ∀ a b, R a b → Alike S late' (g a) (h b))
    (hlate : ∀ b, late b → ∀ f, Alike S late' (.error f) (h b)) :
    Alike S late' (x >>= g) (y >>= h) := by
  cases hxy with
  | ok hab => exact hok _ _ hab
  | error f f' => exact .error f f'
  | late f hb => exact hlate _ hb f

theorem bind_prompt {g : α → Except Fault γ} {h : β → Except Fault δ} (hxy : Alike R Prompt x y)
    (hok : ∀ a b, R a b → Alike S late' (g a) (h b)) : Alike S late' (x >>= g) (y >>= h) :=
  hxy.bind hok fun _ ↦ False.elim

theorem map {g : α → γ} {h : β → δ} (hxy : Alike R Prompt x y)
    (hok : ∀ a b, R a b → S (g a) (h b)) : Alike S Prompt (x.map g) (y.map h) := by
  cases hxy with
  | ok hab => exact .ok (hok _ _ hab)
  | error f f' => exact .error f f'
  | late f hb => exact hb.elim

theorem imp {R' : α → β → Prop} {late' : β → Prop} (hxy : Alike R late x y)
    (hR : ∀ a b, R a b → R' a b) (hlate : ∀ b, late b → late' b) : Alike R' late' x y := by
  cases hxy with
  | ok hab => exact .ok (hR _ _ hab)
  | error f f' => exact .error f f'
  | late f hb => exact .late f (hlate _ hb)

theorem of_prompt (hxy : Alike R Prompt x y) : Alike R late x y :=
  hxy.imp (fun _ _ ↦ id) fun _ ↦ False.elim

end Alike

/-! ### Expressions -/

namespace Expr

mutual

/-- The expression with the numbers of the captures greater by `k`. -/
def renumber (k : Nat) : Expr → Expr
  | empty => empty
  | literal t => literal t
  | set bytes s => set bytes s
  | look l => look l
  | repetition least most greedy body => repetition least most greedy (body.renumber k)
  | capture index body => capture (index + k) (body.renumber k)
  | concat parts => concat (renumberEach k parts)
  | alternation branches => alternation (renumberEach k branches)

/-- The expressions with the numbers of the captures greater by `k`. -/
def renumberEach (k : Nat) : List Expr → List Expr
  | [] => []
  | e :: rest => e.renumber k :: renumberEach k rest

end

variable {k : Nat}

theorem renumberEach_eq_map (k : Nat) (es : List Expr) :
    renumberEach k es = es.map (renumber k) := by
  induction es with
  | nil => rfl
  | cons e rest ih => rw [renumberEach, ih, List.map_cons]

theorem renumber_concat (parts : List Expr) :
    (concat parts).renumber k = concat (parts.map (renumber k)) := by
  rw [renumber, renumberEach_eq_map]

theorem renumber_alternation (branches : List Expr) :
    (alternation branches).renumber k = alternation (branches.map (renumber k)) := by
  rw [renumber, renumberEach_eq_map]

mutual

/-- **The numbers of captures do not count in a match.** -/
theorem matches_renumber (k : Nat) (e : Expr) : (e.renumber k).Matches = e.Matches := by
  cases e with
  | repetition least most greedy body =>
    rw [renumber, Matches, Matches, matches_renumber k body]
  | capture index body => exact matches_renumber k body
  | concat parts => exact matchesAll_renumberEach k parts
  | alternation branches => exact matchesAny_renumberEach k branches
  | _ => rfl

theorem matchesAll_renumberEach (k : Nat) (es : List Expr) :
    MatchesAll (renumberEach k es) = MatchesAll es := by
  cases es with
  | nil => rfl
  | cons e rest =>
    rw [renumberEach, MatchesAll, MatchesAll, matches_renumber k e, matchesAll_renumberEach k rest]

theorem matchesAny_renumberEach (k : Nat) (es : List Expr) :
    MatchesAny (renumberEach k es) = MatchesAny es := by
  cases es with
  | nil => rfl
  | cons e rest =>
    rw [renumberEach, MatchesAny, MatchesAny, matches_renumber k e, matchesAny_renumberEach k rest]

end

mutual

theorem greatest?_renumber (k : Nat) (e : Expr) : (e.renumber k).greatest? = e.greatest? := by
  cases e with
  | repetition least most greedy body =>
    rw [renumber, greatest?, greatest?, greatest?_renumber k body]
  | capture index body => exact greatest?_renumber k body
  | concat parts => rw [renumber, greatest?, greatest?, greatestOfEach_renumberEach k parts]
  | alternation branches =>
    rw [renumber, greatest?, greatest?, greatestOfEach_renumberEach k branches]
  | _ => rfl

theorem greatestOfEach_renumberEach (k : Nat) (es : List Expr) :
    greatestOfEach (renumberEach k es) = greatestOfEach es := by
  cases es with
  | nil => rfl
  | cons e rest =>
    rw [renumberEach, greatestOfEach, greatestOfEach, greatest?_renumber k e,
      greatestOfEach_renumberEach k rest]

end

mutual

theorem beq_renumber (k : Nat) (e e' : Expr) : beq (e.renumber k) (e'.renumber k) = beq e e' := by
  cases e with
  | repetition least most greedy body =>
    cases e' with
    | repetition least' most' greedy' body' =>
      rw [renumber, renumber, beq, beq, beq_renumber k body body']
    | _ => rfl
  | capture index body =>
    cases e' with
    | capture index' body' =>
      have hindex : (index + k == index' + k) = (index == index') := by
        rw [Bool.eq_iff_iff, beq_iff_eq, beq_iff_eq, Nat.add_right_cancel_iff]
      rw [renumber, renumber, beq, beq, beq_renumber k body body', hindex]
    | _ => rfl
  | concat parts =>
    cases e' with
    | concat parts' => exact beqAll_renumberEach k parts parts'
    | _ => rfl
  | alternation branches =>
    cases e' with
    | alternation branches' => exact beqAll_renumberEach k branches branches'
    | _ => rfl
  | _ => cases e' <;> rfl

theorem beqAll_renumberEach (k : Nat) (es es' : List Expr) :
    beqAll (renumberEach k es) (renumberEach k es') = beqAll es es' := by
  cases es with
  | nil => cases es' <;> rfl
  | cons e rest =>
    cases es' with
    | nil => rfl
    | cons e' rest' =>
      rw [renumberEach, renumberEach, beqAll, beqAll, beq_renumber k e e',
        beqAll_renumberEach k rest rest']

end

/-! The constructors that keep expressions simple do not look at the numbers. -/

theorem renumber_times (least : Nat) (most : Option Nat) (greedy : Bool) (body : Expr) :
    (times least most greedy body).renumber k = times least most greedy (body.renumber k) := by
  rw [times, times, greatest?_renumber]
  simp only [apply_ite (renumber k)]
  rfl

theorem renumber_ofSet (bytes : Bool) (s : CharSet) :
    (ofSet bytes s).renumber k = ofSet bytes s := by
  rw [ofSet]
  split
  · rfl
  · split <;> rfl

theorem flatMap_renumber {f : Expr → List Expr}
    (hf : ∀ e, f (e.renumber k) = (f e).map (renumber k)) (es : List Expr) :
    (es.map (renumber k)).flatMap f = (es.flatMap f).map (renumber k) := by
  rw [List.flatMap_map, List.map_flatMap]
  exact congrArg (es.flatMap ·) (funext hf)

theorem partsOf_renumber (e : Expr) : partsOf (e.renumber k) = (partsOf e).map (renumber k) := by
  cases e with
  | concat parts => rw [renumber_concat, partsOf, partsOf]
  | _ => rfl

theorem branchesOf_renumber (e : Expr) :
    branchesOf (e.renumber k) = (branchesOf e).map (renumber k) := by
  cases e with
  | alternation branches => rw [renumber_alternation, branchesOf, branchesOf]
  | _ => rfl

theorem joinText_renumber (e : Expr) (rest : List Expr) :
    joinText (e.renumber k) (rest.map (renumber k)) = (joinText e rest).map (renumber k) := by
  cases e with
  | literal t =>
    cases rest with
    | nil => rfl
    | cons e' rest => cases e' <;> rfl
  | _ => rfl

theorem renumber_inOrder (parts : List Expr) :
    (inOrder parts).renumber k = inOrder (parts.map (renumber k)) := by
  have hjoin (es : List Expr) : (es.map (renumber k)).foldr joinText [] =
      (es.foldr joinText []).map (renumber k) := by
    induction es with
    | nil => rfl
    | cons e rest ih => rw [List.map_cons, List.foldr_cons, ih, joinText_renumber, List.foldr_cons]
  rw [inOrder, inOrder, flatMap_renumber partsOf_renumber, hjoin]
  rcases (parts.flatMap partsOf).foldr joinText [] with - | ⟨e, - | ⟨e', rest⟩⟩
  · rfl
  · rfl
  · exact renumber_concat _

theorem asParts?_renumber (e : Expr) :
    asParts? (e.renumber k) = (asParts? e).map (List.map (renumber k)) := by
  cases e with
  | concat parts => rw [renumber_concat, asParts?, asParts?, Option.map_some]
  | _ => rfl

theorem asChar?_renumber (e : Expr) : asChar? (e.renumber k) = asChar? e := by cases e <;> rfl

theorem asSet?_renumber (e : Expr) : asSet? (e.renumber k) = asSet? e := by cases e <;> rfl

theorem mapM_renumber_of_eq {f : Expr → Option CharSet} (hf : ∀ e, f (e.renumber k) = f e)
    (es : List Expr) : (es.map (renumber k)).mapM f = es.mapM f := by
  rw [List.mapM_map]
  exact congrArg (es.mapM ·) (funext hf)

theorem mapM_asParts?_renumber (es : List Expr) :
    (es.map (renumber k)).mapM asParts? =
      (es.mapM asParts?).map (List.map (List.map (renumber k))) := by
  induction es with
  | nil => rfl
  | cons e rest ih =>
    rw [List.map_cons, List.mapM_cons, List.mapM_cons, asParts?_renumber, ih]
    cases asParts? e <;> cases rest.mapM asParts? <;> rfl

theorem common_renumber (as bs : List Expr) :
    common (as.map (renumber k)) (bs.map (renumber k)) = (common as bs).map (renumber k) := by
  induction as generalizing bs with
  | nil => rfl
  | cons a as ih =>
    cases bs with
    | nil => rfl
    | cons b bs =>
      have hbeq : (a.renumber k == b.renumber k) = (a == b) := beq_renumber k a b
      simp only [List.map_cons, common, hbeq, ih]
      split <;> rfl

theorem commonOfAll_renumber (lists : List (List Expr)) :
    commonOfAll (lists.map (List.map (renumber k))) = (commonOfAll lists).map (renumber k) := by
  cases lists with
  | nil => rfl
  | cons parts rest =>
    simp only [List.map_cons, commonOfAll]
    induction rest generalizing parts with
    | nil => rfl
    | cons next rest ih => rw [List.map_cons, List.foldl_cons, common_renumber, ih, List.foldl_cons]

theorem renumber_plainAlternation (branches : List Expr) :
    (plainAlternation branches).renumber k = plainAlternation (branches.map (renumber k)) := by
  rcases branches with - | ⟨e, - | ⟨e', rest⟩⟩
  · rfl
  · rfl
  · exact renumber_alternation _

theorem renumber_firstOfWithin (depth : Nat) (branches : List Expr) :
    (firstOfWithin depth branches).renumber k =
      firstOfWithin depth (branches.map (renumber k)) := by
  induction depth generalizing branches with
  | zero => exact renumber_plainAlternation branches
  | succ depth ih =>
    rw [firstOfWithin, firstOfWithin, flatMap_renumber branchesOf_renumber]
    rcases branches.flatMap branchesOf with - | ⟨e, - | ⟨e', rest⟩⟩
    · rfl
    · rfl
    have hchars := mapM_renumber_of_eq (k := k) asChar?_renumber (e :: e' :: rest)
    have hsets := mapM_renumber_of_eq (k := k) asSet?_renumber (e :: e' :: rest)
    have hparts := mapM_asParts?_renumber (k := k) (e :: e' :: rest)
    have hplain := renumber_plainAlternation (k := k) (e :: e' :: rest)
    simp only [List.map_cons] at hchars hsets hparts hplain ⊢
    rw [hchars, hsets, hparts]
    generalize (List.mapM asChar? _).or _ = sets, List.mapM asParts? _ = lists
    rcases sets with - | sets
    case some => exact renumber_ofSet _ _
    rcases lists with - | lists
    · exact hplain
    simp only [Option.map_some, commonOfAll_renumber]
    rcases commonOfAll lists with - | ⟨front, more⟩
    · exact hplain
    have hrest : (lists.map (List.map (renumber k))).map (fun parts ↦
        inOrder (parts.drop ((front :: more).map (renumber k)).length)) =
        (lists.map fun parts ↦ inOrder (parts.drop (front :: more).length)).map (renumber k) := by
      rw [List.map_map, List.map_map]
      refine List.map_congr_left fun parts _ ↦ ?_
      rw [Function.comp_apply, Function.comp_apply, List.length_map, renumber_inOrder,
        List.map_drop]
    have hinOrder := renumber_inOrder (k := k) ((front :: more) ++ [firstOfWithin depth
      (lists.map fun parts ↦ inOrder (parts.drop (front :: more).length))])
    rw [List.map_append, List.map_singleton, ih, ← hrest] at hinOrder
    exact hinOrder

theorem renumber_firstOf (branches : List Expr) :
    (firstOf branches).renumber k = firstOf (branches.map (renumber k)) :=
  renumber_firstOfWithin nestLimit branches

end Expr

/-! ### Patterns without spans -/

/-- The span at the start, which stands for any span. -/
def Span.nowhere : Span := ⟨.start, .start⟩

/-- The literal without its span. -/
def Literal.bare (l : Literal) : Literal := { l with span := .nowhere }

/-- The class without its span. -/
def PropertyClass.bare (p : PropertyClass) : PropertyClass := { p with span := .nowhere }

mutual

/-- What stands in brackets, without spans. -/
def ClassSet.bare : ClassSet → ClassSet
  | .empty _ => .empty .nowhere
  | .literal l => .literal l.bare
  | .range _ first last => .range .nowhere first.bare last.bare
  | .ascii _ negated c => .ascii .nowhere negated c
  | .property p => .property p.bare
  | .perl _ negated c => .perl .nowhere negated c
  | .bracketed _ negated set => .bracketed .nowhere negated set.bare
  | .union _ items => .union .nowhere (ClassSet.bareEach items)
  | .operation _ op left right => .operation .nowhere op left.bare right.bare

/-- The items without spans. -/
def ClassSet.bareEach : List ClassSet → List ClassSet
  | [] => []
  | item :: items => item.bare :: ClassSet.bareEach items

end

/-- The kind of a group behind `k` other capture groups. -/
def GroupKind.renumber (k : Nat) : GroupKind → GroupKind
  | capture index => capture (index + k)
  | flags items => flags items

mutual

/-- A pattern without spans, behind `k` capture groups. -/
def Pattern.bare (k : Nat) : Pattern → Pattern
  | .empty _ => .empty .nowhere
  | .flags _ items => .flags .nowhere items
  | .literal l => .literal l.bare
  | .dot _ => .dot .nowhere
  | .assertion _ a => .assertion .nowhere a
  | .property p => .property p.bare
  | .perl _ negated c => .perl .nowhere negated c
  | .bracket _ negated set => .bracket .nowhere negated set.bare
  | .repetition _ least most greedy body => .repetition .nowhere least most greedy (body.bare k)
  | .group _ kind body => .group .nowhere (kind.renumber k) (body.bare k)
  | .alternation _ branches => .alternation .nowhere (Pattern.bareEach k branches)
  | .concat _ parts => .concat .nowhere (Pattern.bareEach k parts)

/-- The patterns without spans, behind `k` capture groups. -/
def Pattern.bareEach (k : Nat) : List Pattern → List Pattern
  | [] => []
  | p :: ps => p.bare k :: Pattern.bareEach k ps

end

theorem ClassSet.bareEach_eq_map (items : List ClassSet) :
    ClassSet.bareEach items = items.map ClassSet.bare := by
  induction items with
  | nil => rfl
  | cons item items ih => rw [ClassSet.bareEach, ih, List.map_cons]

theorem Pattern.bareEach_eq_map (k : Nat) (ps : List Pattern) :
    Pattern.bareEach k ps = ps.map (Pattern.bare k) := by
  induction ps with
  | nil => rfl
  | cons p ps ih => rw [Pattern.bareEach, ih, List.map_cons]

/-! ### Classes without spans -/

/-- With nothing late, results that are the same but for the fault. -/
theorem Alike.refl {α : Type} (x : Except Fault α) : Alike Eq Prompt x x := by
  cases x with
  | error f => exact .error f f
  | ok a => exact .ok rfl

theorem alike_literalChar (f : Flags) (l : Literal) :
    Alike Eq Prompt (literalChar f l) (literalChar f l.bare) := by
  have hbare : literalChar f l.bare = if !f.unicode && l.isByte && 0x80 ≤ l.char.toNat then
    .error ⟨.invalidUtf8, .nowhere, none⟩ else .ok l.char := rfl
  rw [hbare, literalChar]
  split
  · exact .error _ _
  · exact .ok rfl

theorem alike_classChar (f : Flags) (l : Literal) :
    Alike Eq Prompt (classChar f l) (classChar f l.bare) := by
  refine (alike_literalChar f l).bind_prompt ?_
  rintro c _ rfl
  split
  · exact .error _ _
  · exact .ok rfl

theorem alike_finish (f : Flags) (span span' : Span) (negated : Bool) (s : CharSet) :
    Alike Eq Prompt (f.finish span negated s) (f.finish span' negated s) := by
  rw [Flags.finish, Flags.finish]
  split
  · exact .ok rfl
  · split
    · exact .error _ _
    · exact .ok rfl

theorem alike_propertySet (f : Flags) (p : PropertyClass) :
    Alike Eq Prompt (propertySet f p) (propertySet f p.bare) := by
  have hname : p.bare.name = p.name := rfl
  have hcomplement : p.bare.isComplement = p.isComplement := rfl
  rw [propertySet, propertySet, hname, hcomplement]
  split
  · exact .error _ _
  · cases p.name.set with
    | ok s => exact alike_finish f _ _ _ s
    | error e => cases e <;> exact .error _ _

mutual

theorem ClassSet.alike_toSet (f : Flags) (s : ClassSet) :
    Alike Eq Prompt (s.toSet f) (s.bare.toSet f) := by
  cases s with
  | empty span => exact .refl _
  | literal l =>
    refine (alike_classChar f l).bind_prompt ?_
    rintro c _ rfl
    exact .refl _
  | range span first last =>
    refine (alike_classChar f first).bind_prompt ?_
    rintro lo _ rfl
    refine (alike_classChar f last).bind_prompt ?_
    rintro hi _ rfl
    exact .refl _
  | ascii span negated c => exact alike_finish f _ _ negated c.set
  | property p => exact alike_propertySet f p
  | perl span negated c => exact alike_finish _ _ _ negated _
  | bracketed span negated set =>
    refine (ClassSet.alike_toSet f set).bind_prompt ?_
    rintro s _ rfl
    exact alike_finish f _ _ negated s
  | union span items =>
    refine (ClassSet.alike_toSets f items).bind_prompt ?_
    rintro sets _ rfl
    exact .refl _
  | operation span op left right =>
    refine (ClassSet.alike_toSet f left).bind_prompt ?_
    rintro s _ rfl
    refine (ClassSet.alike_toSet f right).bind_prompt ?_
    rintro t _ rfl
    exact .refl _

theorem ClassSet.alike_toSets (f : Flags) (items : List ClassSet) :
    Alike Eq Prompt (ClassSet.toSets f items) (ClassSet.toSets f (ClassSet.bareEach items)) := by
  cases items with
  | nil => exact .refl _
  | cons item items =>
    refine (ClassSet.alike_toSet f item).bind_prompt ?_
    rintro s _ rfl
    refine (ClassSet.alike_toSets f items).bind_prompt ?_
    rintro sets _ rfl
    exact .refl _

end

/-! ### The meaning without spans -/

theorem run_get_bind {β : Type} (next : Flags → Sense β) (f : Flags) :
    (get >>= next).run f = (next f).run f := rfl

theorem run_lift_bind {α β : Type} (x : Except Fault α) (next : α → Sense β) (f : Flags) :
    ((liftM x : Sense α) >>= next).run f = x >>= fun a ↦ (next a).run f := by
  cases x <;> rfl

/-- The flags in a group. -/
def GroupKind.inside (f : Flags) : GroupKind → Flags
  | flags items => f.update items
  | capture _ => f

/-- The expression of a group, given that of its body. -/
def GroupKind.around (e : Expr) : GroupKind → Expr
  | flags _ => e
  | capture index => .capture index e

namespace Pattern

/-- The flags at the end of a group are those in front of it. -/
theorem run_sense_group (f : Flags) (span : Span) (kind : GroupKind) (body : Pattern) :
    (sense (.group span kind body)).run f =
      (body.sense.run (kind.inside f)).map fun r ↦ (kind.around r.1, f) := by
  rw [sense]
  cases kind with
  | flags items =>
    show (body.sense.run (f.update items) >>= fun r ↦ Except.ok (r.1, f)) =
      (body.sense.run (f.update items)).map fun r ↦ (r.1, f)
    cases body.sense.run (f.update items) <;> rfl
  | capture index =>
    show (body.sense.run f >>= fun r ↦ Except.ok (Expr.capture index r.1, f)) =
      (body.sense.run f).map fun r ↦ (Expr.capture index r.1, f)
    cases body.sense.run f <;> rfl

/-- The expression of a pattern behind `k` capture groups, and the flags behind the pattern. -/
def Renumbered (k : Nat) (r r' : Expr × Flags) : Prop := r' = (r.1.renumber k, r.2)

/-- The expressions of patterns behind `k` capture groups, and the flags behind the last one. -/
def RenumberedEach (k : Nat) (r r' : List Expr × Flags) : Prop :=
  r' = (r.1.map (Expr.renumber k), r.2)

theorem renumbered_of_set {k : Nat} {f : Flags} (g : Flags) (s : CharSet) :
    Renumbered k (setExpr g s, f) (setExpr g s, f) :=
  Prod.ext (Expr.renumber_ofSet _ s).symm rfl

theorem renumber_charExpr {k : Nat} (f : Flags) (c : Char) :
    (charExpr f c).renumber k = charExpr f c := by
  rw [charExpr]
  split
  · exact Expr.renumber_ofSet _ _
  · rfl

mutual

/-- **A pattern means the same without its spans**, but for the numbers of its captures. -/
theorem sense_bare (k : Nat) (p : Pattern) (f : Flags) :
    Alike (Renumbered k) Prompt (p.sense.run f) ((p.bare k).sense.run f) := by
  cases p with
  | empty span => exact .ok rfl
  | flags span items => exact .ok rfl
  | literal l =>
    rw [bare, sense, sense, run_get_bind, run_get_bind, run_get_bind, run_get_bind,
      run_lift_bind, run_lift_bind]
    refine (alike_literalChar f l).bind_prompt ?_
    rintro c _ rfl
    exact .ok (Prod.ext (renumber_charExpr f c).symm rfl)
  | dot span =>
    rw [bare, sense, sense, run_get_bind, run_get_bind]
    by_cases hunicode : f.unicode = true
    · simp only [hunicode]
      exact .ok (renumbered_of_set f _)
    · simp only [hunicode]
      exact .error _ _
  | assertion span a => exact .ok rfl
  | property c =>
    rw [bare, sense, sense, run_get_bind, run_get_bind, run_get_bind, run_get_bind,
      run_lift_bind, run_lift_bind]
    refine (alike_propertySet f c).bind_prompt ?_
    rintro s _ rfl
    exact .ok (renumbered_of_set f s)
  | perl span negated c =>
    rw [bare, sense, sense, run_get_bind, run_get_bind, run_get_bind, run_get_bind,
      run_lift_bind, run_lift_bind]
    refine (alike_finish _ _ _ negated _).bind_prompt ?_
    rintro s _ rfl
    exact .ok (renumbered_of_set f s)
  | bracket span negated set =>
    rw [bare, sense, sense, run_get_bind, run_get_bind, run_lift_bind, run_lift_bind]
    refine (set.alike_toSet f).bind_prompt ?_
    rintro s _ rfl
    rw [run_lift_bind, run_lift_bind]
    refine (alike_finish f _ _ negated s).bind_prompt ?_
    rintro s _ rfl
    exact .ok (renumbered_of_set f s)
  | repetition span least most greedy body =>
    rw [bare, sense, sense]
    refine (sense_bare k body f).bind_prompt ?_
    rintro ⟨e, g⟩ _ rfl
    exact .ok (Prod.ext (Expr.renumber_times _ _ _ e).symm rfl)
  | group span kind body =>
    have hinside : (kind.renumber k).inside f = kind.inside f := by cases kind <;> rfl
    rw [bare, run_sense_group, run_sense_group, hinside]
    refine (sense_bare k body (kind.inside f)).map ?_
    rintro ⟨e, g⟩ _ rfl
    cases kind <;> rfl
  | alternation span branches =>
    rw [bare, sense, sense]
    refine (senseEach_bare k branches f).bind_prompt ?_
    rintro ⟨es, g⟩ _ rfl
    exact .ok (Prod.ext (Expr.renumber_firstOf es).symm rfl)
  | concat span parts =>
    rw [bare, sense, sense]
    refine (senseEach_bare k parts f).bind_prompt ?_
    rintro ⟨es, g⟩ _ rfl
    exact .ok (Prod.ext (Expr.renumber_inOrder es).symm rfl)

theorem senseEach_bare (k : Nat) (ps : List Pattern) (f : Flags) :
    Alike (RenumberedEach k) Prompt ((senseEach ps).run f) ((senseEach (bareEach k ps)).run f) := by
  cases ps with
  | nil => exact .ok rfl
  | cons p ps =>
    rw [bareEach, senseEach, senseEach]
    refine (sense_bare k p f).bind_prompt ?_
    rintro ⟨e, g⟩ _ rfl
    refine (senseEach_bare k ps g).bind_prompt ?_
    rintro ⟨es, g'⟩ _ rfl
    exact .ok rfl

end

end Pattern

end LineShell.Regex
