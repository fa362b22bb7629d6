import LineShell.Glob.Expansion
import Mathlib.Data.List.Infix

/-!
# What a segment matches

A name matches a segment if it comes from the segment by putting some run of characters in the place
of each star; every other character stands for itself (`Glob.Fills`). The matcher follows all ways
at once and keeps one mark per place of the name. `Marks P name marks` says what the marks mean: the
beginning of the name up to a place has `P` exactly if the place is marked. Each item turns marks of
`P` into marks of what follows `P` and the item, so after all items the last mark tells whether the
whole name comes from the segment (`Glob.matchesName_iff`).
-/

namespace LineShell

namespace Glob

/-- The name comes from the segment by putting some run of characters in the place of each star. -/
inductive Fills : Text → Text → Prop
  | nil : Fills [] []
  | run {segment name : Text} (t : Text) : Fills segment name → Fills (star :: segment) (t ++ name)
  | char {c : Char} {segment name : Text} : c ≠ star → Fills segment name →
      Fills (c :: segment) (c :: name)

theorem fills_nil_iff {name : Text} : Fills [] name ↔ name = [] := by
  refine ⟨fun h ↦ ?_, fun h ↦ h ▸ .nil⟩
  cases h
  rfl

theorem fills_star_cons_iff {segment name : Text} :
    Fills (star :: segment) name ↔ ∃ t rest, name = t ++ rest ∧ Fills segment rest := by
  refine ⟨fun h ↦ ?_, ?_⟩
  · cases h with
    | run t h => exact ⟨t, _, rfl, h⟩
    | char hne _ => exact absurd rfl hne
  · rintro ⟨t, rest, rfl, h⟩
    exact .run t h

theorem fills_cons_iff {c : Char} (hc : c ≠ star) {segment name : Text} :
    Fills (c :: segment) name ↔ ∃ rest, name = c :: rest ∧ Fills segment rest := by
  refine ⟨fun h ↦ ?_, ?_⟩
  · cases h with
    | run t _ => exact absurd rfl hc
    | char _ h => exact ⟨_, rfl, h⟩
  · rintro ⟨rest, rfl, h⟩
    exact .char hc h

/-! ### Marks -/

/-- There is one mark for each beginning of the name, the empty one and the whole name included, and
it is set exactly if the beginning has `P`. -/
inductive Marks : (Text → Prop) → Text → List Bool → Prop
  | nil {P : Text → Prop} {mark : Bool} : (mark = true ↔ P []) → Marks P [] [mark]
  | cons {P : Text → Prop} {c : Char} {rest : Text} {mark : Bool} {marks : List Bool} :
      (mark = true ↔ P []) → Marks (fun u ↦ P (c :: u)) rest marks →
      Marks P (c :: rest) (mark :: marks)

namespace Marks

variable {P Q : Text → Prop} {name : Text} {marks : List Bool}

protected theorem congr (h : Marks P name marks) (hPQ : ∀ u, P u ↔ Q u) : Marks Q name marks := by
  induction h generalizing Q with
  | nil hmark => exact .nil (hmark.trans (hPQ []))
  | cons hmark _ ih => exact .cons (hmark.trans (hPQ [])) (ih fun u ↦ hPQ (_ :: u))

/-- The last mark is that of the whole name. -/
theorem getLastD_iff (h : Marks P name marks) : marks.getLastD false = true ↔ P name := by
  induction h with
  | nil hmark => exact hmark
  | @cons P c rest mark marks hmark hrest ih =>
    have hne : marks ≠ [] := by
      rintro rfl
      cases hrest
    refine Iff.trans ?_ ih
    cases marks with
    | nil => exact absurd rfl hne
    | cons next more => exact Iff.rfl

protected theorem none (hP : ∀ u, ¬ P u) (name : Text) :
    Marks P name (false :: name.map fun _ ↦ false) := by
  induction name generalizing P with
  | nil => exact .nil (by simp [hP])
  | cons c rest ih => exact .cons (by simp [hP]) (ih fun u ↦ hP (c :: u))

/-- Before any item, only the empty beginning is marked. -/
protected theorem start (name : Text) : Marks (· = []) name (true :: name.map fun _ ↦ false) := by
  cases name with
  | nil => exact .nil (by simp)
  | cons c rest => exact .cons (by simp) (.none (by simp) rest)

/-- Behind an item for one character the marks have moved on by that character. `first` is what the
first place is marked with. -/
theorem moved (h : Marks P name marks) (d : Char) (first : Prop) (mark : Bool)
    (hfirst : mark = true ↔ first) :
    Marks (fun u ↦ (u = [] ∧ first) ∨ ∃ v, u = v ++ [d] ∧ P v) name
      (mark :: name.zipWith (fun c mark ↦ mark && (GlobItem.char d).accepts c) marks) := by
  induction h generalizing first mark with
  | nil _ => exact .nil (by simp [hfirst])
  | @cons P c rest before marks hbefore _ ih =>
    refine .cons (by simp [hfirst]) ?_
    have hnext : (before && (GlobItem.char d).accepts c) = true ↔ c = d ∧ P [] := by
      rw [Bool.and_eq_true, hbefore, GlobItem.accepts, beq_iff_eq, and_comm, eq_comm]
    refine (ih _ _ hnext).congr fun u ↦ ?_
    -- A beginning that ends in `d` is `d` alone, or begins with `c` and goes on.
    constructor
    · rintro (⟨rfl, rfl, hP⟩ | ⟨v, rfl, hP⟩)
      · exact Or.inr ⟨[], rfl, hP⟩
      · exact Or.inr ⟨c :: v, rfl, hP⟩
    · rintro (⟨h, -⟩ | ⟨v, hv, hP⟩)
      · cases h
      · cases v with
        | nil =>
          obtain ⟨rfl, rfl⟩ := List.cons.inj hv
          exact Or.inl ⟨rfl, rfl, hP⟩
        | cons c' v =>
          obtain ⟨rfl, rfl⟩ := List.cons.inj hv
          exact Or.inr ⟨v, rfl, hP⟩

/-- Behind a star every place is marked that does not lie before the first mark. `started` tells
whether there was a mark before the name. -/
protected theorem run (h : Marks P name marks) (started stopped : Bool)
    (hstop : started = true → stopped = true) :
    Marks (fun u ↦ started = true ∨ ∃ v w, u = v ++ w ∧ P v) name
      (GlobItem.runMarks (fun _ ↦ true) started stopped name marks) := by
  induction h generalizing started stopped with
  | @nil P mark hmark =>
    refine .nil ?_
    rw [Bool.or_eq_true, List.headD_cons, hmark]
    simp
  | @cons P c rest mark marks hmark _ ih =>
    rw [GlobItem.runMarks, List.headD_cons, List.tail_cons]
    refine .cons ?_ ((ih _ _ fun _ ↦ rfl).congr fun u ↦ ?_)
    · have hstarted : (started && stopped) = true ↔ started = true := by
        rw [Bool.and_eq_true, and_iff_left_of_imp hstop]
      rw [Bool.or_eq_true, hstarted, hmark]
      simp [or_comm]
    · rw [Bool.or_eq_true, hmark, or_assoc]
      refine or_congr_right ⟨?_, ?_⟩
      · rintro (hP | ⟨v, w, rfl, hP⟩)
        · exact ⟨[], c :: u, rfl, hP⟩
        · exact ⟨c :: v, w, rfl, hP⟩
      · rintro ⟨v, w, hu, hP⟩
        cases v with
        | nil => exact Or.inl hP
        | cons c' v =>
          obtain ⟨rfl, rfl⟩ := List.cons.inj hu
          exact Or.inr ⟨v, w, rfl, hP⟩

/-- **An item marks what follows the marked beginnings and the item.** -/
protected theorem step (h : Marks P name marks) (c : Char) :
    Marks (fun u ↦ ∃ v w, u = v ++ w ∧ P v ∧ Fills [c] w) name
      ((segmentItem c).step name marks) := by
  by_cases hc : c = star
  · subst hc
    have hrun := h.run false false nofun
    refine hrun.congr fun u ↦ ⟨?_, ?_⟩
    · rintro (hstarted | ⟨v, w, rfl, hP⟩)
      · cases hstarted
      · exact ⟨v, w, rfl, hP, fills_star_cons_iff.2 ⟨w, [], by simp, .nil⟩⟩
    · rintro ⟨v, w, rfl, hP, -⟩
      exact Or.inr ⟨v, w, rfl, hP⟩
  · have hmoved := h.moved c False false (by simp)
    have hitem : segmentItem c = .char c := if_neg hc
    rw [hitem]
    refine hmoved.congr fun u ↦ ⟨?_, ?_⟩
    · rintro (⟨-, hfalse⟩ | ⟨v, rfl, hP⟩)
      · cases hfalse
      · exact ⟨v, [c], rfl, hP, .char hc .nil⟩
    · rintro ⟨v, w, rfl, hP, hw⟩
      obtain ⟨rest, rfl, hrest⟩ := (fills_cons_iff hc).1 hw
      obtain rfl := fills_nil_iff.1 hrest
      exact Or.inr ⟨v, rfl, hP⟩

end Marks

/-- What comes from a segment comes from its first character and then from the others. -/
theorem fills_cons_iff_append {c : Char} {segment name : Text} :
    Fills (c :: segment) name ↔ ∃ t rest, name = t ++ rest ∧ Fills [c] t ∧ Fills segment rest := by
  by_cases hc : c = star
  · subst hc
    have hall : ∀ t, Fills [star] t := fun t ↦ fills_star_cons_iff.2 ⟨t, [], by simp, .nil⟩
    rw [fills_star_cons_iff]
    exact exists_congr fun t ↦ exists_congr fun rest ↦
      and_congr_right fun _ ↦ (and_iff_right (hall t)).symm
  · rw [fills_cons_iff hc]
    constructor
    · rintro ⟨rest, rfl, h⟩
      exact ⟨[c], rest, rfl, .char hc .nil, h⟩
    · rintro ⟨t, rest, rfl, ht, h⟩
      obtain ⟨t', rfl, ht'⟩ := (fills_cons_iff hc).1 ht
      obtain rfl := fills_nil_iff.1 ht'
      exact ⟨rest, rfl, h⟩

/-- The items of a segment mark what follows the marked beginnings and comes from the segment. -/
theorem Marks.foldl {P : Text → Prop} {name : Text} {marks : List Bool} (h : Marks P name marks)
    (segment : Text) :
    Marks (fun u ↦ ∃ v w, u = v ++ w ∧ P v ∧ Fills segment w) name
      ((segment.map segmentItem).foldl (fun marks item ↦ item.step name marks) marks) := by
  induction segment generalizing P marks with
  | nil =>
    refine h.congr fun u ↦ ⟨fun hP ↦ ⟨u, [], by simp, hP, .nil⟩, ?_⟩
    rintro ⟨v, w, rfl, hP, hw⟩
    obtain rfl := fills_nil_iff.1 hw
    rwa [List.append_nil]
  | cons c rest ih =>
    refine (ih (h.step c)).congr fun u ↦ ⟨?_, ?_⟩
    · rintro ⟨_, w', rfl, ⟨v, w, rfl, hP, hw⟩, hw'⟩
      exact ⟨v, w ++ w', List.append_assoc v w w', hP, fills_cons_iff_append.2 ⟨w, w', rfl, hw, hw'⟩⟩
    · rintro ⟨v, w, rfl, hP, hw⟩
      obtain ⟨t, rest', rfl, ht, hrest'⟩ := fills_cons_iff_append.1 hw
      exact ⟨v ++ t, rest', (List.append_assoc v t rest').symm, ⟨v, t, rfl, hP, ht⟩, hrest'⟩

/-- **The items of a segment match exactly the names that come from it.** -/
theorem matchesName_iff {segment name : Text} :
    (Glob.mk (segment.map segmentItem)).matchesName name = true ↔ Fills segment name := by
  have hmarks := (Marks.start name).foldl segment
  rw [matchesName, hmarks.getLastD_iff]
  constructor
  · rintro ⟨_, w, rfl, rfl, hw⟩
    exact hw
  · exact fun h ↦ ⟨[], name, rfl, rfl, h⟩

/-! ### Segments without two stars side by side -/

theorem hasDoubleStar_iff {segment : Text} :
    hasDoubleStar segment = true ↔ [star, star] <:+: segment := by
  fun_induction hasDoubleStar segment with
  | case1 rest => exact iff_of_true rfl ⟨[], rest, rfl⟩
  | case2 c rest hstars ih =>
    rw [ih, List.infix_cons_iff]
    refine (or_iff_right fun hprefix ↦ ?_).symm
    obtain ⟨rest', hrest'⟩ := hprefix
    obtain ⟨rfl, rfl⟩ := List.cons.inj hrest'
    exact hstars rest' rfl rfl
  | case3 => exact iff_of_false (by simp) (by simp)

/-- **A segment without two stars side by side has a pattern, which matches the names that come from
the segment.** -/
theorem exists_ofSegment?_eq_some {segment : Text} (h : ¬ [star, star] <:+: segment) :
    ∃ g, ofSegment? segment = some g ∧ ∀ name, g.matchesName name = true ↔ Fills segment name := by
  have hwhole : segment ≠ ['*', '*'] := by
    rintro rfl
    exact h (List.infix_refl _)
  have hdouble : ¬ hasDoubleStar segment = true := fun hd ↦ h (hasDoubleStar_iff.1 hd)
  refine ⟨_, ?_, fun name ↦ matchesName_iff⟩
  rw [ofSegment?, if_neg hwhole, if_neg hdouble]

end Glob

end LineShell
