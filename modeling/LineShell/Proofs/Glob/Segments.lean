import LineShell.Proofs.Glob.Matching

/-!
# Segments as glob patterns

A segment of an argument is matched as a glob pattern: its text is written down with every character
but the star in brackets, if it would mean something in a pattern, and what is written is read
(`Glob.written`). Glob patterns know more than segments do. Two stars side by side mean any run of
path components there, and may stand only between slashes; so not every segment that is written can
be read.

`Glob.read_written` says which segments can: those whose stars stand apart, and the segment of two
stars alone. Of them the pattern matches what the segment means (`Glob.Fills`), and it is the
pattern of `Glob.ofSegment?`, item by item up to the brackets. The run of stars that cannot be read
means no more than one star, and with one star in its place every segment has a pattern
(`Glob.fills_mergeStars_iff`).
-/

namespace LineShell

namespace Glob

/-! ### Writing a segment as a pattern -/

/-- The characters that mean something outside the brackets of a pattern. -/
def metaChars : List Char := ['?', '*', '[', ']']

/-- A character as a pattern that matches it alone. -/
def escapeChar (c : Char) : Text := if c ∈ metaChars then ['[', c, ']'] else [c]

/-- A text as a pattern that matches it alone. -/
def escape (t : Text) : Text := t.flatMap escapeChar

/-- The text of the pattern for a segment: what stands between its stars is escaped. -/
def written (segment : Text) : Text := Text.join [star] ((Text.pieces star segment).map escape)

/-- The item that is read for a character of a segment. -/
def writtenItem (c : Char) : GlobItem :=
  if c = star then .anySequence else if c ∈ metaChars then .oneOf [(c, c)] else .char c

variable {c : Char} {segment name : Text}

theorem written_star_cons (segment : Text) :
    written (star :: segment) = star :: written segment := by
  obtain ⟨piece, more, h⟩ := List.exists_cons_of_ne_nil (Text.pieces_ne_nil star segment)
  rw [written, written, Text.pieces, if_pos rfl, h]
  rfl

theorem written_cons (hc : c ≠ star) (segment : Text) :
    written (c :: segment) = escapeChar c ++ written segment := by
  obtain ⟨piece, more, h⟩ := List.exists_cons_of_ne_nil (Text.pieces_ne_nil star segment)
  rw [written, written, Text.pieces, if_neg hc, h]
  cases more with
  | nil => rfl
  | cons next more => simp [Text.join, escape]

/-- What is written for a segment begins with its first character, or with a bracket instead. -/
theorem exists_written_cons (c : Char) (segment : Text) :
    ∃ d rest, written (c :: segment) = d :: rest ∧ (d = star ↔ c = star) ∧ (d = '/' → c = '/') := by
  by_cases hc : c = star
  · subst hc
    exact ⟨star, written segment, written_star_cons segment, Iff.rfl, id⟩
  · rw [written_cons hc, escapeChar]
    split
    · exact ⟨'[', _, rfl, iff_of_false (by decide) hc, fun h ↦ absurd h (by decide)⟩
    · exact ⟨c, _, rfl, Iff.rfl, id⟩

/-- What is written behind a star does not begin with another one, if the segment does not. -/
theorem head?_written_ne (h : ¬ [star, star] <+: star :: segment) :
    (written segment).head? ≠ some star := by
  cases segment with
  | nil => decide
  | cons d segment =>
    obtain ⟨e, rest, hwritten, hstar, -⟩ := exists_written_cons d segment
    rw [hwritten]
    intro he
    obtain rfl := hstar.1 (Option.some.inj he)
    exact h ⟨segment, rfl⟩

/-! ### Reading what is written -/

variable {position : Nat} {before : Option Char}

/-- What is written for a character is read as one item. -/
theorem itemsFrom_escapeChar (hc : c ≠ star) (position : Nat) (before : Option Char) (rest : Text) :
    itemsFrom 0 position before (escapeChar c ++ rest) =
      (itemsFrom 0 (position + (escapeChar c).length) (escapeChar c).getLast? rest).map
        (writtenItem c :: ·) := by
  rw [writtenItem, if_neg hc]
  by_cases hmeta : c ∈ metaChars
  · rw [escapeChar, if_pos hmeta, if_pos hmeta]
    simp only [metaChars, List.mem_cons, List.not_mem_nil, or_false] at hmeta
    rcases hmeta with rfl | rfl | rfl | rfl <;> rfl
  · rw [escapeChar, if_neg hmeta, if_neg hmeta]
    simp only [metaChars, List.mem_cons, List.not_mem_nil, or_false, not_or] at hmeta
    obtain ⟨hany, hstar, hopen, -⟩ := hmeta
    rw [List.singleton_append]
    conv_lhs => unfold itemsFrom
    simp only [if_neg hany, if_neg hstar, if_neg hopen]
    rfl

/-- A star that no other star follows is read as any run of characters. -/
theorem itemsFrom_star {rest : Text} (h : rest.head? ≠ some star) (position : Nat)
    (before : Option Char) :
    itemsFrom 0 position before (star :: rest) =
      (itemsFrom 0 (position + 1) (some star) rest).map (.anySequence :: ·) := by
  cases rest with
  | nil => rfl
  | cons d rest =>
    have hd : d ≠ '*' := fun hd ↦ h (congrArg some hd)
    conv_lhs => unfold itemsFrom
    rw [if_neg (by decide), if_pos (show star = '*' from rfl)]
    split
    · next heq => exact absurd (List.cons.inj heq).1 hd
    · next heq => exact absurd (List.cons.inj heq).1 hd
    · rfl

/-- **A segment whose stars stand apart is read item by item.** -/
theorem itemsFrom_written (h : ¬ [star, star] <:+: segment) (position : Nat)
    (before : Option Char) :
    itemsFrom 0 position before (written segment) = .ok (segment.map writtenItem) := by
  induction segment generalizing position before with
  | nil => rfl
  | cons c segment ih =>
    obtain ⟨hfirst, hrest⟩ := not_or.1 (mt List.infix_cons_iff.2 h)
    by_cases hc : c = star
    · subst hc
      rw [written_star_cons, itemsFrom_star (head?_written_ne hfirst), ih hrest]
      rfl
    · rw [written_cons hc, itemsFrom_escapeChar hc, ih hrest]
      rfl

/-- Two stars are not read behind anything but a slash, nor in front of anything but a slash. -/
theorem itemsFrom_star_star {rest : Text} (hbefore : before ≠ some '/')
    (h : before.isSome ∨ rest ≠ []) (hrest : rest.head? ≠ some '/') (position : Nat) :
    ∃ f, itemsFrom 0 position before (star :: star :: rest) = .error f := by
  have hnone : before.isSome → before.all (· == '/') = false := by
    intro hsome
    obtain ⟨b, rfl⟩ := Option.isSome_iff_exists.1 hsome
    simpa using hbefore
  unfold itemsFrom
  rw [if_neg (by decide), if_pos (show star = '*' from rfl)]
  split
  · exact ⟨_, rfl⟩
  · next more _ heq =>
    obtain rfl := (List.cons.inj heq).2
    by_cases hall : before.all (· == '/') = true
    · rw [if_pos hall]
      split
      · rcases h with hsome | hne
        · exact absurd hall (by simp [hnone hsome])
        · exact absurd rfl hne
      · exact absurd rfl hrest
      · exact ⟨_, rfl⟩
    · rw [if_neg hall]
      exact ⟨_, rfl⟩
  · next hno => exact absurd rfl (hno _)

/-- **Elsewhere two stars side by side are not read**, in a segment with something before them. -/
theorem itemsFrom_written_of_infix (hslash : '/' ∉ segment) (hstars : [star, star] <:+: segment)
    (hbefore : before ≠ some '/') (hwhole : before.isSome ∨ segment ≠ [star, star])
    (position : Nat) : ∃ f, itemsFrom 0 position before (written segment) = .error f := by
  induction segment generalizing position before with
  | nil => exact absurd (List.infix_nil.1 hstars) (List.cons_ne_nil _ _)
  | cons c segment ih =>
    obtain ⟨hc, hrest⟩ := not_or.1 (mt List.mem_cons.2 hslash)
    by_cases hfirst : [star, star] <+: c :: segment
    · obtain ⟨more, hmore⟩ := hfirst
      obtain ⟨rfl, rfl⟩ : c = star ∧ segment = star :: more := by simpa [eq_comm] using hmore
      rw [written_star_cons, written_star_cons]
      refine itemsFrom_star_star hbefore (hwhole.imp_right fun hne ↦ ?_) ?_ position
      · cases more with
        | nil => exact absurd rfl hne
        | cons d more =>
          obtain ⟨e, rest, hwritten, -, -⟩ := exists_written_cons d more
          rw [hwritten]
          exact List.cons_ne_nil e rest
      · cases more with
        | nil => decide
        | cons d more =>
          obtain ⟨e, rest, hwritten, -, hd⟩ := exists_written_cons d more
          rw [hwritten]
          intro he
          obtain rfl := hd (Option.some.inj he)
          simp at hrest
    -- The two stars stand further behind, where a character is before them.
    · have hbehind := (List.infix_cons_iff.1 hstars).resolve_left hfirst
      by_cases hstar : c = star
      · subst hstar
        have hstar : some star ≠ some '/' := by decide
        obtain ⟨f, hf⟩ := ih hrest hbehind hstar (Or.inl rfl) (position + 1)
        exact ⟨f, by rw [written_star_cons, itemsFrom_star (head?_written_ne hfirst), hf]; rfl⟩
      · have hlast : (escapeChar c).getLast? ≠ some '/' ∧ (escapeChar c).getLast?.isSome := by
          rw [escapeChar]
          split
          · exact ⟨by simp, rfl⟩
          · exact ⟨fun h ↦ hc (Option.some.inj h).symm, rfl⟩
        obtain ⟨f, hf⟩ := ih hrest hbehind hlast.1 (Or.inl hlast.2)
          (position + (escapeChar c).length)
        exact ⟨f, by rw [written_cons hstar, itemsFrom_escapeChar hstar, hf]; rfl⟩

/-! ### Matching -/

/-- A bracket around one character accepts what the character accepts. -/
theorem accepts_oneOf_singleton (c d : Char) :
    (GlobItem.oneOf [(c, c)]).accepts d = (GlobItem.char c).accepts d := by
  rw [Bool.eq_iff_iff]
  simp only [GlobItem.accepts, GlobItem.inRanges, List.any_cons, List.any_nil, Bool.or_false,
    Bool.and_eq_true, decide_eq_true_eq, beq_iff_eq]
  exact ⟨fun h ↦ Char.le_antisymm h.1 h.2, fun h ↦ h ▸ ⟨Char.le_refl c, Char.le_refl c⟩⟩

/-- The brackets make no difference to what is matched. -/
theorem step_writtenItem (c : Char) (name : Text) (marks : List Bool) :
    (writtenItem c).step name marks = (segmentItem c).step name marks := by
  rw [writtenItem, segmentItem]
  by_cases hstar : c = star
  · rw [if_pos hstar, if_pos (show c = '*' from hstar)]
  · rw [if_neg hstar, if_neg (show ¬ c = '*' from hstar)]
    split
    · simp only [GlobItem.step, accepts_oneOf_singleton]
    · rfl

/-- **The items that are written match exactly the names that come from the segment.** -/
theorem matchesName_written_iff :
    (Glob.mk (segment.map writtenItem)).matchesName name = true ↔ Fills segment name := by
  rw [← matchesName_iff, matchesName, matchesName]
  simp only [List.foldl_map, step_writtenItem]

/-- Any run of path components matches every name. -/
theorem matchesName_anyPath (name : Text) : (Glob.mk [.anyPath]).matchesName name = true := by
  have hlast : ∀ (t : Text) started stopped marks mark, (started || marks.headD false) = true →
      (GlobItem.runMarks (· == '/') started stopped t marks).getLastD mark = true := by
    intro t
    induction t with
    | nil => exact fun _ _ _ _ h ↦ h
    | cons c t ih =>
      intro started stopped marks mark h
      rw [GlobItem.runMarks, List.getLastD_cons]
      exact ih _ _ _ _ (by rw [h]; rfl)
  exact hlast name false false _ false rfl

/-! ### Runs of stars -/

/-- The segment with one star in the place of each run of stars. -/
def mergeStars : Text → Text
  | [] => []
  | c :: rest => if c = star ∧ rest.head? = some star then mergeStars rest else c :: mergeStars rest

theorem fills_star_star_iff {rest : Text} :
    Fills (star :: star :: rest) name ↔ Fills (star :: rest) name := by
  rw [fills_star_cons_iff]
  constructor
  · rintro ⟨t, _, rfl, hstar⟩
    obtain ⟨u, v, rfl, hrest⟩ := fills_star_cons_iff.1 hstar
    exact fills_star_cons_iff.2 ⟨t ++ u, v, (List.append_assoc t u v).symm, hrest⟩
  · exact fun h ↦ ⟨[], name, rfl, h⟩

/-- **A run of stars means what one star means.** -/
theorem fills_mergeStars_iff : Fills (mergeStars segment) name ↔ Fills segment name := by
  induction segment generalizing name with
  | nil => exact Iff.rfl
  | cons c rest ih =>
    rw [mergeStars]
    split
    · next h =>
      obtain ⟨rfl, hnext⟩ := h
      obtain ⟨more, rfl⟩ := List.head?_eq_some_iff.1 hnext
      rw [ih, fills_star_star_iff]
    · by_cases hc : c = star
      · subst hc
        simp only [fills_star_cons_iff, ih]
      · simp only [fills_cons_iff hc, ih]

/-- Where runs of stars are merged, stars stand apart. -/
theorem not_infix_mergeStars (segment : Text) : ¬ [star, star] <:+: mergeStars segment := by
  have hhead : ∀ rest : Text, (mergeStars rest).head? = rest.head? := by
    intro rest
    induction rest with
    | nil => rfl
    | cons c rest ih =>
      rw [mergeStars]
      split
      · next h => rw [ih, h.2, h.1]; rfl
      · rfl
  induction segment with
  | nil => exact fun h ↦ absurd (List.infix_nil.1 h) (List.cons_ne_nil _ _)
  | cons c rest ih =>
    rw [mergeStars]
    split
    · exact ih
    · next h =>
      rw [List.infix_cons_iff]
      rintro (⟨more, hmore⟩ | hbehind)
      · obtain ⟨rfl, hrest⟩ := List.cons.inj hmore
        refine h ⟨rfl, ?_⟩
        rw [← hhead, ← hrest]
        rfl
      · exact ih hbehind

/-- So do two stars. -/
theorem matchesName_anyPath_iff :
    (Glob.mk [.anyPath]).matchesName name = true ↔ Fills [star, star] name :=
  iff_of_true (matchesName_anyPath name)
    (fills_star_star_iff.2 (fills_star_cons_iff.2 ⟨name, [], (List.append_nil name).symm, .nil⟩))

/-! ### The pattern of a segment -/

/-- The stars of a segment stand so that a pattern can be read: none beside another one, or two with
nothing else. -/
def StarsReadable (segment : Text) : Prop := ¬ [star, star] <:+: segment ∨ segment = [star, star]

/-- **Where stars stand so, and nowhere else, what is written for a segment is read.** -/
theorem exists_read_written_iff (hslash : '/' ∉ segment) :
    (∃ g, read (written segment) = .ok g) ↔ StarsReadable segment := by
  constructor
  · rintro ⟨g, hg⟩
    by_contra hstars
    obtain ⟨hadjacent, hne⟩ := not_or.1 hstars
    have hstart : none ≠ some '/' := nofun
    obtain ⟨f, hf⟩ := itemsFrom_written_of_infix hslash (not_not.1 hadjacent) hstart (Or.inr hne) 0
    rw [read, hf] at hg
    cases hg
  · rintro (hapart | rfl)
    · exact ⟨_, by rw [read, itemsFrom_written hapart]; rfl⟩
    · exact ⟨⟨[.anyPath]⟩, rfl⟩

/-- What is read for a segment matches what the segment means. -/
theorem matchesName_of_read (hslash : '/' ∉ segment) {g : Glob}
    (hg : read (written segment) = .ok g) : g.matchesName name = true ↔ Fills segment name := by
  rcases (exists_read_written_iff hslash).1 ⟨g, hg⟩ with hapart | rfl
  · rw [read, itemsFrom_written hapart] at hg
    obtain rfl := Except.ok.inj hg
    exact matchesName_written_iff
  · obtain rfl : Glob.mk [.anyPath] = g := Except.ok.inj hg
    exact matchesName_anyPath_iff

/-- The pattern of a segment is there if one can be read, and matches the same names. -/
theorem exists_ofSegment?_iff :
    (∃ g, ofSegment? segment = some g) ↔ StarsReadable segment := by
  constructor
  · rintro ⟨g, hg⟩
    by_contra hstars
    obtain ⟨hadjacent, hne⟩ := not_or.1 hstars
    rw [ofSegment?, if_neg (show ¬ segment = ['*', '*'] from hne),
      if_pos (hasDoubleStar_iff.2 (not_not.1 hadjacent))] at hg
    cases hg
  · rintro (hapart | rfl)
    · obtain ⟨g, hg, -⟩ := exists_ofSegment?_eq_some hapart
      exact ⟨g, hg⟩
    · exact ⟨⟨[.anyPath]⟩, rfl⟩

theorem matchesName_of_ofSegment? {g : Glob} (hg : ofSegment? segment = some g) :
    g.matchesName name = true ↔ Fills segment name := by
  rcases exists_ofSegment?_iff.1 ⟨g, hg⟩ with hapart | rfl
  · obtain ⟨g', hg', hmatches⟩ := exists_ofSegment?_eq_some hapart
    obtain rfl := Option.some.inj (hg.symm.trans hg')
    exact hmatches name
  · obtain rfl : Glob.mk [.anyPath] = g := Option.some.inj hg
    exact matchesName_anyPath_iff

/-- **A star is any run of characters**, in every segment that has a pattern. What is written for a
segment can be read, and the segment has a pattern, exactly if no two of its stars stand side by
side, or the segment is two stars. The pattern that is read and the pattern of the segment both
match the names that come from the segment by putting some run of characters in the place of each
star, all other characters standing for themselves. With one star in the place of each run of stars
the segment always has a pattern, and that one matches what the segment itself means. -/
theorem star_is_any_run (segment : Text) (hslash : '/' ∉ segment) :
    ((∃ g, read (written segment) = .ok g) ↔ StarsReadable segment) ∧
    ((∃ g, ofSegment? segment = some g) ↔ StarsReadable segment) ∧
    (∀ g, read (written segment) = .ok g ∨ ofSegment? segment = some g →
      ∀ name, '/' ∉ name → (g.matchesName name = true ↔ Fills segment name)) ∧
    ∃ g, ofSegment? (mergeStars segment) = some g ∧
      ∀ name, '/' ∉ name → (g.matchesName name = true ↔ Fills segment name) := by
  refine ⟨exists_read_written_iff hslash, exists_ofSegment?_iff, ?_, ?_⟩
  · rintro g (hg | hg) name -
    · exact matchesName_of_read hslash hg
    · exact matchesName_of_ofSegment? hg
  · obtain ⟨g, hg, hmatches⟩ := exists_ofSegment?_eq_some (not_infix_mergeStars segment)
    exact ⟨g, hg, fun name _ ↦ (hmatches name).trans fills_mergeStars_iff⟩

/-- Brackets and question marks next to stars, and an upper-case letter. -/
theorem star_is_any_run_brackets :
    let segment : Text := "*[!a]?*B".toList
    let name : Text := ".x[!a]?yB".toList
    '/' ∉ segment ∧ written segment = "*[[]!a[]][?]*B".toList ∧
    ∃ g, read (written segment) = .ok g ∧ g.matchesName name = true ∧
      g.matchesName ".x[!a]?yb".toList = false ∧ Fills segment name := by
  intro segment name
  have hslash : '/' ∉ segment := by decide
  have hmatches : (Glob.mk (segment.map writtenItem)).matchesName name = true := by decide
  have hread : read (written segment) = .ok ⟨segment.map writtenItem⟩ := by decide
  obtain ⟨-, -, hfills, -⟩ := star_is_any_run segment hslash
  exact ⟨hslash, by decide, _, hread, hmatches, by decide,
    (hfills _ (Or.inl hread) name (by decide)).1 hmatches⟩

/-- Two stars at the end of a segment: a name comes from it, but it has no pattern, and the argument
stays as it is. -/
theorem double_star_matches_nothing :
    let segment : Text := "a**".toList
    let name : Text := "ab".toList
    let files := Files.empty.writeFile (Path.ofText "/ab".toList) []
    '/' ∉ segment ∧ star ∈ segment ∧ '/' ∉ name ∧ Fills segment name ∧
    ¬ (∃ g, ofSegment? segment = some g ∧ (g.matchesName name = true ↔ Fills segment name)) ∧
    ¬ (∃ g, read (written segment) = .ok g) ∧
    expand files [Path.slash] (mergeStars segment) = [name] ∧
    expand files [Path.slash] segment = [segment] := by
  intro segment name files
  have hread : read (written segment) = .error ⟨.notWholeComponent, 0⟩ := by decide
  refine ⟨by decide, by decide, by decide, ?_, ?_, ?_, by decide +kernel, by decide +kernel⟩
  · exact .char (by decide) (.run ['b'] (.run [] .nil))
  · rintro ⟨g, hg, -⟩
    cases hg
  · rintro ⟨g, hg⟩
    cases hread.symm.trans hg

end Glob

end LineShell
