import LineShell.Proofs.Regex.EnclosedClasses

/-!
# A pattern in a group: groups and repetitions

What a parenthesis begins is the same for both readers, but that the second one counts one group
more (`alike_opening`): the number of each group is greater by one, and of a name only the number
differs. A list of flags can let blanks mean nothing only if it names `x`, and then `x` is in the
pattern (`SameFlags`); the comments that this allows are what can take the end of the group.

A repetition stands behind a piece of pattern that can be repeated, and which pieces can does not
depend on spans or numbers of groups (`unrepeatable_bare`). Its counts are read alike
(`alike_countRepetition`); no number is behind the pattern, so a count that is cut off fails for
both.
-/

namespace LineShell.Regex.Read

variable {P : Text} {r r' : Reader}

/-! ### Texts that may come next -/

/-- A text without a parenthesis comes next for both readers or for neither. -/
theorem isPrefixOf_append {t : Text} (ht : ')' ∉ t) (u : Text) :
    t.isPrefixOf (u ++ behind) = t.isPrefixOf u := by
  induction t generalizing u with
  | nil => simp
  | cons c t ih =>
    have hc : c ≠ ')' := fun heq ↦ ht (heq ▸ List.mem_cons_self)
    cases u with
    | nil =>
      rw [List.nil_append, behind, List.isPrefixOf_cons_cons, beq_false_of_ne hc, Bool.false_and]
      rfl
    | cons d u =>
      rw [List.cons_append, List.isPrefixOf_cons_cons, List.isPrefixOf_cons_cons,
        ih (fun hmem ↦ ht (List.mem_cons_of_mem c hmem))]

theorem alike_bumpIf {t : Text} (ht : ')' ∉ t) (h : Enclosed P r r') {n : Nat}
    (hn : r.rest.length ≤ n) : Alike (Beside P Eq n) Prompt (bumpIf t r) (bumpIf t r') := by
  have heq : t.isPrefixOf r'.rest = t.isPrefixOf r.rest := by
    rcases h.rest with hrest | ⟨-, hend, hend'⟩
    · rw [hrest, isPrefixOf_append ht]
    · rw [hend, hend']
  rw [bumpIf, get_bind, get_bind, heq]
  cases hprefix : t.isPrefixOf r.rest with
  | false => exact .ok ⟨rfl, h, hn⟩
  | true =>
    have hlength := (List.isPrefixOf_iff_prefix.1 hprefix).length_le
    refine .ok ⟨rfl, ?_, ?_⟩
    · refine ⟨(List.drop_suffix _ _).trans h.suffix, ?_, h.loose, h.flag, h.groups, h.names⟩
      rcases h.rest with hrest | ⟨hends, hend, hend'⟩
      · exact .inl (by rw [hrest, List.drop_append_of_le_length hlength])
      · exact .inr ⟨hends, by rw [hend, List.drop_nil], by rw [hend', List.drop_nil]⟩
    · show (r.rest.drop t.length).length ≤ n
      rw [List.length_drop]
      omega

theorem alike_bumpIfAny (ts : List String) (hts : ∀ t ∈ ts, ')' ∉ t.toList) (h : Enclosed P r r')
    {n : Nat} (hn : r.rest.length ≤ n) :
    Alike (Beside P Eq n) Prompt (bumpIfAny ts r) (bumpIfAny ts r') := by
  induction ts generalizing r r' with
  | nil => exact .ok ⟨rfl, h, hn⟩
  | cons t ts ih =>
    rw [bumpIfAny]
    refine (alike_bumpIf (hts t List.mem_cons_self) h hn).bind_prompt ?_
    rintro ⟨found, s⟩ ⟨_, s'⟩ ⟨rfl, hs, hlength⟩
    cases found with
    | true => exact .ok ⟨rfl, hs, hlength⟩
    | false => exact ih (fun t ht ↦ hts t (List.mem_cons_of_mem _ ht)) hs hlength

/-! ### Flags -/

/-- The list of flags is the same, and if it names `x` so does the pattern. -/
def SameFlags (P : Text) (items items' : List FlagItem) : Prop :=
  items' = items ∧ (.flag .ignoreBlanks ∈ items → 'x' ∈ P)

theorem eq_of_ofChar {c : Char} (h : Flag.ofChar? c = some .ignoreBlanks) : c = 'x' := by
  rw [Flag.ofChar?.eq_def] at h
  split at h <;> first | rfl | cases h

/-- The list of flags at its end. -/
def endFlags (items : List (FlagItem × Span)) : Except Fault (List FlagItem) :=
  match items with
  | (.negation, last) :: _ => .error ⟨.flagDanglingNegation, last, none⟩
  | _ => .ok (items.map Prod.fst).reverse

/-- The list of flags with one more entry. -/
def addItem (item : FlagItem) (span : Span) (items : List (FlagItem × Span)) :
    Except Fault (List (FlagItem × Span)) :=
  match items.find? (·.1 == item) with
  | some (_, earlier) =>
    .error ⟨if item == .negation then .flagRepeatedNegation else .flagDuplicate, span, some earlier⟩
  | none => .ok ((item, span) :: items)

/-- The entry of a list of flags that a character stands for. -/
def itemOf? (c : Char) : Option FlagItem :=
  if c = '-' then some .negation else (Flag.ofChar? c).map FlagItem.flag

theorem flagItems_succ_run (fuel : Nat) (items : List (FlagItem × Span)) (r : Reader) :
    flagItems (fuel + 1) items r = match r.rest.head? with
      | none => .error ⟨.flagUnfinished, ⟨r.pos, r.pos⟩, none⟩
      | some c => if c = ':' ∨ c = ')' then (endFlags items).map fun items ↦ (items, r)
        else match itemOf? c with
          | none => .error ⟨.flagUnrecognized, ⟨r.pos, r.pass.pos⟩, none⟩
          | some item => addItem item ⟨r.pos, r.pass.pos⟩ items >>= fun items ↦
            if r.pass.rest.isEmpty then .error ⟨.flagUnfinished, ⟨r.pass.pos, r.pass.pos⟩, none⟩
            else flagItems fuel items r.pass := by
  rw [flagItems.eq_def]
  dsimp only
  rw [peek_bind]
  cases r.rest.head? with
  | none => rfl
  | some c =>
    dsimp only
    rw [charSpan_bind]
    by_cases hclose : c = ':' ∨ c = ')'
    · rw [if_pos hclose, if_pos hclose]
      match items with
      | [] => rfl
      | (.negation, last) :: items => rfl
      | (.flag f, span) :: items => rfl
    · rw [if_neg hclose, if_neg hclose]
      have hadd (item : FlagItem) : (match items.find? (·.1 == item) with
          | some (_, earlier) =>
            fault (if item == .negation then .flagRepeatedNegation else .flagDuplicate)
              ⟨r.pos, r.pass.pos⟩ (some earlier)
          | none => do
            if ← bump then flagItems fuel ((item, ⟨r.pos, r.pass.pos⟩) :: items)
            else faultHere .flagUnfinished : Read (List FlagItem)) r =
          addItem item ⟨r.pos, r.pass.pos⟩ items >>= fun items ↦
            if r.pass.rest.isEmpty then .error ⟨.flagUnfinished, ⟨r.pass.pos, r.pass.pos⟩, none⟩
            else flagItems fuel items r.pass := by
        rw [addItem]
        cases items.find? (·.1 == item) with
        | some found => rfl
        | none =>
          dsimp only
          rw [bump_bind]
          cases r.pass.rest.isEmpty <;> rfl
      by_cases hdash : c = '-'
      · rw [if_pos hdash, itemOf?, if_pos hdash]
        exact hadd .negation
      · rw [if_neg hdash, itemOf?, if_neg hdash]
        cases Flag.ofChar? c with
        | none => rfl
        | some f => exact hadd (.flag f)

/-- The entries are the same but for spans, and if `x` is one of them it stands in the pattern. -/
def SameItems (P : Text) (items items' : List (FlagItem × Span)) : Prop :=
  SameFlags P (items.map Prod.fst) (items'.map Prod.fst)

theorem alike_endFlags {items items' : List (FlagItem × Span)} (h : SameItems P items items') :
    Alike (SameFlags P) Prompt (endFlags items) (endFlags items') := by
  obtain ⟨hmap, hflag⟩ := h
  have hmem : .flag .ignoreBlanks ∈ (items.map Prod.fst).reverse → 'x' ∈ P := fun hmem ↦
    hflag (List.mem_reverse.1 hmem)
  cases items with
  | nil =>
    obtain rfl := List.map_eq_nil_iff.1 hmap
    exact .ok ⟨rfl, hmem⟩
  | cons entry items =>
    obtain ⟨⟨item', span'⟩, items', rfl, rfl, hrest⟩ := List.map_eq_cons_iff.1 hmap
    obtain ⟨item, span⟩ := entry
    cases item with
    | negation => exact .error _ _
    | flag f => exact .ok ⟨congrArg List.reverse hmap, hmem⟩

theorem alike_addItem {items items' : List (FlagItem × Span)} (h : SameItems P items items')
    {item : FlagItem} (hitem : item = .flag .ignoreBlanks → 'x' ∈ P) (span span' : Span) :
    Alike (SameItems P) Prompt (addItem item span items) (addItem item span' items') := by
  obtain ⟨hmap, hflag⟩ := h
  have hfind : (items'.find? (·.1 == item)).map Prod.fst =
      (items.find? (·.1 == item)).map Prod.fst := by
    have hmapped (items : List (FlagItem × Span)) :
        (items.find? (·.1 == item)).map Prod.fst = (items.map Prod.fst).find? (· == item) := by
      rw [List.find?_map]
      rfl
    rw [hmapped, hmapped, hmap]
  rw [addItem, addItem]
  cases hfound : items.find? (·.1 == item) with
  | none =>
    rw [hfound, Option.map_none, Option.map_eq_none_iff] at hfind
    rw [hfind]
    refine .ok ⟨by rw [List.map_cons, List.map_cons, hmap], fun hmem ↦ ?_⟩
    rw [List.map_cons] at hmem
    rcases List.mem_cons.1 hmem with heq | hmem
    · exact hitem heq.symm
    · exact hflag hmem
  | some found =>
    rw [hfound, Option.map_some, Option.map_eq_some_iff] at hfind
    obtain ⟨found', hfound', -⟩ := hfind
    rw [hfound']
    exact .error _ _

theorem eq_of_itemOf {c : Char} (h : itemOf? c = some (.flag .ignoreBlanks)) : c = 'x' := by
  rw [itemOf?] at h
  split at h
  · cases h
  · obtain ⟨f, hf, heq⟩ := Option.map_eq_some_iff.1 h
    cases heq
    exact eq_of_ofChar hf

theorem vain_flagItems (h : r.rest = behind) (fuel : Nat) (items : List (FlagItem × Span)) :
    Vain (fun z : List FlagItem × Reader ↦ z.2.rest = behind) (flagItems fuel items r) := by
  cases fuel with
  | zero => exact .ok h
  | succ fuel =>
    rw [flagItems_succ_run, h]
    simp only [behind, List.head?_cons]
    rw [if_pos (by decide)]
    cases endFlags items with
    | error f => exact .error f
    | ok items => exact .ok h

theorem flagItems_of_end (h : r.rest = []) (fuel : Nat) (items : List (FlagItem × Span)) :
    flagItems (fuel + 1) items r = .error ⟨.flagUnfinished, ⟨r.pos, r.pos⟩, none⟩ := by
  rw [flagItems_succ_run, h]
  rfl

theorem alike_flagItems {fuel fuel' n : Nat} (h : Enclosed P r r') (hfuel : r.rest.length < fuel)
    (hfuel' : r'.rest.length < fuel') (hn : r.rest.length ≤ n)
    {items items' : List (FlagItem × Span)} (hitems : SameItems P items items') :
    Alike (Inside P (SameFlags P) n) (fun z ↦ z.2.rest = behind) (flagItems fuel items r)
      (flagItems fuel' items' r') := by
  induction fuel generalizing fuel' r r' items items' with
  | zero => exact absurd hfuel (Nat.not_lt_zero _)
  | succ fuel ih =>
    obtain ⟨fuel', rfl⟩ := Nat.exists_eq_succ_of_ne_zero (Nat.ne_zero_of_lt hfuel')
    rcases h.cases with ⟨⟨c, hc, hc'⟩, hne, hne'⟩ | ⟨hend, hend'⟩ | ⟨hend, hend'⟩
    · rw [flagItems_succ_run, flagItems_succ_run, hc, hc']
      dsimp only
      by_cases hclose : c = ':' ∨ c = ')'
      · rw [if_pos hclose, if_pos hclose]
        exact ((alike_endFlags hitems).map fun _ _ hflags ↦ ⟨⟨hflags, h, hn⟩, hne⟩).of_prompt
      · rw [if_neg hclose, if_neg hclose]
        cases hitem : itemOf? c with
        | none => exact .error _ _
        | some item =>
          have hx : item = .flag .ignoreBlanks → 'x' ∈ P := by
            rintro rfl
            exact eq_of_itemOf hitem ▸ h.suffix.subset (List.mem_of_mem_head? hc)
          have hpass := h.pass hne
          have hlt := Reader.length_pass_lt hne
          have hlt' := Reader.length_pass_lt hne'
          refine (alike_addItem hitems hx _ _).bind_prompt fun items items' hitems ↦ ?_
          refine alike_unlessEmpty hpass (fun _ _ ↦ ?_) fun _ hbehind f ↦ ?_
          · exact ih hpass (by omega) (by omega) (by omega) hitems
          · exact (vain_flagItems hbehind fuel' items').alike f
    · rw [flagItems_of_end hend]
      exact (vain_flagItems hend' (fuel' + 1) items').alike _
    · rw [flagItems_of_end hend, flagItems_of_end hend']
      exact .error _ _

/-! ### Names -/

theorem isNameChar_parenthesis (first : Bool) : isNameChar first ')' = false := by
  cases first <;> decide +kernel

theorem nameChars_succ_run (first : Bool) (fuel : Nat) (r : Reader) :
    nameChars first (fuel + 1) r = match r.rest.head? with
      | none => .ok ([], r)
      | some c => if c = '>' then .ok ([], r)
        else if !isNameChar first c then .error ⟨.groupNameInvalid, ⟨r.pos, r.pass.pos⟩, none⟩
        else nameChars false fuel r.pass >>= fun z ↦ .ok (c :: z.1, z.2) := by
  rw [nameChars, peek_bind]
  cases r.rest.head? with
  | none => rfl
  | some c =>
    dsimp only
    by_cases hclose : c = '>'
    · rw [if_pos hclose, if_pos hclose]
      rfl
    · rw [if_neg hclose, if_neg hclose]
      cases isNameChar first c with
      | false => exact faultAtChar_run r _
      | true =>
        simp only [Bool.not_true, Bool.false_eq_true, if_false, bump_bind]
        rfl

/-- Behind the end no name is closed. -/
theorem rest_of_nameChars (h : Enclosed P r r') (hend : r.rest = []) {fuel : Nat}
    (hfuel : r'.rest.length ≤ fuel) (first : Bool) {z : Text × Reader}
    (hz : nameChars first fuel r' = .ok z) : z.2.rest = [] := by
  cases fuel with
  | zero =>
    cases hz
    exact List.length_eq_zero_iff.1 (Nat.le_zero.1 hfuel)
  | succ fuel =>
    rw [nameChars_succ_run] at hz
    rcases h.cases with ⟨-, hne, -⟩ | ⟨-, hend'⟩ | ⟨-, hend'⟩
    · exact absurd hend hne
    · rw [hend'] at hz
      simp only [behind, List.head?_cons, isNameChar_parenthesis, Bool.not_false, if_true] at hz
      rw [if_neg (by decide)] at hz
      cases hz
    · rw [hend'] at hz
      cases hz
      exact hend'

theorem alike_nameChars (h : Enclosed P r r') {fuel fuel' n : Nat} (hfuel : r.rest.length ≤ fuel)
    (hfuel' : r'.rest.length ≤ fuel') (hn : r.rest.length ≤ n) (first : Bool) :
    Delimited P n (nameChars first fuel r) (nameChars first fuel' r') := by
  induction fuel generalizing fuel' r r' first with
  | zero =>
    have hend : r.rest = [] := List.length_eq_zero_iff.1 (Nat.le_zero.1 hfuel)
    exact .unclosed hend fun z ↦ rest_of_nameChars h hend hfuel' first
  | succ fuel ih =>
    by_cases hend : r.rest = []
    · rw [nameChars_succ_run, hend]
      exact .unclosed hend fun z ↦ rest_of_nameChars h hend hfuel' first
    · have hpass := h.pass hend
      have hlt := Reader.length_pass_lt hend
      have hlt' := Reader.length_pass_lt (h.ne hend)
      obtain ⟨fuel', rfl⟩ := Nat.exists_eq_succ_of_ne_zero (show fuel' ≠ 0 by omega)
      obtain ⟨c, u, hc⟩ := List.exists_cons_of_ne_nil hend
      rw [nameChars_succ_run, nameChars_succ_run, h.head_eq hend, hc, List.head?_cons]
      dsimp only
      split
      · exact .ok ⟨⟨rfl, h, hn⟩, hend⟩
      · split
        · exact .error _ _
        · exact (ih hpass (by omega) (by omega) (by omega) false).cons c

theorem groupName_run (index : Nat) (r : Reader) : groupName index r =
    if r.rest.isEmpty then .error ⟨.groupNameUnfinished, ⟨r.pos, r.pos⟩, none⟩
    else nameChars true r.rest.length r >>= fun z ↦
      if z.2.rest.isEmpty then .error ⟨.groupNameUnfinished, ⟨z.2.pos, z.2.pos⟩, none⟩
      else if z.1.isEmpty then .error ⟨.groupNameEmpty, ⟨r.pos, r.pos⟩, none⟩
      else match z.2.pass.names.find? (·.1 == z.1) with
        | some (_, _, earlier) => .error ⟨.groupNameDuplicate, ⟨r.pos, z.2.pos⟩, some earlier⟩
        | none => .ok ((), { z.2.pass with
          names := z.2.pass.names ++ [(z.1, index, ⟨r.pos, z.2.pos⟩)] }) := by
  rw [groupName, atEnd_bind]
  cases r.rest.isEmpty with
  | true => rfl
  | false =>
    simp only [Bool.false_eq_true, if_false, pos_bind, get_bind]
    show nameChars true r.rest.length r >>= _ = _
    refine congrArg (nameChars true r.rest.length r >>= ·) (funext fun z ↦ ?_)
    obtain ⟨name, s⟩ := z
    simp only [pos_bind, atEnd_bind]
    cases s.rest.isEmpty with
    | true => rfl
    | false =>
      simp only [Bool.false_eq_true, if_false, bump_bind]
      cases name.isEmpty with
      | true => rfl
      | false =>
        simp only [Bool.false_eq_true, if_false, get_bind]
        cases s.pass.names.find? (·.1 == name) <;> rfl

/-- A name is taken for both readers or for neither. -/
theorem find?_names (h : Enclosed P r r') (name : Text) :
    (r'.names.find? (·.1 == name)).isSome = (r.names.find? (·.1 == name)).isSome := by
  have hmapped (names : List (Text × Nat × Span)) (k : Nat) :
      (names.find? (·.1 == name)).isSome =
        ((names.map fun n ↦ (n.1, n.2.1 + k)).find? (·.1 == name)).isSome := by
    rw [List.find?_map, Option.isSome_map]
    rfl
  rw [hmapped r'.names 0, hmapped r.names 1]
  exact congrArg (fun names ↦ (names.find? (·.1 == name)).isSome) h.names

/-- The name of a group is the same, and its number is greater by the group around. -/
theorem alike_groupName (h : Enclosed P r r') {n : Nat} (hn : r.rest.length ≤ n)
    {index index' : Nat} (hindex : index' = index + 1) :
    Alike (Beside P Eq n) Prompt (groupName index r) (groupName index' r') := by
  subst hindex
  rw [groupName_run, groupName_run]
  refine alike_unlessEmpty h (fun hne hne' ↦ ?_) fun hend hbehind f ↦ ?_
  · refine (alike_nameChars h (Nat.le_refl _) (Nat.le_refl _) hn true).bind ?_ ?_ ?_
    · rintro name s s' ⟨⟨-, hs, hlength⟩, hsne⟩
      have hpass := hs.pass hsne
      have hlt := Reader.length_pass_lt hsne
      have hfind := find?_names hpass name
      dsimp only
      simp only [List.isEmpty_eq_false_iff.2 hsne, List.isEmpty_eq_false_iff.2 (hs.ne hsne),
        Bool.false_eq_true, if_false]
      split
      · exact .error _ _
      · cases hfound : s.pass.names.find? (·.1 == name) with
        | some entry =>
          rw [hfound, Option.isSome_some, Option.isSome_iff_exists] at hfind
          obtain ⟨entry', hfound'⟩ := hfind
          rw [hfound']
          exact .error _ _
        | none =>
          rw [hfound, Option.isSome_none, Option.isSome_eq_false_iff,
            Option.isNone_iff_eq_none] at hfind
          rw [hfind]
          refine .ok ⟨rfl, ?_, show s.pass.rest.length ≤ n by omega⟩
          refine ⟨hpass.suffix, hpass.rest, hpass.loose, hpass.flag, hpass.groups, ?_⟩
          simp only [List.map_append, hpass.names, List.map_cons, List.map_nil]
    · rintro ⟨name, s⟩ (hend : s.rest = [])
      exact ⟨_, by simp only [hend, List.isEmpty_nil, if_true]; rfl⟩
    · rintro ⟨name, s⟩ (hend : s.rest = [])
      exact ⟨_, by simp only [hend, List.isEmpty_nil, if_true]; rfl⟩
  · have hname : Vain (fun z : Text × Reader ↦ z.2.rest = [])
        (nameChars true r'.rest.length r') :=
      fun z ↦ rest_of_nameChars h hend (Nat.le_refl _) true
    refine Vain.alike (hname.bind ?_) f
    rintro ⟨name, s⟩ (hend : s.rest = [])
    simp only [hend, List.isEmpty_nil, if_true]
    exact .error _

/-! ### What opens -/

/-- A group behind the group around, or the same setting of flags. -/
inductive SameStart (P : Text) : Opening → Opening → Prop where
  | setting {items items' : List FlagItem} (span span' : Span) (h : SameFlags P items items') :
    SameStart P (.setting span items) (.setting span' items')
  | flags {items items' : List FlagItem} (span span' : Span) (h : SameFlags P items items') :
    SameStart P (.group span (.flags items)) (.group span' (.flags items'))
  | capture {index index' : Nat} (span span' : Span) (h : index' = index + 1) :
    SameStart P (.group span (.capture index)) (.group span' (.capture index'))

/-- What a mark behind the parenthesis opens: flags, for the group or to the end of the one
around. -/
def openFlags (span : Span) (inner : Position) : Read Opening := do
  if ← atEnd then fault .groupUnclosed span none
  let items ← flagItems ((← get).rest.length + 1) []
  let close ← peek?
  let _ ← bump
  if close = some ')' then
    if items.isEmpty then faultFrom .repetitionMissing inner inner
    return .setting ⟨span.start, ← pos⟩ items
  else return .group span (.flags items)

theorem openFlags_run (span : Span) (inner : Position) (r : Reader) : openFlags span inner r =
    if r.rest.isEmpty then .error ⟨.groupUnclosed, span, none⟩
    else flagItems (r.rest.length + 1) [] r >>= fun z ↦
      if z.2.rest.head? = some ')' then
        if z.1.isEmpty then .error ⟨.repetitionMissing, ⟨inner, inner⟩, none⟩
        else .ok (.setting ⟨span.start, z.2.pass.pos⟩ z.1, z.2.pass)
      else .ok (.group span (.flags z.1), z.2.pass) := by
  rw [openFlags, atEnd_bind]
  cases r.rest.isEmpty with
  | true => rfl
  | false =>
    simp only [Bool.false_eq_true, if_false, get_bind]
    show flagItems (r.rest.length + 1) [] r >>= _ = _
    refine congrArg (flagItems (r.rest.length + 1) [] r >>= ·) (funext fun z ↦ ?_)
    obtain ⟨items, s⟩ := z
    simp only [peek_bind, bump_bind]
    split
    · cases items.isEmpty <;> rfl
    · rfl

theorem alike_openFlags (h : Enclosed P r r') {n : Nat} (hn : r.rest.length ≤ n) (span span' : Span)
    (inner inner' : Position) :
    Alike (Beside P (SameStart P) n) (fun z ↦ Gone z.2) (openFlags span inner r)
      (openFlags span' inner' r') := by
  have hempty : SameItems P [] [] := ⟨rfl, nofun⟩
  -- Behind the end of the pattern the list of flags ends at the parenthesis, which is passed.
  have hlate {z : List FlagItem × Reader} (hz : z.2.rest = behind) :
      Vain (fun z : Opening × Reader ↦ Gone z.2) (if z.2.rest.head? = some ')' then
        if z.1.isEmpty then .error ⟨.repetitionMissing, ⟨inner', inner'⟩, none⟩
        else .ok (.setting ⟨span'.start, z.2.pass.pos⟩ z.1, z.2.pass)
      else .ok (.group span' (.flags z.1), z.2.pass)) := by
    have hgone : Gone z.2.pass := .of_eq (by rw [Reader.rest_pass, hz])
    split
    · split
      · exact .error _
      · exact .ok hgone
    · exact .ok hgone
  rw [openFlags_run, openFlags_run]
  refine alike_unlessEmpty h (fun hne hne' ↦ ?_) fun hend hbehind f ↦ ?_
  · refine (alike_flagItems h (Nat.lt_succ_self _) (Nat.lt_succ_self _) hn hempty).bind ?_ ?_
    · rintro ⟨items, s⟩ ⟨items', s'⟩ ⟨⟨hitems, hs, hlength⟩, hsne⟩
      have hpass := hs.pass hsne
      have hlt := Reader.length_pass_lt hsne
      have hempty : items'.isEmpty = items.isEmpty := congrArg List.isEmpty hitems.1
      dsimp only
      rw [hs.head_eq hsne, hempty]
      split
      · split
        · exact .error _ _
        · exact .ok ⟨.setting _ _ hitems, hpass, by omega⟩
      · exact .ok ⟨.flags _ _ hitems, hpass, by omega⟩
    · exact fun z hz f ↦ (hlate hz).alike f
  · exact Vain.alike ((vain_flagItems hbehind _ []).bind fun z ↦ hlate) f

theorem nextGroup_bind {β : Type} (r : Reader) (next : Nat → Read β) :
    (nextGroup >>= next) r = next (r.groups + 1) { r with groups := r.groups + 1 } := rfl

/-- Both readers count a group. -/
theorem enclosed_nextGroup (h : Enclosed P r r') :
    Enclosed P { r with groups := r.groups + 1 } { r' with groups := r'.groups + 1 } :=
  ⟨h.suffix, h.rest, h.loose, h.flag, congrArg (· + 1) h.groups, h.names⟩

theorem alike_opening (h : Enclosed P r r') (hne : r.rest ≠ []) {n : Nat}
    (hn : r.rest.length ≤ n + 1) :
    Alike (Beside P (SameStart P) n) (fun z ↦ Gone z.2) (opening r) (opening r') := by
  have hover := h.passOver hne
  have hlt := Reader.length_passOver_lt hne
  have hcapture {r r' : Reader} (h : Enclosed P r r') (hn : r.rest.length ≤ n) (span span' : Span) :
      Beside P (SameStart P) n
        (.group span (.capture (r.groups + 1)), { r with groups := r.groups + 1 })
        (.group span' (.capture (r'.groups + 1)), { r' with groups := r'.groups + 1 }) :=
    ⟨.capture span span' (congrArg (· + 1) h.groups), enclosed_nextGroup h, hn⟩
  rw [opening]
  simp only [charSpan_bind, bump_bind, skipBlanks_bind]
  refine (alike_bumpIfAny (n := n) _ (by decide) hover (by omega)).bind_prompt ?_
  rintro ⟨around, s⟩ ⟨_, s'⟩ ⟨rfl, hs, hlength⟩
  cases around with
  | true => exact .error _ _
  | false =>
    simp only [Bool.false_eq_true, if_false, pos_bind]
    refine (alike_bumpIfAny _ (by decide) hs hlength).bind_prompt ?_
    rintro ⟨named, s⟩ ⟨_, s'⟩ ⟨rfl, hs, hlength⟩
    cases named with
    | true =>
      simp only [if_true, nextGroup_bind]
      have hindex : s'.groups + 1 = (s.groups + 1) + 1 := congrArg (· + 1) hs.groups
      refine (alike_groupName (enclosed_nextGroup hs) hlength hindex).bind_prompt ?_
      rintro ⟨_, s⟩ ⟨_, s'⟩ ⟨-, hs, hlength⟩
      exact .ok ⟨.capture _ _ hindex, hs, hlength⟩
    | false =>
      simp only [Bool.false_eq_true, if_false]
      refine (alike_bumpIf (by decide) hs hlength).bind_prompt ?_
      rintro ⟨marked, s⟩ ⟨_, s'⟩ ⟨rfl, hs, hlength⟩
      cases marked with
      | false =>
        simp only [Bool.false_eq_true, if_false, nextGroup_bind]
        exact .ok (hcapture hs hlength _ _)
      | true => exact alike_openFlags hs hlength _ _ _ _

/-! ### Repetitions -/

/-- The concatenations are the same but for spans and the number of groups in front. -/
def SameSequence (s t : Sequence) : Prop :=
  t.parts.map (Pattern.bare 0) = s.parts.map (Pattern.bare 1)

/-- Whether a repetition cannot stand behind the piece of pattern. -/
def unrepeatable : Pattern → Bool
  | .empty _ => true
  | .flags _ _ => true
  | _ => false

theorem unrepeatable_bare (k : Nat) (p : Pattern) : unrepeatable (p.bare k) = unrepeatable p := by
  cases p <;> rfl

theorem repeated_run (s : Sequence) (r : Reader) : repeated s r = match s.parts with
    | [] => .error ⟨.repetitionMissing, ⟨r.pos, r.pos⟩, none⟩
    | part :: parts => if unrepeatable part then .error ⟨.repetitionMissing, ⟨r.pos, r.pos⟩, none⟩
      else .ok ((part, { s with parts }), r) := by
  obtain ⟨span, parts⟩ := s
  cases parts with
  | nil => rfl
  | cons part parts => cases part <;> rfl

/-- What is repeated and what is left in front of it. -/
def SameRepeated (x y : Pattern × Sequence) : Prop := SamePattern x.1 y.1 ∧ SameSequence x.2 y.2

theorem alike_repeated {s s' : Sequence} (hs : SameSequence s s') (r r' : Reader) :
    Alike (fun x y ↦ SameRepeated x.1 y.1 ∧ x.2 = r ∧ y.2 = r') Prompt (repeated s r)
      (repeated s' r') := by
  obtain ⟨span, parts⟩ := s
  obtain ⟨span', parts'⟩ := s'
  rw [repeated_run, repeated_run]
  cases parts with
  | nil =>
    obtain rfl : parts' = [] := List.map_eq_nil_iff.1 hs
    exact .error _ _
  | cons part parts =>
    obtain ⟨part', parts', rfl, hpart, hparts⟩ := List.map_eq_cons_iff.1 hs
    have hrepeat : unrepeatable part' = unrepeatable part := by
      rw [← unrepeatable_bare 0, hpart, unrepeatable_bare]
    dsimp only
    rw [hrepeat]
    split
    · exact .error _ _
    · exact .ok ⟨⟨hpart, hparts⟩, rfl, rfl⟩

theorem SameSequence.repeat {s s' : Sequence} (hs : SameSequence s s') {p p' : Pattern}
    (hp : SamePattern p p') (least : Nat) (most : Option Nat) (greedy : Bool)
    (stop stop' : Position) :
    SameSequence (s.repeat p least most greedy stop) (s'.repeat p' least most greedy stop') := by
  show List.map _ (_ :: s'.parts) = List.map _ (_ :: s.parts)
  rw [List.map_cons, List.map_cons, hs, Pattern.bare, Pattern.bare, hp]

theorem signRepetition_run (s : Sequence) (least : Nat) (most : Option Nat) (r : Reader) :
    signRepetition s least most r = repeated s r >>= fun z ↦
      if z.2.pass.rest.head? = some '?' then
        .ok (z.1.2.repeat z.1.1 least most false z.2.pass.pass.pos, z.2.pass.pass)
      else .ok (z.1.2.repeat z.1.1 least most true z.2.pass.pos, z.2.pass) := by
  rw [signRepetition]
  show repeated s r >>= _ = _
  refine congrArg (repeated s r >>= ·) (funext fun z ↦ ?_)
  obtain ⟨⟨p, s⟩, r⟩ := z
  dsimp only
  rw [bump_bind]
  cases hrest : r.pass.rest with
  | nil =>
    simp only [List.isEmpty_nil, Bool.not_true, Bool.false_eq_true, if_false, pos_bind,
      List.head?_nil]
    rfl
  | cons c u =>
    simp only [List.isEmpty_cons, Bool.not_false, if_true, peek_bind, hrest]
    split
    · rw [bump_bind]
      rfl
    · rfl

theorem alike_signRepetition {s s' : Sequence} (hs : SameSequence s s') (h : Enclosed P r r')
    (hne : r.rest ≠ []) {n : Nat} (hn : r.rest.length ≤ n + 1) (least : Nat) (most : Option Nat) :
    Alike (Beside P SameSequence n) Prompt (signRepetition s least most r)
      (signRepetition s' least most r') := by
  rw [signRepetition_run, signRepetition_run]
  have hpass := h.pass hne
  have hlt := Reader.length_pass_lt hne
  refine (alike_repeated hs r r').bind_prompt ?_
  rintro ⟨⟨p, t⟩, s⟩ ⟨⟨p', t'⟩, s'⟩ ⟨⟨hp, ht⟩, hr, hr'⟩
  obtain rfl : r = s := hr.symm
  obtain rfl : r' = s' := hr'.symm
  dsimp only
  simp only [hpass.head_iff (show '?' ≠ ')' by decide)]
  split
  · next hlazy =>
    have hmore := Reader.ne_of_head hlazy
    have hlt' := Reader.length_pass_lt hmore
    exact .ok ⟨ht.repeat hp _ _ _ _ _, hpass.pass hmore, by omega⟩
  · exact .ok ⟨ht.repeat hp _ _ _ _ _, hpass, by omega⟩

/-- The number that was read, or its fault. -/
theorem ofExcept_bind {α β : Type} (x : Except Fault α) (next : α → Read β) (r : Reader) :
    ((MonadExcept.ofExcept x : Read α) >>= next) r = x >>= fun a ↦ next a r := by
  cases x <;> rfl

/-- The counts behind the comma, given the first one. -/
def countsFrom (least : Except Fault Nat) : Read (Nat × Option Nat) := do
  let least ← MonadExcept.ofExcept least
  if (← peek?) = some '}' then return (least, none)
  let most ← MonadExcept.ofExcept (← decimal)
  return (least, some most)

theorem counts_run (start : Position) (r : Reader) : counts start r = decimal r >>= fun z ↦
    if z.2.rest.isEmpty then .error ⟨.repetitionCountUnclosed, ⟨start, z.2.pos⟩, none⟩
    else if z.2.rest.head? = some ',' then
      if z.2.passOver.rest.isEmpty then
        .error ⟨.repetitionCountUnclosed, ⟨start, z.2.passOver.pos⟩, none⟩
      else countsFrom z.1 z.2.passOver
    else z.1 >>= fun least ↦ .ok ((least, some least), z.2) := by
  rw [counts]
  show decimal r >>= _ = _
  refine congrArg (decimal r >>= ·) (funext fun z ↦ ?_)
  obtain ⟨least, r⟩ := z
  dsimp only
  rw [atEnd_bind]
  cases r.rest.isEmpty with
  | true => rfl
  | false =>
    simp only [Bool.false_eq_true, if_false, peek_bind]
    split
    · rw [bumpOver_bind]
      cases r.passOver.rest.isEmpty <;> rfl
    · rw [ofExcept_bind]
      rfl

/-- A repetition behind its counts. -/
def closeCounts (s : Sequence) (body : Pattern) (start : Position) (least : Nat)
    (most : Option Nat) : Read Sequence := do
  if (← peek?) ≠ some '}' then faultFrom .repetitionCountUnclosed start (← pos)
  let mut greedy := true
  if ← bumpOver then
    if (← peek?) = some '?' then
      greedy := false
      let _ ← bump
  let stop ← pos
  match most with
  | some most => if most < least then faultFrom .repetitionCountInvalid start stop
  | none => pure ()
  return s.repeat body least most greedy stop

theorem countRepetition_run (s : Sequence) (r : Reader) : countRepetition s r =
    repeated s r >>= fun z ↦
      if z.2.passOver.rest.isEmpty then
        .error ⟨.repetitionCountUnclosed, ⟨r.pos, z.2.passOver.pos⟩, none⟩
      else counts r.pos z.2.passOver >>= fun y ↦
        closeCounts z.1.2 z.1.1 r.pos y.1.1 y.1.2 y.2 := by
  rw [countRepetition, pos_bind]
  show repeated s r >>= _ = _
  refine congrArg (repeated s r >>= ·) (funext fun z ↦ ?_)
  obtain ⟨⟨p, s⟩, r⟩ := z
  dsimp only
  rw [bumpOver_bind]
  cases r.passOver.rest.isEmpty <;> rfl

/-- Whether the greatest count is less than the least one. -/
def invertedCounts (least : Nat) (most : Option Nat) : Bool :=
  most.any fun most ↦ decide (most < least)

theorem closeCounts_run (s : Sequence) (body : Pattern) (start : Position) (least : Nat)
    (most : Option Nat) (r : Reader) : closeCounts s body start least most r =
    if r.rest.head? ≠ some '}' then .error ⟨.repetitionCountUnclosed, ⟨start, r.pos⟩, none⟩
    else
      let greedy := decide (r.passOver.rest.head? ≠ some '?')
      let after := if greedy then r.passOver else r.passOver.pass
      if invertedCounts least most then .error ⟨.repetitionCountInvalid, ⟨start, after.pos⟩, none⟩
      else .ok (s.repeat body least most greedy after.pos, after) := by
  rw [closeCounts, peek_bind]
  by_cases hclose : r.rest.head? = some '}'
  · simp only [hclose, ne_eq, not_true_eq_false, if_false, bumpOver_bind]
    have hgreedy (greedy : Bool) (r : Reader) : (match most with
        | some limit => do
          if limit < least then faultFrom .repetitionCountInvalid start r.pos
          return s.repeat body least most greedy r.pos
        | none => do
          return s.repeat body least most greedy r.pos : Read Sequence) r =
        if invertedCounts least most then .error ⟨.repetitionCountInvalid, ⟨start, r.pos⟩, none⟩
        else .ok (s.repeat body least most greedy r.pos, r) := by
      cases most with
      | none => rfl
      | some most =>
        by_cases hless : most < least <;> simp [invertedCounts, hless] <;> rfl
    cases hrest : r.passOver.rest with
    | nil =>
      simp only [List.isEmpty_nil, Bool.not_true, Bool.false_eq_true, if_false, pos_bind,
        List.head?_nil, reduceCtorEq, not_false_eq_true, decide_true, if_true]
      exact hgreedy true r.passOver
    | cons c u =>
      simp only [List.isEmpty_cons, Bool.not_false, if_true, peek_bind, hrest, List.head?_cons]
      by_cases hlazy : some c = some '?'
      · simp only [hlazy, if_true, bump_bind, pos_bind, not_true_eq_false, decide_false,
          Bool.false_eq_true, if_false]
        exact hgreedy false r.passOver.pass
      · simp only [hlazy, if_false, pos_bind, not_false_eq_true, decide_true, if_true]
        exact hgreedy true r.passOver
  · rw [if_pos hclose, if_pos hclose]
    rfl

/-- No number is behind the pattern. -/
theorem vain_decimal (h : r.rest = behind) :
    Vain (fun z : Except Fault Nat × Reader ↦ (∃ f, z.1 = .error f) ∧ z.2.rest = behind)
      (decimal r) := by
  have hskip {r : Reader} (h : r.rest = behind) : (r.skipWhile isBlankChar).rest = behind := by
    show r.rest.dropWhile isBlankChar = behind
    rw [h]
    decide +kernel
  have hstop : ∀ c ∈ (r.skipWhile isBlankChar).rest.head?, (Text.digit? c).isSome = false := by
    rw [hskip h]
    rintro c ⟨⟩
    decide
  rw [decimal, skipWhile_bind, pos_bind, get_bind, bind_of_ok _ (collect_of_stop hstop _), pos_bind,
    skipWhile_bind]
  exact .ok ⟨⟨_, rfl⟩, hskip (hskip h)⟩

theorem vain_countsFrom (h : r.rest = behind) (least : Except Fault Nat) :
    Vain Prompt (countsFrom least r) := by
  have hleast : Vain (fun _ ↦ True) least := fun _ _ ↦ trivial
  rw [countsFrom, ofExcept_bind]
  refine hleast.bind fun least _ ↦ ?_
  rw [peek_bind, if_neg (head_ne_of_suffix (suffix_behind h) (by decide))]
  refine (vain_decimal h).bind ?_
  rintro ⟨_, s⟩ ⟨⟨f, rfl⟩, -⟩
  exact .error f

theorem vain_counts (h : r.rest = behind) (start : Position) : Vain Prompt (counts start r) := by
  rw [counts_run]
  refine (vain_decimal h).bind ?_
  rintro ⟨_, s⟩ ⟨⟨f, rfl⟩, hs⟩
  dsimp only at hs ⊢
  rw [if_neg (by rw [hs]; decide), if_neg (head_ne_of_suffix (suffix_behind hs) (by decide))]
  exact .error f

theorem alike_countsFrom (h : Enclosed P r r') {n : Nat} (hn : r.rest.length ≤ n)
    {least least' : Except Fault Nat} (hleast : SameNumber least least') :
    Alike (Beside P Eq n) Prompt (countsFrom least r) (countsFrom least' r') := by
  rw [countsFrom, countsFrom, ofExcept_bind, ofExcept_bind]
  refine hleast.bind_prompt ?_
  rintro least _ rfl
  simp only [peek_bind, h.head_iff (show '}' ≠ ')' by decide)]
  split
  · exact .ok ⟨rfl, h, hn⟩
  · refine (alike_decimal h hn).bind_prompt ?_
    rintro ⟨most, s⟩ ⟨most', s'⟩ ⟨hmost, hs, hlength⟩
    dsimp only
    rw [ofExcept_bind, ofExcept_bind]
    refine Alike.bind_prompt hmost ?_
    rintro most _ rfl
    exact .ok ⟨rfl, hs, hlength⟩

theorem alike_counts (h : Enclosed P r r') {n : Nat} (hn : r.rest.length ≤ n)
    (start start' : Position) :
    Alike (Beside P Eq n) (fun z ↦ z.2.rest = behind) (counts start r) (counts start' r') := by
  rw [counts_run, counts_run]
  refine (alike_decimal h hn).bind_prompt ?_
  rintro ⟨least, s⟩ ⟨least', s'⟩ ⟨hleast, hs, hlength⟩
  refine alike_unlessEmpty hs (fun hne _ ↦ ?_) fun hend hbehind f ↦ ?_
  · have hover := hs.passOver hne
    have hlt : s.passOver.rest.length < s.rest.length := Reader.length_passOver_lt hne
    simp only [hs.head_iff (show ',' ≠ ')' by decide)]
    split
    · refine alike_unlessEmpty hover (fun _ _ ↦ ?_) fun _ hbehind f ↦ ?_
      · exact (alike_countsFrom hover (by omega) hleast).of_prompt
      · exact ((vain_countsFrom hbehind least').imp fun _ ↦ False.elim).alike f
    · refine Alike.bind_prompt hleast ?_
      rintro least _ rfl
      exact .ok ⟨rfl, hs, hlength⟩
  · have hany : Vain (fun _ ↦ True) least' := fun _ _ ↦ trivial
    have hok (least : Nat) : Vain (fun z : (Nat × Option Nat) × Reader ↦ z.2.rest = behind)
        (.ok ((least, some least), s')) := .ok hbehind
    rw [if_neg (head_ne_of_suffix (suffix_behind hbehind) (by decide))]
    exact Vain.alike (hany.bind fun least _ ↦ hok least) f

theorem alike_closeCounts {s s' : Sequence} (hs : SameSequence s s') {p p' : Pattern}
    (hp : SamePattern p p') (h : Enclosed P r r') {n : Nat} (hn : r.rest.length ≤ n)
    (start start' : Position) (least : Nat) (most : Option Nat) :
    Alike (Beside P SameSequence n) Prompt (closeCounts s p start least most r)
      (closeCounts s' p' start' least most r') := by
  rw [closeCounts_run, closeCounts_run]
  simp only [ne_eq, h.head_iff (show '}' ≠ ')' by decide)]
  split
  · exact .error _ _
  · next hclose =>
    have hne := Reader.ne_of_head (Decidable.not_not.1 hclose)
    have hover := h.passOver hne
    have hlt := Reader.length_passOver_lt hne
    have hafter {t t' : Reader} (ht : Enclosed P t t') (hlength : t.rest.length ≤ n)
        (greedy : Bool) :
        Alike (Beside P SameSequence n) Prompt
          (if invertedCounts least most then
              .error ⟨.repetitionCountInvalid, ⟨start, t.pos⟩, none⟩
            else .ok (s.repeat p least most greedy t.pos, t))
          (if invertedCounts least most then
              .error ⟨.repetitionCountInvalid, ⟨start', t'.pos⟩, none⟩
            else .ok (s'.repeat p' least most greedy t'.pos, t')) := by
      split
      · exact .error _ _
      · exact .ok ⟨hs.repeat hp _ _ _ _ _, ht, hlength⟩
    simp only [hover.head_iff (show '?' ≠ ')' by decide)]
    by_cases hlazy : r.passOver.rest.head? = some '?'
    · have hmore := Reader.ne_of_head hlazy
      have hlt' := Reader.length_pass_lt hmore
      simp only [hlazy, not_true_eq_false, decide_false, Bool.false_eq_true, if_false]
      exact hafter (hover.pass hmore) (by omega) false
    · simp only [hlazy, not_false_eq_true, decide_true, if_true]
      exact hafter hover (by omega) true

theorem alike_countRepetition {s s' : Sequence} (hs : SameSequence s s') (h : Enclosed P r r')
    (hne : r.rest ≠ []) {n : Nat} (hn : r.rest.length ≤ n + 1) :
    Alike (Beside P SameSequence n) Prompt (countRepetition s r) (countRepetition s' r') := by
  have hover := h.passOver hne
  have hlt := Reader.length_passOver_lt hne
  rw [countRepetition_run, countRepetition_run]
  refine (alike_repeated hs r r').bind_prompt ?_
  rintro ⟨⟨p, t⟩, s⟩ ⟨⟨p', t'⟩, s'⟩ ⟨⟨hp, ht⟩, hr, hr'⟩
  obtain rfl : r = s := hr.symm
  obtain rfl : r' = s' := hr'.symm
  refine alike_unlessEmpty hover (fun hpast _ ↦ ?_) fun hend hbehind f ↦ ?_
  · refine (alike_counts (n := n) hover (by omega) _ _).bind ?_ ?_
    · rintro ⟨⟨least, most⟩, s⟩ ⟨_, s'⟩ ⟨rfl, hs, hlength⟩
      exact alike_closeCounts ht hp hs hlength _ _ least most
    · rintro ⟨⟨least, most⟩, s⟩ (hbehind : s.rest = behind) f
      rw [closeCounts_run, if_pos (head_ne_of_suffix (suffix_behind hbehind) (by decide))]
      exact .error _ _
  · exact Vain.alike ((vain_counts hbehind _).bind fun _ ↦ False.elim) f

end LineShell.Regex.Read
