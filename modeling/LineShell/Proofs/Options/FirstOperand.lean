import LineShell.Options.Usage

/-!
# The first operand

Arguments are read from left to right, and what an argument is depends on those before it: behind an
option with a value it is that value, behind `--` it is an operand whatever it looks like. So the
place of the first operand is a fact about the reading (`Usage.TakesFirst`), not about the looks of
the arguments.

What can stand in front of the first operand is a small language: switches, options with their
values, and at last perhaps `--` (`Usage.Front`). `Usage.exists_front` finds it in every list of
arguments that is accepted. It is there to be compared with other ways to find the first operand.

An operand that is a text is an argument as it stands (`Usage.sublist_of_read`).
-/

namespace LineShell

namespace Usage

variable {u : Usage} {p p' q : Progress} {argument : Text} {arguments : List Text}

/-- The argument that ends the options. -/
def dashes : Text := ['-', '-']

/-- Reading takes the argument at the place `i` as the first operand: what stands before gives no
operand, and it gives one. -/
structure TakesFirst (u : Usage) (arguments : List Text) (i : Nat) (operand : Text) : Prop where
  operand_eq : arguments[i]? = some operand
  taken : ∃ p q, (arguments.take i).foldlM u.readArgument {} = .ok p ∧ p.given.operands = [] ∧
    u.readArgument p operand = .ok q ∧ q.given.operands = [.text operand]

/-! ### Reading goes on -/

/-- The arguments were read in between: help that was asked for is asked for, and operands were
added; those that are texts are some of the arguments, in their order. -/
structure Progress.Extends (p q : Progress) (arguments : List Text) : Prop where
  help : p.help = true → q.help = true
  operands : ∃ added, q.given.operands = p.given.operands ++ added ∧
    (Given.mk [] added).texts.Sublist arguments

namespace Progress.Extends

/-- No operand was added. -/
theorem of_operands_eq (hhelp : p.help = true → q.help = true)
    (h : q.given.operands = p.given.operands) : p.Extends q arguments :=
  ⟨hhelp, [], h.trans (List.append_nil _).symm, List.nil_sublist _⟩

theorem trans {r : Progress} {more : List Text} (h : p.Extends q arguments)
    (h' : q.Extends r more) : p.Extends r (arguments ++ more) := by
  obtain ⟨added, hadded, htexts⟩ := h.operands
  obtain ⟨added', hadded', htexts'⟩ := h'.operands
  refine ⟨h'.help ∘ h.help, added ++ added', ?_, ?_⟩
  · rw [hadded', hadded, List.append_assoc]
  · simp only [Given.texts, List.filterMap_append] at htexts htexts' ⊢
    exact htexts.append htexts'

theorem prefix_operands (h : p.Extends q arguments) : p.given.operands <+: q.given.operands := by
  obtain ⟨added, hadded, -⟩ := h.operands
  exact ⟨added, hadded.symm⟩

end Progress.Extends

theorem extends_of_readValue {o : OptionSpec} {name : Text}
    (h : readValue o name argument p = .ok q) : p.Extends q [argument] := by
  rw [readValue] at h
  split at h
  · cases h
  · dsimp only at h
    split at h
    · split at h
      · obtain rfl := Except.ok.inj h
        exact .of_operands_eq id rfl
      · cases h
    · obtain rfl := Except.ok.inj h
      exact .of_operands_eq id rfl

theorem extends_of_readOption (h : u.readOption argument p = .ok q) :
    p.Extends q [argument] := by
  rw [readOption] at h
  split at h
  · cases h
  · split at h <;>
    · obtain rfl := Except.ok.inj h
      exact .of_operands_eq id rfl

/-- An operand that is a text is the argument itself. -/
theorem extends_of_readOperand (h : u.readOperand argument p = .ok q) :
    p.Extends q [argument] := by
  rw [readOperand] at h
  split at h
  · cases h
  · dsimp only at h
    split at h
    · split at h
      · obtain rfl := Except.ok.inj h
        exact ⟨id, [.integer _], rfl, List.nil_sublist _⟩
      · cases h
    · obtain rfl := Except.ok.inj h
      exact ⟨id, [.text argument], rfl, List.Sublist.refl _⟩

theorem extends_of_readArgument (h : u.readArgument p argument = .ok q) :
    p.Extends q [argument] := by
  rw [readArgument] at h
  split at h
  · exact extends_of_readValue h
  · split at h
    · exact extends_of_readOperand h
    split at h
    · obtain rfl := Except.ok.inj h
      exact .of_operands_eq (fun _ ↦ rfl) rfl
    split at h
    · exact extends_of_readOperand h
    split at h
    · obtain rfl := Except.ok.inj h
      exact .of_operands_eq id rfl
    split at h
    · cases h
    · exact extends_of_readOption h

/-- The first argument is read, and then the others. -/
theorem foldlM_cons_eq_ok_iff :
    (argument :: arguments).foldlM u.readArgument p = .ok q ↔
      ∃ p', u.readArgument p argument = .ok p' ∧ arguments.foldlM u.readArgument p' = .ok q := by
  rw [List.foldlM_cons]
  cases u.readArgument p argument with
  | error f =>
    refine ⟨fun h ↦ (nomatch h), ?_⟩
    rintro ⟨_, h, -⟩
    cases h
  | ok p' =>
    refine ⟨fun h ↦ ⟨p', rfl, h⟩, ?_⟩
    rintro ⟨_, h, hrest⟩
    obtain rfl := Except.ok.inj h
    exact hrest

/-- **What reading one argument keeps, reading all of them keeps.** The property may speak of the
arguments that were read so far. -/
theorem foldlM_induction {P : List Text → Progress → Prop}
    (step : ∀ {seen p q argument}, P seen p → u.readArgument p argument = .ok q →
      P (seen ++ [argument]) q)
    (hp : P [] p) (h : arguments.foldlM u.readArgument p = .ok q) : P arguments q := by
  suffices hseen : ∀ seen, P seen p → P (seen ++ arguments) q from hseen [] hp
  clear hp
  induction arguments generalizing p with
  | nil =>
    obtain rfl := Except.ok.inj h
    exact fun seen hp ↦ (List.append_nil seen).symm ▸ hp
  | cons argument arguments ih =>
    intro seen hp
    obtain ⟨p', hfirst, hrest⟩ := foldlM_cons_eq_ok_iff.1 h
    rw [← List.singleton_append, ← List.append_assoc]
    exact ih hrest _ (step hp hfirst)

theorem extends_of_foldlM (h : arguments.foldlM u.readArgument p = .ok q) :
    p.Extends q arguments :=
  foldlM_induction (P := fun seen q ↦ p.Extends q seen)
    (fun hp hq ↦ hp.trans (extends_of_readArgument hq)) (.of_operands_eq id rfl) h

/-! ### What stands in front -/

/-- An option is named by its short or by its long name. -/
theorem mem_of_option?_eq_some {name : Text} {o : OptionSpec} (h : u.option? name = some o) :
    o ∈ u.options ∧ name ∈ [o.shortName, o.longName] := by
  refine ⟨List.mem_of_find?_eq_some h, ?_⟩
  have hname := List.find?_some h
  simp only [Bool.or_eq_true, beq_iff_eq] at hname
  rcases hname with rfl | rfl
  · exact List.mem_cons_self
  · exact List.mem_cons_of_mem _ List.mem_cons_self

/-- The arguments can stand in front of the first operand: switches, and other options with their
values, behind which the options may be ended. -/
inductive Front (u : Usage) : List Text → Prop where
  | nil : Front u []
  | switch {name : Text} {o : OptionSpec} {rest : List Text} (ho : u.option? name = some o)
      (hkind : o.kind = .switch) (hrest : Front u rest) : Front u (name :: rest)
  | value {name value : Text} {o : OptionSpec} {rest : List Text} (ho : u.option? name = some o)
      (hkind : o.kind ≠ .switch) (hrest : Front u rest) : Front u (name :: value :: rest)
  | ended : Front u [dashes]

/-- The first operand is looked for: nothing was given yet but options. -/
structure Progress.Seeking (p : Progress) : Prop where
  help : p.help = false
  awaiting : p.awaiting = none
  operands : p.given.operands = []

/-- The arguments are divided at their first operand, seen from some progress. -/
structure Divides (u : Usage) (p : Progress) (front : List Text) (operand : Text) : Prop where
  isFront : Front u front
  /-- An operand that begins with a dash stands behind `--`. -/
  dash : front.getLast? = some dashes ∨ operand.head? ≠ some '-'
  taken : ∃ p' q, front.foldlM u.readArgument p = .ok p' ∧ p'.given.operands = [] ∧
    u.readArgument p' operand = .ok q ∧ q.given.operands = [.text operand]

/-! ### One argument -/

/-- What one argument can be where the first operand is looked for. -/
inductive Looks (u : Usage) (p : Progress) (argument : Text) : Progress → Prop where
  | operand {q : Progress} (hdash : argument.head? ≠ some '-')
      (hq : u.readOperand argument p = .ok q) : Looks u p argument q
  | help {q : Progress} (hq : q.help = true) : Looks u p argument q
  | ended {q : Progress} (hdashes : argument = dashes) (hq : q.Seeking) (hended : q.ended = true) :
      Looks u p argument q
  | switch {o : OptionSpec} {q : Progress} (ho : u.option? argument = some o)
      (hkind : o.kind = .switch) (hq : q.Seeking) (hended : q.ended = false) : Looks u p argument q
  | option {o : OptionSpec} (ho : u.option? argument = some o) (hkind : o.kind ≠ .switch) :
      Looks u p argument { p with awaiting := some (o, argument) }

theorem looks_of_readOption (hp : p.Seeking) (hended : p.ended = false)
    (h : u.readOption argument p = .ok q) : u.Looks p argument q := by
  rw [readOption] at h
  split at h
  · cases h
  next o ho =>
    split at h
    next hkind =>
      obtain rfl := Except.ok.inj h
      exact .switch ho hkind ⟨hp.help, hp.awaiting, hp.operands⟩ hended
    next hkind =>
      obtain rfl := Except.ok.inj h
      exact .option ho hkind

theorem looks_of_readArgument (hp : p.Seeking) (hended : p.ended = false)
    (h : u.readArgument p argument = .ok q) : u.Looks p argument q := by
  rw [readArgument, hp.awaiting] at h
  dsimp only at h
  rw [hended, if_neg Bool.false_ne_true] at h
  split at h
  · obtain rfl := Except.ok.inj h
    exact .help rfl
  split at h
  next hdash => exact .operand hdash h
  split at h
  next hdashes =>
    obtain rfl := Except.ok.inj h
    exact .ended hdashes ⟨hp.help, rfl, hp.operands⟩ rfl
  split at h
  · cases h
  · exact looks_of_readOption hp hended h

/-- The value of an option is read, and the first operand is looked for again. -/
theorem seeking_of_readValue {o : OptionSpec} {name : Text} (hp : p.Seeking)
    (h : readValue o name argument { p with awaiting := some (o, name) } = .ok q) :
    q.Seeking ∧ q.ended = p.ended := by
  rw [readValue] at h
  split at h
  · cases h
  · dsimp only at h
    split at h
    · split at h
      · obtain rfl := Except.ok.inj h
        exact ⟨⟨hp.help, rfl, hp.operands⟩, rfl⟩
      · cases h
    · obtain rfl := Except.ok.inj h
      exact ⟨⟨hp.help, rfl, hp.operands⟩, rfl⟩

/-! ### The division -/

/-- What arguments in front leave to be divided. -/
theorem Divides.append {front front' : List Text} {operand : Text}
    (hread : front.foldlM u.readArgument p = .ok p') (h : u.Divides p' front' operand)
    (hfront : Front u (front ++ front')) : u.Divides p (front ++ front') operand where
  isFront := hfront
  dash := h.dash.imp_left fun hlast ↦ by
    obtain ⟨init, rfl⟩ := List.getLast?_eq_some_iff.1 hlast
    rw [← List.append_assoc, List.getLast?_concat]
  taken := by
    obtain ⟨p'', q, hrest, hnone, hlast⟩ := h.taken
    refine ⟨p'', q, ?_, hnone, hlast⟩
    rw [List.foldlM_append, hread]
    exact hrest

section

variable {place : OperandSpec} (hplace : u.operands.head? = some place)
  (hnumber : place.isNumber = false)

include hplace hnumber

/-- An argument that is read as an operand is the first one. -/
theorem operands_of_readOperand (hp : p.given.operands = [])
    (h : u.readOperand argument p = .ok q) : q.given.operands = [.text argument] := by
  have hfirst : u.place? p.given.operands.length = some place := by
    rw [hp, place?, List.length_nil, ← List.head?_eq_getElem?, hplace]
  rw [readOperand, hfirst] at h
  dsimp only at h
  rw [hnumber, hp] at h
  obtain rfl := Except.ok.inj h
  rfl

/-- Behind `--` stands the first operand. -/
theorem exists_front_of_ended (hp : p.Seeking) (hended : p.ended = true)
    (hread : arguments.foldlM u.readArgument p = .ok q) (hsome : q.given.operands ≠ []) :
    ∃ operand back, arguments = operand :: back ∧ ∃ q', u.readArgument p operand = .ok q' ∧
      q'.given.operands = [.text operand] := by
  obtain _ | ⟨operand, back⟩ := arguments
  · obtain rfl := Except.ok.inj hread
    exact absurd hp.operands hsome
  obtain ⟨q', hfirst, -⟩ := foldlM_cons_eq_ok_iff.1 hread
  have hoperand := hfirst
  rw [readArgument, hp.awaiting, hended] at hoperand
  exact ⟨operand, back, rfl, q', hfirst,
    operands_of_readOperand hplace hnumber hp.operands hoperand⟩

/-- **Arguments that give an operand are divided at the first one.** -/
theorem exists_front (hp : p.Seeking) (hended : p.ended = false)
    (hread : arguments.foldlM u.readArgument p = .ok q) (hhelp : q.help = false)
    (hawaiting : q.awaiting = none) (hsome : q.given.operands ≠ []) :
    ∃ front operand back, arguments = front ++ operand :: back ∧ u.Divides p front operand := by
  -- an option with a value takes two arguments at once
  induction hlength : arguments.length using Nat.strongRecOn generalizing arguments p with
  | ind n ih =>
  subst hlength
  obtain _ | ⟨argument, rest⟩ := arguments
  · obtain rfl := Except.ok.inj hread
    exact absurd hp.operands hsome
  obtain ⟨p', hfirst, hrest⟩ := foldlM_cons_eq_ok_iff.1 hread
  cases looks_of_readArgument hp hended hfirst with
  | operand hdash hq =>
    exact ⟨[], argument, rest, rfl, .nil, .inr hdash, p, p', rfl, hp.operands, hfirst,
      operands_of_readOperand hplace hnumber hp.operands hq⟩
  | help hq => simp [(extends_of_foldlM hrest).help hq] at hhelp
  | ended hdashes hp' hended' =>
    obtain ⟨operand, back, rfl, q', hoperand, hgiven⟩ :=
      exists_front_of_ended hplace hnumber hp' hended' hrest hsome
    subst hdashes
    exact ⟨[dashes], operand, back, rfl, .ended, .inl rfl, p', q',
      foldlM_cons_eq_ok_iff.2 ⟨p', hfirst, rfl⟩, hp'.operands, hoperand, hgiven⟩
  | switch ho hkind hp' hended' =>
    obtain ⟨front, operand, back, rfl, hdivides⟩ :=
      ih rest.length (Nat.lt_succ_self _) hp' hended' hrest rfl
    refine ⟨argument :: front, operand, back, rfl, ?_⟩
    have hread' : [argument].foldlM u.readArgument p = .ok p' :=
      foldlM_cons_eq_ok_iff.2 ⟨p', hfirst, rfl⟩
    exact hdivides.append hread' (.switch ho hkind hdivides.isFront)
  | option ho hkind =>
    obtain _ | ⟨value, rest⟩ := rest
    · obtain rfl := Except.ok.inj hrest
      cases hawaiting
    obtain ⟨p'', hvalue, hrest'⟩ := foldlM_cons_eq_ok_iff.1 hrest
    obtain ⟨hp'', hended''⟩ := seeking_of_readValue hp hvalue
    obtain ⟨front, operand, back, rfl, hdivides⟩ :=
      ih rest.length (by simp +arith) hp'' (hended''.trans hended) hrest' rfl
    refine ⟨argument :: value :: front, operand, back, rfl, ?_⟩
    have hread' : [argument, value].foldlM u.readArgument p = .ok p'' :=
      foldlM_cons_eq_ok_iff.2 ⟨_, hfirst, foldlM_cons_eq_ok_iff.2 ⟨p'', hvalue, rfl⟩⟩
    exact hdivides.append hread' (.value ho hkind hdivides.isFront)

end

/-! ### Accepted arguments -/

/-- Arguments are accepted if reading them ends with all that is required and nothing awaited. -/
theorem exists_of_read_eq_run {given : Given} (h : u.read arguments = .ok (.run given)) :
    ∃ p, arguments.foldlM u.readArgument {} = .ok p ∧ p.awaiting = none ∧ p.help = false ∧
      u.missing p.given = [] ∧ p.given = given := by
  rw [read] at h
  cases hfold : arguments.foldlM u.readArgument {} with
  | error f =>
    rw [hfold] at h
    cases h
  | ok p =>
    rw [hfold] at h
    obtain ⟨help, ended, awaiting, given'⟩ := p
    obtain _ | ⟨o, name⟩ := awaiting
    · cases help with
      | true => cases h
      | false =>
        cases hmissing : u.missing given' with
        | nil =>
          simp [bind, Except.bind, hmissing, pure, Except.pure] at h
          exact ⟨_, rfl, rfl, rfl, hmissing, h⟩
        | cons name names =>
          simp [bind, Except.bind, hmissing] at h
    · cases h

variable {given : Given} {i j : Nat} {operand other : Text}

/-- **The operands that are texts are arguments as they stand**, in their order. -/
theorem sublist_of_read (h : u.read arguments = .ok (.run given)) :
    given.texts.Sublist arguments := by
  obtain ⟨p, hfold, -, -, -, rfl⟩ := exists_of_read_eq_run h
  obtain ⟨added, hadded, htexts⟩ := (extends_of_foldlM hfold).operands
  rw [Given.texts, hadded]
  exact htexts

/-- Where a first operand is required, there is one. -/
theorem operands_ne_nil {place : OperandSpec} (hplace : u.operands.head? = some place)
    (hrequired : place.kind = .required) (hmissing : u.missing given = []) :
    given.operands ≠ [] := by
  intro hnone
  obtain ⟨more, hmore⟩ := List.head?_eq_some_iff.1 hplace
  rw [missing, hnone, hmore] at hmissing
  simp [hrequired] at hmissing

/-- An operand that is taken first stays first. -/
theorem TakesFirst.prefix_operands (h : u.TakesFirst arguments i operand)
    (hread : arguments.foldlM u.readArgument {} = .ok p) :
    [.text operand] <+: p.given.operands := by
  obtain ⟨p', q, hfront, -, htaken, hq⟩ := h.taken
  obtain ⟨hi, hoperand⟩ := List.getElem?_eq_some_iff.1 h.operand_eq
  have hdivided : arguments = arguments.take i ++ operand :: arguments.drop (i + 1) := by
    rw [← hoperand, ← List.drop_eq_getElem_cons hi, List.take_append_drop]
  rw [hdivided, List.foldlM_append, hfront] at hread
  obtain ⟨q', hq', hback⟩ := foldlM_cons_eq_ok_iff.1 hread
  obtain rfl := Except.ok.inj (htaken.symm.trans hq')
  exact hq ▸ (extends_of_foldlM hback).prefix_operands

/-- The first operand that is given is the one that reading took. -/
theorem TakesFirst.head?_texts (h : u.TakesFirst arguments i operand)
    (hread : u.read arguments = .ok (.run given)) : given.texts.head? = some operand := by
  obtain ⟨p, hfold, -, -, -, rfl⟩ := exists_of_read_eq_run hread
  obtain ⟨more, hmore⟩ := h.prefix_operands hfold
  rw [Given.texts, ← hmore]
  rfl

/-- No operand is taken first behind another one. -/
theorem TakesFirst.le (h : u.TakesFirst arguments i operand)
    (h' : u.TakesFirst arguments j other) : j ≤ i := by
  refine Nat.not_lt.1 fun hlt ↦ ?_
  obtain ⟨p, q, hfold, hnone, -⟩ := h'.taken
  have htake : u.TakesFirst (arguments.take j) i operand := by
    refine ⟨?_, ?_⟩
    · rw [List.getElem?_take_of_lt (by omega), h.operand_eq]
    · rw [List.take_take, Nat.min_eq_left (by omega)]
      exact h.taken
  have hprefix := htake.prefix_operands hfold
  rw [hnone] at hprefix
  exact List.cons_ne_nil _ _ (List.prefix_nil.1 hprefix)

/-- The first operand has one place. -/
theorem TakesFirst.unique (h : u.TakesFirst arguments i operand)
    (h' : u.TakesFirst arguments j other) : i = j ∧ operand = other := by
  obtain rfl := Nat.le_antisymm (h'.le h) (h.le h')
  exact ⟨rfl, Option.some.inj (h.operand_eq.symm.trans h'.operand_eq)⟩

/-- **Accepted arguments are divided at their first operand**, where one is required that is any
text. -/
theorem exists_takesFirst {place : OperandSpec} (hplace : u.operands.head? = some place)
    (hrequired : place.kind = .required) (hnumber : place.isNumber = false)
    (hread : u.read arguments = .ok (.run given)) :
    ∃ front operand back, arguments = front ++ operand :: back ∧ u.Divides {} front operand ∧
      u.TakesFirst arguments front.length operand := by
  obtain ⟨q, hfold, hawaiting, hhelp, hmissing, rfl⟩ := exists_of_read_eq_run hread
  obtain ⟨front, operand, back, rfl, hdivides⟩ := exists_front hplace hnumber ⟨rfl, rfl, rfl⟩ rfl
    hfold hhelp hawaiting (operands_ne_nil hplace hrequired hmissing)
  refine ⟨front, operand, back, rfl, hdivides, ?_, ?_⟩
  · rw [List.getElem?_append_right (Nat.le_refl _), Nat.sub_self]
    rfl
  · rw [List.take_left]
    exact hdivides.taken

end Usage

end LineShell
