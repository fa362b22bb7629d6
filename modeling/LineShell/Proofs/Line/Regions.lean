import LineShell.Proofs.Line.Descent
import LineShell.Proofs.Line.Writing
import LineShell.Shell.Error

/-!
# The grammar of quoting

Quoting has a grammar. A **region** is a character that is no quoting mark, or a text between two
marks of one kind: between single quotes and between back-quotes stands any other character, between
double quotes stand characters and whole back-quoted regions. A text is well quoted when it is made
of regions; otherwise a region is left open at its end, behind regions that are closed.

The pass over a text that `Quoting.after` makes decides this grammar. `Quoting.Describes` says what
each of its five states means, one character takes a description to the next
(`Quoting.Describes.step`), and so every text is as its last state describes it
(`Quoting.describes_after`). In the other direction each region leads the pass back to where it was
(`Region.after_eq`), and an open one to the state that its mark names (`OpenRegion.after_eq`).
-/

namespace LineShell

/-! ### The grammar -/

/-- A text made of texts of a kind, one behind the other. -/
def MadeOf (P : Text → Prop) (t : Text) : Prop :=
  ∃ pieces : List Text, (∀ piece ∈ pieces, P piece) ∧ pieces.flatten = t

/-- What a double-quoted region is made of. -/
inductive Inner : Text → Prop where
  | char {c : Char} (hdouble : c ≠ '"') (hback : c ≠ '`') : Inner [c]
  | back {u : Text} (h : '`' ∉ u) : Inner ('`' :: u ++ ['`'])

/-- What a well-quoted text is made of. -/
inductive Region : Text → Prop where
  | char {c : Char} (h : ¬ IsMark c) : Region [c]
  | single {u : Text} (h : '\'' ∉ u) : Region ('\'' :: u ++ ['\''])
  | double {u : Text} (h : MadeOf Inner u) : Region ('"' :: u ++ ['"'])
  | back {u : Text} (h : '`' ∉ u) : Region ('`' :: u ++ ['`'])

/-- A region that is not closed, and the mark that would close the innermost one. -/
inductive OpenRegion : Text → Delimiter → Prop where
  | single {u : Text} (h : '\'' ∉ u) : OpenRegion ('\'' :: u) .single
  | double {u : Text} (h : MadeOf Inner u) : OpenRegion ('"' :: u) .double
  | back {u : Text} (h : '`' ∉ u) : OpenRegion ('`' :: u) .back
  | backInDouble {u v : Text} (hu : MadeOf Inner u) (hv : '`' ∉ v) :
      OpenRegion ('"' :: u ++ '`' :: v) .back

/-- A text that ends in an open region, with the mark that would close the innermost one. -/
def EndsOpen (t : Text) (d : Delimiter) : Prop :=
  ∃ s u, MadeOf Region s ∧ OpenRegion u d ∧ s ++ u = t

variable {c : Char} {s t u v : Text} {q : Quoting} {d : Delimiter}

theorem madeOf_nil (P : Text → Prop) : MadeOf P [] := ⟨[], nofun, rfl⟩

theorem MadeOf.append {P : Text → Prop} (h : MadeOf P s) (hp : P t) : MadeOf P (s ++ t) := by
  obtain ⟨pieces, hpieces, rfl⟩ := h
  refine ⟨pieces ++ [t], List.forall_mem_append.2 ⟨hpieces, List.forall_mem_singleton.2 hp⟩, ?_⟩
  rw [List.flatten_concat]

/-! ### What a pass says of a text -/

namespace Quoting

/-- The texts at whose end a pass is in the region. -/
def Describes : Quoting → Text → Prop
  | plain, t => MadeOf Region t
  | single, t => ∃ s u, MadeOf Region s ∧ '\'' ∉ u ∧ s ++ '\'' :: u = t
  | double, t => ∃ s u, MadeOf Region s ∧ MadeOf Inner u ∧ s ++ '"' :: u = t
  | back, t => ∃ s u, MadeOf Region s ∧ '`' ∉ u ∧ s ++ '`' :: u = t
  | doubleBack, t => ∃ s u v, MadeOf Region s ∧ MadeOf Inner u ∧ '`' ∉ v ∧
      s ++ ('"' :: u ++ '`' :: v) = t

theorem not_mem_append_singleton {m : Char} (hu : m ∉ u) (hc : c ≠ m) : m ∉ u ++ [c] := by
  simp [hu, Ne.symm hc]

/-- One more character, in each region. -/
theorem Describes.step (h : q.Describes t) (c : Char) : (q.step c).Describes (t ++ [c]) := by
  cases q with
  | plain =>
    -- A mark opens a region, any other character is one.
    rw [Quoting.step]
    split_ifs with hsingle hdouble hback
    · exact ⟨t, [], h, List.not_mem_nil, by rw [hsingle]⟩
    · exact ⟨t, [], h, madeOf_nil _, by rw [hdouble]⟩
    · exact ⟨t, [], h, List.not_mem_nil, by rw [hback]⟩
    · exact h.append (.char fun hmark ↦ hmark.elim hsingle fun h ↦ h.elim hdouble hback)
  | single =>
    obtain ⟨s, u, hs, hu, rfl⟩ := h
    rw [Quoting.step, List.append_assoc, List.cons_append]
    split_ifs with hc
    · subst hc
      exact hs.append (.single hu)
    · exact ⟨s, u ++ [c], hs, not_mem_append_singleton hu hc, rfl⟩
  | double =>
    obtain ⟨s, u, hs, hu, rfl⟩ := h
    rw [Quoting.step, List.append_assoc, List.cons_append]
    split_ifs with hdouble hback
    · subst hdouble
      exact hs.append (.double hu)
    · exact ⟨s, u, [], hs, hu, List.not_mem_nil, by rw [hback]; rfl⟩
    · exact ⟨s, u ++ [c], hs, hu.append (.char hdouble hback), rfl⟩
  | back =>
    obtain ⟨s, u, hs, hu, rfl⟩ := h
    rw [Quoting.step, List.append_assoc, List.cons_append]
    split_ifs with hc
    · subst hc
      exact hs.append (.back hu)
    · exact ⟨s, u ++ [c], hs, not_mem_append_singleton hu hc, rfl⟩
  | doubleBack =>
    obtain ⟨s, u, v, hs, hu, hv, rfl⟩ := h
    rw [Quoting.step, List.append_assoc, List.append_assoc, List.cons_append, List.cons_append]
    split_ifs with hc
    · exact ⟨s, u ++ ('`' :: v ++ ['`']), hs, hu.append (.back hv), by rw [hc]; rfl⟩
    · exact ⟨s, u, v ++ [c], hs, hu, not_mem_append_singleton hv hc, rfl⟩

/-- **Every text is as the pass over it describes it.** -/
theorem describes_after (t : Text) : (plain.after t).Describes t := by
  induction t using List.reverseRecOn with
  | nil => exact madeOf_nil _
  | append_singleton t c ih =>
    rw [after_append]
    exact ih.step c

/-- Characters that leave the region lead nowhere. -/
theorem after_of_step_eq (h : ∀ c ∈ u, q.step c = q) : q.after u = q := by
  induction u with
  | nil => rfl
  | cons c u ih =>
    obtain ⟨hc, hu⟩ := List.forall_mem_cons.1 h
    rw [after_cons, hc, ih hu]

theorem after_single (h : '\'' ∉ u) : single.after u = single :=
  after_of_step_eq fun c hc ↦ if_neg fun heq : c = '\'' ↦ h (heq ▸ hc)

theorem after_back (h : '`' ∉ u) : back.after u = back :=
  after_of_step_eq fun c hc ↦ if_neg fun heq : c = '`' ↦ h (heq ▸ hc)

theorem after_doubleBack (h : '`' ∉ u) : doubleBack.after u = doubleBack :=
  after_of_step_eq fun c hc ↦ if_neg fun heq : c = '`' ↦ h (heq ▸ hc)

/-- What is made of texts that lead back leads back. -/
theorem after_of_madeOf {P : Text → Prop} (hP : ∀ {t}, P t → q.after t = q) (h : MadeOf P t) :
    q.after t = q := by
  obtain ⟨pieces, hpieces, rfl⟩ := h
  induction pieces with
  | nil => rfl
  | cons piece rest ih =>
    obtain ⟨hpiece, hrest⟩ := List.forall_mem_cons.1 hpieces
    rw [List.flatten_cons, after_append, hP hpiece, ih hrest]

end Quoting

open Quoting

theorem Inner.after_eq (h : Inner t) : Quoting.double.after t = .double := by
  cases h with
  | char hdouble hback => simp [step, hdouble, hback]
  | back hu => simp [step, after_doubleBack hu]

theorem Region.after_eq (h : Region t) : Quoting.plain.after t = .plain := by
  cases h with
  | char hmark =>
    obtain ⟨hsingle, hother⟩ := not_or.1 hmark
    obtain ⟨hdouble, hback⟩ := not_or.1 hother
    simp [step, hsingle, hdouble, hback]
  | single hu => simp [step, after_single hu]
  | double hu => simp [step, after_of_madeOf Inner.after_eq hu]
  | back hu => simp [step, after_back hu]

theorem OpenRegion.after_eq (h : OpenRegion u d) :
    (Quoting.plain.after u).openMark = some d := by
  cases h with
  | single hu => simp [step, after_single hu, openMark]
  | double hu => simp [step, after_of_madeOf Inner.after_eq hu, openMark]
  | back hu => simp [step, after_back hu, openMark]
  | backInDouble hu hv =>
    simp [step, after_of_madeOf Inner.after_eq hu, after_doubleBack hv, openMark]

/-- **The pass is in an open region exactly when the text ends in one.** -/
theorem openMark_after_eq_some_iff :
    (Quoting.plain.after t).openMark = some d ↔ EndsOpen t d := by
  constructor
  · intro h
    have hdescribes := describes_after t
    cases hq : Quoting.plain.after t <;> rw [hq] at h hdescribes
    · cases h
    · obtain ⟨s, u, hs, hu, ht⟩ := hdescribes
      exact Option.some.inj h ▸ ⟨s, _, hs, .single hu, ht⟩
    · obtain ⟨s, u, hs, hu, ht⟩ := hdescribes
      exact Option.some.inj h ▸ ⟨s, _, hs, .double hu, ht⟩
    · obtain ⟨s, u, hs, hu, ht⟩ := hdescribes
      exact Option.some.inj h ▸ ⟨s, _, hs, .back hu, ht⟩
    · obtain ⟨s, u, v, hs, hu, hv, ht⟩ := hdescribes
      exact Option.some.inj h ▸ ⟨s, _, hs, .backInDouble hu hv, ht⟩
  · rintro ⟨s, u, hs, hu, rfl⟩
    rw [after_append, after_of_madeOf Region.after_eq hs]
    exact hu.after_eq

/-- **A text is balanced exactly when it is made of regions.** -/
theorem balanced_iff_madeOf : Balanced t ↔ MadeOf Region t := by
  refine ⟨fun h ↦ ?_, after_of_madeOf Region.after_eq⟩
  have hdescribes := describes_after t
  rwa [show Quoting.plain.after t = .plain from h] at hdescribes

/-! ### What is refused -/

namespace Tree

theorem parse_eq_error_iff_endsOpen {line : Text} :
    parse line = .error d ↔ EndsOpen line d := by
  rw [parse_eq_error_iff, openMark_after_eq_some_iff]

/-- **A line is refused for an open region alone.** The descent refuses exactly the lines that are
not made of regions. Its error is that of a quote which is not closed, and shows the mark of the
innermost region left open; it never comes upon a piece that it does not expect, whatever calls are
empty and wherever the separators stand. Evaluation, which cuts a line at its last separators, reads
and refuses lines as the descent does. -/
theorem only_open_regions_are_refused (line : Text) :
    ((∃ e, Descent.parse line = .error e) ↔ ¬ MadeOf Region line) ∧
    (∀ e, Descent.parse line = .error e ↔ ∃ d, e = .unterminated d ∧ EndsOpen line d) ∧
    Descent.parse line = (parse line).mapError .unterminated ∧
    ∀ d, (parse line = .error d ↔ EndsOpen line d) ∧
      (ShellError.unterminated d).message =
        "parser: unterminated ".toList ++ [d.mark] ++ " quote".toList := by
  have herror : ∀ e,
      Descent.parse line = .error e ↔ ∃ d, e = .unterminated d ∧ EndsOpen line d := by
    intro e
    rw [Descent.parse_eq]
    cases hparse : parse line with
    | error d =>
      have hopen : EndsOpen line d := parse_eq_error_iff_endsOpen.1 hparse
      refine ⟨fun h ↦ ⟨d, (Except.error.inj h).symm, hopen⟩, ?_⟩
      rintro ⟨d', rfl, hopen'⟩
      have hother := parse_eq_error_iff_endsOpen.2 hopen'
      rw [Except.error.inj (hparse.symm.trans hother)]
      rfl
    | ok t =>
      refine ⟨nofun, ?_⟩
      rintro ⟨d, -, hopen⟩
      exact nomatch hparse.symm.trans (parse_eq_error_iff_endsOpen.2 hopen)
  refine ⟨?_, herror, Descent.parse_eq line, fun d ↦ ⟨parse_eq_error_iff_endsOpen, rfl⟩⟩
  rw [← balanced_iff_madeOf]
  constructor
  · rintro ⟨e, he⟩ hbalanced
    obtain ⟨d, -, hopen⟩ := (herror e).1 he
    have hplain : Quoting.plain.after line = .plain := hbalanced
    rw [← openMark_after_eq_some_iff, hplain] at hopen
    cases hopen
  · intro hbalanced
    obtain ⟨d, hd⟩ := Option.ne_none_iff_exists'.1 (mt openMark_eq_none_iff.1 hbalanced)
    exact ⟨_, (herror _).2 ⟨d, rfl, openMark_after_eq_some_iff.1 hd⟩⟩

/-- Empty calls at both ends and between doubled separators, and a back-quote left open in a
double-quoted region. -/
example : Descent.parse ";a||".toList =
      .ok (.seq (.call []) (.pipe (.pipe (.call ['a']) (.call [])) (.call []))) ∧
    Descent.parse ";a|\"b `c".toList = .error (.unterminated .back) := by
  rw [Descent.parse_eq, Descent.parse_eq]
  decide

end Tree

end LineShell
