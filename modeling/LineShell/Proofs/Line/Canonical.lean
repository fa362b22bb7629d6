import LineShell.Proofs.Line.Cut
import Mathlib.Data.Set.Function

/-!
# Canonical trees

The trees that lines are read as, characterized by their shape: both operators fold to the left,
`|` binds tighter, and no call holds a separator outside quotes. A canonical tree is written by its
calls with the separators between them (`Tree.render`), and reading and writing are inverse to each
other (`parse_render_inverse`).

Both directions go by the last bare separator. Reading peels it off a text
(`ofBalanced_append_cons`, `ofCommand_append_cons`); in what a canonical tree renders to, it is the
one of the root.
-/

namespace LineShell.Tree

/-! ### Shape -/

/-- A tree that is a single call. -/
def IsCall : Tree → Prop
  | call _ => True
  | _ => False

/-- A tree whose root is a sequence. -/
def IsSeq : Tree → Prop
  | seq _ _ => True
  | _ => False

/-- A tree without a sequence. -/
def SeqFree : Tree → Prop
  | call _ => True
  | pipe left right => left.SeqFree ∧ right.SeqFree
  | seq _ _ => False

/-- No pipe has a sequence below it, the right side of a sequence is no sequence, the right side of
a pipe is a call, and every call is balanced and has no bare separator. -/
def Canonical : Tree → Prop
  | call text => Balanced text ∧ ¬ Bare ';' text ∧ ¬ Bare '|' text
  | pipe left right =>
    (left.SeqFree ∧ right.SeqFree) ∧ right.IsCall ∧ left.Canonical ∧ right.Canonical
  | seq left right => ¬ right.IsSeq ∧ left.Canonical ∧ right.Canonical

/-- The texts of the calls of a tree, in order. -/
def calls : Tree → List Text
  | call text => [text]
  | pipe left right => left.calls ++ right.calls
  | seq left right => left.calls ++ right.calls

/-- The line that a tree stands for: the texts of its calls in order, with the separators of its
nodes between them. -/
def render : Tree → Text
  | call text => text
  | pipe left right => left.render ++ '|' :: right.render
  | seq left right => left.render ++ ';' :: right.render

variable {s u : Text} {t : Tree}

/-- In a canonical tree, only a sequence has sequences in it. -/
theorem Canonical.seqFree (h : t.Canonical) (ht : ¬ t.IsSeq) : t.SeqFree := by
  cases t with
  | call text => trivial
  | pipe left right => exact h.1
  | seq left right => exact absurd trivial ht

theorem SeqFree.not_isSeq (h : t.SeqFree) : ¬ t.IsSeq := by
  cases t with
  | call text => exact id
  | pipe left right => exact id
  | seq left right => exact h.elim

/-! ### Reading by the last bare separator -/

theorem ofCommand_of_not_bare (h : ¬ Bare '|' u) : ofCommand u = call u := by
  rw [ofCommand, cut_of_not_bare h]
  rfl

theorem ofCommand_append_cons (hs : Balanced s) (hu : ¬ Bare '|' u) :
    ofCommand (s ++ '|' :: u) = pipe (ofCommand s) (call u) := by
  rw [ofCommand, cut_append_cons isSeparator_bar hs hu, List.foldl_append]
  rfl

theorem ofBalanced_of_not_bare (h : ¬ Bare ';' u) : ofBalanced u = ofCommand u := by
  rw [ofBalanced, cut_of_not_bare h]
  rfl

theorem ofBalanced_append_cons (hs : Balanced s) (hu : ¬ Bare ';' u) :
    ofBalanced (s ++ ';' :: u) = seq (ofBalanced s) (ofCommand u) := by
  rw [ofBalanced, cut_append_cons isSeparator_semicolon hs hu, List.foldl_append]
  rfl

/-! ### What is read is canonical and renders to the line -/

theorem render_ofCommand (s : Text) : (ofCommand s).render = s := by
  induction s using bareInduction isSeparator_bar with
  | piece u hu => rw [ofCommand_of_not_bare hu, render]
  | append s u hs hu ih => rw [ofCommand_append_cons hs hu, render, render, ih]

theorem render_ofBalanced (s : Text) : (ofBalanced s).render = s := by
  induction s using bareInduction isSeparator_semicolon with
  | piece u hu => rw [ofBalanced_of_not_bare hu, render_ofCommand]
  | append s u hs hu ih => rw [ofBalanced_append_cons hs hu, render, render_ofCommand, ih]

theorem seqFree_ofCommand (s : Text) : (ofCommand s).SeqFree := by
  induction s using bareInduction isSeparator_bar with
  | piece u hu =>
    rw [ofCommand_of_not_bare hu]
    trivial
  | append s u hs hu ih =>
    rw [ofCommand_append_cons hs hu]
    exact ⟨ih, trivial⟩

theorem canonical_ofCommand (hs : Balanced s) (hsemi : ¬ Bare ';' s) : (ofCommand s).Canonical := by
  induction s using bareInduction isSeparator_bar with
  | piece u hu =>
    rw [ofCommand_of_not_bare hu]
    exact ⟨hs, hsemi, hu⟩
  | append s u hbal hu ih =>
    rw [hbal.append_iff, isSeparator_bar.balanced_cons] at hs
    rw [hbal.bare_append, isSeparator_bar.bare_cons, not_or, not_or] at hsemi
    rw [ofCommand_append_cons hbal hu]
    exact ⟨⟨seqFree_ofCommand s, trivial⟩, trivial, ih hbal hsemi.1, hs, hsemi.2.2, hu⟩

theorem canonical_ofBalanced (hs : Balanced s) : (ofBalanced s).Canonical := by
  induction s using bareInduction isSeparator_semicolon with
  | piece u hu =>
    rw [ofBalanced_of_not_bare hu]
    exact canonical_ofCommand hs hu
  | append s u hbal hu ih =>
    rw [hbal.append_iff, isSeparator_semicolon.balanced_cons] at hs
    rw [ofBalanced_append_cons hbal hu]
    exact ⟨(seqFree_ofCommand u).not_isSeq, ih hbal, canonical_ofCommand hs hu⟩

/-! ### What a canonical tree renders to is read as that tree -/

theorem Canonical.balanced_render (h : t.Canonical) : Balanced t.render := by
  induction t with
  | call text => exact h.1
  | pipe left right ihl ihr =>
    obtain ⟨-, -, hl, hr⟩ := h
    exact (ihl hl).append_iff.2 (isSeparator_bar.balanced_cons.2 (ihr hr))
  | seq left right ihl ihr =>
    obtain ⟨-, hl, hr⟩ := h
    exact (ihl hl).append_iff.2 (isSeparator_semicolon.balanced_cons.2 (ihr hr))

theorem Canonical.not_bare_semicolon (h : t.Canonical) (hfree : t.SeqFree) :
    ¬ Bare ';' t.render := by
  induction t with
  | call text => exact h.2.1
  | pipe left right ihl ihr =>
    obtain ⟨-, -, hl, hr⟩ := h
    rw [render, hl.balanced_render.bare_append, isSeparator_bar.bare_cons]
    rintro (hbare | hbar | hbare)
    · exact ihl hl hfree.1 hbare
    · exact absurd hbar (by decide)
    · exact ihr hr hfree.2 hbare
  | seq left right => exact hfree.elim

theorem Canonical.ofCommand_render (h : t.Canonical) (hfree : t.SeqFree) :
    ofCommand t.render = t := by
  induction t with
  | call text => exact ofCommand_of_not_bare h.2.2
  | pipe left right ihl ihr =>
    obtain ⟨⟨hfl, -⟩, hcall, hl, hr⟩ := h
    -- The right side is a call, so the bar of the root is the last bare one.
    cases right with
    | call text => rw [render, render, ofCommand_append_cons hl.balanced_render hr.2.2, ihl hl hfl]
    | pipe _ _ => exact hcall.elim
    | seq _ _ => exact hcall.elim
  | seq left right => exact hfree.elim

theorem Canonical.ofBalanced_render (h : t.Canonical) : ofBalanced t.render = t := by
  induction t with
  | call text => rw [render, ofBalanced_of_not_bare h.2.1, ofCommand_of_not_bare h.2.2]
  | pipe left right ihl ihr =>
    rw [ofBalanced_of_not_bare (h.not_bare_semicolon h.1), h.ofCommand_render h.1]
  | seq left right ihl ihr =>
    obtain ⟨hseq, hl, hr⟩ := h
    have hfree : right.SeqFree := hr.seqFree hseq
    rw [render, ofBalanced_append_cons hl.balanced_render (hr.not_bare_semicolon hfree), ihl hl,
      hr.ofCommand_render hfree]

/-- A line is read as a tree exactly when the tree is canonical and renders to the line. -/
theorem parse_eq_ok_iff_render {line : Text} :
    parse line = .ok t ↔ t.Canonical ∧ t.render = line := by
  rw [parse_eq_ok_iff]
  constructor
  · rintro ⟨hbal, rfl⟩
    exact ⟨canonical_ofBalanced hbal, render_ofBalanced line⟩
  · rintro ⟨hcan, rfl⟩
    exact ⟨hcan.balanced_render, hcan.ofBalanced_render⟩

/-- **Reading and writing are inverse to each other.** What a line is read as is canonical and
renders to the line; every canonical tree is what its rendering is read as. So rendering is a
bijection between the canonical trees and the lines that are accepted. -/
theorem parse_render_inverse :
    (∀ line t, parse line = .ok t → t.Canonical ∧ t.render = line) ∧
    (∀ t, t.Canonical → parse t.render = .ok t) ∧
    Set.BijOn render {t | t.Canonical} {line | ∃ t, parse line = .ok t} := by
  have hread : ∀ line t, parse line = .ok t → t.Canonical ∧ t.render = line :=
    fun _ _ h ↦ parse_eq_ok_iff_render.1 h
  have hwrite : ∀ t, t.Canonical → parse t.render = .ok t :=
    fun _ h ↦ parse_eq_ok_iff_render.2 ⟨h, rfl⟩
  refine ⟨hread, hwrite, fun t ht ↦ ⟨t, hwrite t ht⟩, ?_, ?_⟩
  -- Injective: two trees with one rendering are what that line is read as.
  · intro t ht t' ht' heq
    have h := hwrite t ht
    rw [heq, hwrite t' ht'] at h
    exact (Except.ok.inj h).symm
  · rintro line ⟨t, h⟩
    exact ⟨t, (hread line t h).1, (hread line t h).2⟩

/-- A line with quoted separators, a pipe and an empty last call. -/
theorem parse_render_inverse_quoted :
    parse "a ';'|\"b`|`\";".toList = .ok
      (seq (pipe (call "a ';'".toList) (call "\"b`|`\"".toList)) (call [])) ∧
    (seq (pipe (call "a ';'".toList) (call "\"b`|`\"".toList)) (call [])).Canonical ∧
    parse (seq (pipe (call "a ';'".toList) (call "\"b`|`\"".toList)) (call [])).render =
      .ok (seq (pipe (call "a ';'".toList) (call "\"b`|`\"".toList)) (call [])) := by
  have h : parse "a ';'|\"b`|`\";".toList = .ok
      (seq (pipe (call "a ';'".toList) (call "\"b`|`\"".toList)) (call [])) := by decide
  have hcan := (parse_render_inverse.1 _ _ h).1
  exact ⟨h, hcan, parse_render_inverse.2.1 _ hcan⟩

/-- Both operators fold to the left, and the bar binds tighter. -/
example : parse "a|b|c;d;e".toList = .ok
    (seq (seq (pipe (pipe (call ['a']) (call ['b'])) (call ['c'])) (call ['d'])) (call ['e'])) := by
  decide

end LineShell.Tree
