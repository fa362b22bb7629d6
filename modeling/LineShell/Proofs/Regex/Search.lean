import LineShell.Proofs.Regex.Execution
import Mathlib.Data.List.Count

/-!
# What the search finds

The search follows all ways through a program side by side and drops a way that comes to an address
where another one has been before. It finds a match exactly if the program accepts at some place of
the text (`searchFrom_isSome_iff`), so a matcher matches a text exactly if its expression matches
between two places of it (`Matcher.isMatch_iff`).

Nothing is lost by dropping ways, because a set of addresses is extended depth first until nothing
new is met. What one extension preserves is `Frontier.Grows`: of the addresses that were not seen
before, all are dealt with when it is done. The addresses on the way to the present one are seen
and not yet dealt with, which is why the statement leaves out those that were seen before. Between
two characters there are none of these, and then the set is closed (`Frontier.Settled`).
-/

namespace LineShell.Regex

variable {program : Array Instruction} {p q : Place} {a b : Nat} {i : Instruction}

/-! ### Accepting -/

theorem Accepts.of_passes (hi : program[a]? = some i) (hpass : i.Passes p a b)
    (h : Accepts program b p) : Accepts program a p := by
  obtain ⟨n, c, q, hrun, hc⟩ := h
  exact ⟨n + 1, c, q, .step hi (.inl ⟨hpass, rfl⟩) hrun, hc⟩

theorem Accepts.of_takes (hi : program[a]? = some i) (htake : i.Takes p)
    (h : Accepts program (a + 1) (p.skip 1)) : Accepts program a p := by
  obtain ⟨n, c, q, hrun, hc⟩ := h
  exact ⟨n + 1, c, q, .step hi (.inr ⟨htake, rfl, rfl⟩) hrun, hc⟩

/-- A thread waits at the instruction for the next character or for the end. -/
def Instruction.Waits : Instruction → Prop
  | take _ => True
  | accept => True
  | _ => False

namespace Frontier

/-! ### What was seen -/

/-- The address was seen; one that the program does not have counts as seen. -/
def Seen (f : Frontier) (a : Nat) : Prop := f.seen.getD a true = true

/-- How many addresses were not seen. -/
def unseen (f : Frontier) : Nat := f.seen.toList.count false

/-- The address was seen now. -/
def mark (f : Frontier) (a : Nat) : Frontier := { f with seen := f.seen.setIfInBounds a true }

variable {f f' g : Frontier} {t : Thread} {slots : Slots}

theorem seen_mark_iff : (f.mark a).Seen b ↔ f.Seen b ∨ b = a := by
  simp only [Seen, mark, Array.getD_eq_getD_getElem?, Array.getElem?_setIfInBounds]
  split
  · next heq =>
    subst heq
    split <;> simp_all
  · next hne => simp [Ne.symm hne]

theorem unseen_mark (h : ¬ f.Seen a) : (f.mark a).unseen + 1 = f.unseen := by
  have hlt : a < f.seen.size := by
    by_contra hge
    refine h ?_
    rw [Seen, Array.getD_eq_getD_getElem?, Array.getElem?_eq_none (Nat.le_of_not_lt hge)]
    rfl
  have hfalse : f.seen.toList[a] = false := by
    rw [Seen, Array.getD_eq_getD_getElem?, Array.getElem?_eq_getElem hlt, Option.getD_some,
      Bool.not_eq_true] at h
    exact h
  have hpos : 0 < f.seen.toList.count false :=
    List.count_pos_iff.2 (hfalse ▸ List.getElem_mem hlt)
  have hcount : (f.mark a).unseen = f.seen.toList.count false - 1 := by
    rw [unseen, mark, Array.toList_setIfInBounds, List.count_set hlt, hfalse]
    rfl
  rw [hcount, unseen]
  omega

theorem seen_of_unseen_eq_zero (h : f.unseen = 0) (a : Nat) : f.Seen a := by
  by_contra hnot
  have := unseen_mark hnot
  omega

/-! ### Extending a set of addresses -/

/-- What an extension of a set of addresses does: those that are seen only now are dealt with. -/
structure Grows (program : Array Instruction) (p : Place) (f f' : Frontier) : Prop where
  seen : ∀ {a}, f.Seen a → f'.Seen a
  unseen_le : f'.unseen ≤ f.unseen
  threads : ∀ {t}, t ∈ f.threads → t ∈ f'.threads
  closed : ∀ {a i b}, ¬ f.Seen a → f'.Seen a → program[a]? = some i → i.Passes p a b → f'.Seen b
  waiting : ∀ {a i}, ¬ f.Seen a → f'.Seen a → program[a]? = some i → i.Waits →
    ∃ t ∈ f'.threads, t.address = a

theorem Grows.refl (program : Array Instruction) (p : Place) (f : Frontier) :
    Grows program p f f where
  seen := id
  unseen_le := Nat.le_refl _
  threads := id
  closed hnot h := absurd h hnot
  waiting hnot h := absurd h hnot

theorem Grows.trans (h : Grows program p f g) (h' : Grows program p g f') :
    Grows program p f f' where
  seen hseen := h'.seen (h.seen hseen)
  unseen_le := Nat.le_trans h'.unseen_le h.unseen_le
  threads ht := h'.threads (h.threads ht)
  closed {a i b} hnot hseen hi hpass := by
    by_cases hg : g.Seen a
    · exact h'.seen (h.closed hnot hg hi hpass)
    · exact h'.closed hg hseen hi hpass
  waiting {a i} hnot hseen hi hwaits := by
    by_cases hg : g.Seen a
    · obtain ⟨t, ht, ha⟩ := h.waiting hnot hg hi hwaits
      exact ⟨t, h'.threads ht, ha⟩
    · exact h'.waiting hg hseen hi hwaits

/-- An address that was marked is dealt with when the addresses that it leads to are seen and, if a
thread waits there, there is one. -/
theorem Grows.of_mark (hnot : ¬ f.Seen a) (h : Grows program p (f.mark a) f')
    (hclosed : ∀ {i b}, program[a]? = some i → i.Passes p a b → f'.Seen b)
    (hwaiting : ∀ {i}, program[a]? = some i → i.Waits → ∃ t ∈ f'.threads, t.address = a) :
    Grows program p f f' where
  seen hseen := h.seen (seen_mark_iff.2 (.inl hseen))
  unseen_le := by
    have := unseen_mark hnot
    have := h.unseen_le
    omega
  threads := h.threads
  closed {b i c} hb hseen hi hpass := by
    by_cases heq : b = a
    · subst heq
      exact hclosed hi hpass
    · exact h.closed (fun hmark ↦ (seen_mark_iff.1 hmark).elim hb heq) hseen hi hpass
  waiting {b i} hb hseen hi hwaits := by
    by_cases heq : b = a
    · subst heq
      exact hwaiting hi hwaits
    · exact h.waiting (fun hmark ↦ (seen_mark_iff.1 hmark).elim hb heq) hseen hi hwaits

/-- The address is dealt with, given the instruction that stands there. -/
theorem Grows.settle (hnot : ¬ f.Seen a) (hi : program[a]? = some i)
    (h : Grows program p (f.mark a) f') (hclosed : ∀ b, i.Passes p a b → f'.Seen b)
    (hwaiting : i.Waits → ∃ t ∈ f'.threads, t.address = a) :
    Grows program p f f' ∧ f'.Seen a := by
  refine ⟨h.of_mark hnot (fun {j b} hj ↦ ?_) fun {j} hj ↦ ?_,
    h.seen (seen_mark_iff.2 (.inr rfl))⟩
  · rw [← Option.some.inj (hi.symm.trans hj)]
    exact hclosed b
  · rw [← Option.some.inj (hi.symm.trans hj)]
    exact hwaiting

theorem reach_of_seen (h : f.Seen a) (depth : Nat) (slots : Slots) :
    f.reach program p depth a slots = f := by
  cases depth with
  | zero => rfl
  | succ depth => exact if_pos h

/-- What is done at an address that was not seen. -/
theorem reach_of_not_seen (h : ¬ f.Seen a) (depth : Nat) (slots : Slots) :
    f.reach program p (depth + 1) a slots =
      match program[a]? with
      | none => f.mark a
      | some (.take _) => { f.mark a with threads := ⟨a, slots⟩ :: f.threads }
      | some .accept => { f.mark a with threads := ⟨a, slots⟩ :: f.threads }
      | some (.look l) =>
        if l.holds p then (f.mark a).reach program p depth (a + 1) slots else f.mark a
      | some (.save slot) =>
        (f.mark a).reach program p depth (a + 1) (slots.set slot (some p.index))
      | some (.split first second) =>
        ((f.mark a).reach program p depth first slots).reach program p depth second slots
      | some (.jump target) => (f.mark a).reach program p depth target slots :=
  if_neg h

theorem wait_grows (t : Thread) :
    Grows program p (f.mark a) { f.mark a with threads := t :: f.threads } where
  seen := id
  unseen_le := Nat.le_refl _
  threads := List.mem_cons_of_mem t
  closed hnot h := absurd h hnot
  waiting hnot h := absurd h hnot

/-- **With enough depth everything that an address leads to is seen.** -/
theorem reach_grows {depth : Nat} (hdepth : f.unseen ≤ depth) (a : Nat) (slots : Slots) :
    Grows program p f (f.reach program p depth a slots) ∧
      (f.reach program p depth a slots).Seen a := by
  induction depth generalizing f a slots with
  | zero =>
    have hseen := seen_of_unseen_eq_zero (Nat.le_zero.1 hdepth) a
    exact ⟨.refl program p f, hseen⟩
  | succ depth ih =>
    by_cases hseen : f.Seen a
    · rw [reach_of_seen hseen]
      exact ⟨.refl program p f, hseen⟩
    have hmark : (f.mark a).unseen ≤ depth := by
      have := unseen_mark hseen
      omega
    have hself : (f.mark a).Seen a := seen_mark_iff.2 (.inr rfl)
    rw [reach_of_not_seen hseen]
    cases hi : program[a]? with
    | none =>
      refine ⟨.of_mark hseen (.refl _ _ _) (fun h ↦ ?_) fun h ↦ ?_, hself⟩ <;>
        exact absurd (hi.symm.trans h) nofun
    | some i =>
      cases i with
      | take s => exact (wait_grows _).settle hseen hi nofun fun _ ↦ ⟨_, List.mem_cons_self, rfl⟩
      | accept => exact (wait_grows _).settle hseen hi nofun fun _ ↦ ⟨_, List.mem_cons_self, rfl⟩
      | look l =>
        obtain ⟨hgrows, hnext⟩ := ih hmark (a + 1) slots
        by_cases hholds : l.holds p = true
        · dsimp only
          rw [if_pos hholds]
          exact hgrows.settle hseen hi (fun b ⟨_, hb⟩ ↦ hb ▸ hnext) nofun
        · dsimp only
          rw [if_neg hholds]
          exact Grows.settle hseen hi (.refl _ _ _) (fun b ⟨h, _⟩ ↦ absurd h hholds) nofun
      | save slot =>
        obtain ⟨hgrows, hnext⟩ := ih hmark (a + 1) (slots.set slot (some p.index))
        exact hgrows.settle hseen hi (fun b hb ↦ hb ▸ hnext) nofun
      | split first second =>
        obtain ⟨hgrows, hfirst⟩ := ih hmark first slots
        obtain ⟨hgrows', hsecond⟩ := ih (Nat.le_trans hgrows.unseen_le hmark) second slots
        refine (hgrows.trans hgrows').settle hseen hi ?_ nofun
        rintro b (rfl | rfl)
        · exact hgrows'.seen hfirst
        · exact hsecond
      | jump target =>
        obtain ⟨hgrows, hnext⟩ := ih hmark target slots
        exact hgrows.settle hseen hi (fun b hb ↦ hb ▸ hnext) nofun

/-- **Nothing is seen in vain**: where a new thread can accept the program can accept from the
address that was added. -/
theorem mem_reach {depth : Nat} {slots : Slots}
    (ht : t ∈ (f.reach program p depth a slots).threads) :
    t ∈ f.threads ∨ ((∃ i, program[t.address]? = some i ∧ i.Waits) ∧
      (Accepts program t.address p → Accepts program a p)) := by
  induction depth generalizing f a slots with
  | zero => exact .inl ht
  | succ depth ih =>
    by_cases hseen : f.Seen a
    · rw [reach_of_seen hseen] at ht
      exact .inl ht
    rw [reach_of_not_seen hseen] at ht
    cases hi : program[a]? with
    | none =>
      rw [hi] at ht
      exact .inl ht
    | some i =>
      rw [hi] at ht
      have onwards {b : Nat} (hpass : i.Passes p a b)
          (h : t ∈ f.threads ∨ ((∃ i, program[t.address]? = some i ∧ i.Waits) ∧
            (Accepts program t.address p → Accepts program b p))) :
          t ∈ f.threads ∨ ((∃ i, program[t.address]? = some i ∧ i.Waits) ∧
            (Accepts program t.address p → Accepts program a p)) :=
        h.imp id fun ⟨hwaits, haccepts⟩ ↦ ⟨hwaits, fun h ↦ (haccepts h).of_passes hi hpass⟩
      have here (hwaits : i.Waits) (h : t = ⟨a, slots⟩ ∨ t ∈ f.threads) :
          t ∈ f.threads ∨ ((∃ i, program[t.address]? = some i ∧ i.Waits) ∧
            (Accepts program t.address p → Accepts program a p)) := by
        rcases h with rfl | h
        · exact .inr ⟨⟨i, hi, hwaits⟩, id⟩
        · exact .inl h
      cases i with
      | take s => exact here trivial (List.mem_cons.1 ht)
      | accept => exact here trivial (List.mem_cons.1 ht)
      | look l =>
        dsimp only at ht
        split at ht
        · next hholds => exact onwards ⟨hholds, rfl⟩ (ih (f := f.mark a) ht)
        · exact .inl ht
      | save slot => exact onwards rfl (ih (f := f.mark a) ht)
      | split first second =>
        rcases ih ht with h | h
        · exact onwards (.inl rfl) (ih (f := f.mark a) h)
        · exact onwards (.inr rfl) (.inr h)
      | jump target => exact onwards rfl (ih (f := f.mark a) ht)

/-! ### The threads at a place -/

/-- Everything that is seen is dealt with. -/
structure Settled (program : Array Instruction) (p : Place) (f : Frontier) : Prop where
  unseen_le : f.unseen ≤ program.size
  closed : ∀ {a i b}, f.Seen a → program[a]? = some i → i.Passes p a b → f.Seen b
  waiting : ∀ {a i}, f.Seen a → program[a]? = some i → i.Waits → ∃ t ∈ f.threads, t.address = a
  waits : ∀ {t}, t ∈ f.threads → ∃ i, program[t.address]? = some i ∧ i.Waits

theorem settled_empty (program : Array Instruction) (p : Place) :
    Settled program p (.empty program) := by
  have hout {a : Nat} {i : Instruction} (hseen : (empty program).Seen a)
      (hi : program[a]? = some i) : False := by
    obtain ⟨hlt, -⟩ := Array.getElem?_eq_some_iff.1 hi
    simp [Seen, empty, Array.getD_eq_getD_getElem?, hlt] at hseen
  refine ⟨?_, fun hseen hi ↦ (hout hseen hi).elim, fun hseen hi ↦ (hout hseen hi).elim, nofun⟩
  rw [unseen, empty, Array.toList_replicate]
  exact Nat.le_trans List.count_le_length (Nat.le_of_eq List.length_replicate)

theorem Settled.reach (h : Settled program p f) (a : Nat) (slots : Slots) :
    Settled program p (f.reach program p program.size a slots) := by
  obtain ⟨hgrows, -⟩ := reach_grows h.unseen_le a slots
  refine ⟨Nat.le_trans hgrows.unseen_le h.unseen_le, fun {b i c} hb hi hpass ↦ ?_,
    fun {b i} hb hi hwaits ↦ ?_, fun {t} ht ↦ ?_⟩
  · by_cases hseen : f.Seen b
    · exact hgrows.seen (h.closed hseen hi hpass)
    · exact hgrows.closed hseen hb hi hpass
  · by_cases hseen : f.Seen b
    · obtain ⟨t, ht, haddress⟩ := h.waiting hseen hi hwaits
      exact ⟨t, hgrows.threads ht, haddress⟩
    · exact hgrows.waiting hseen hb hi hwaits
  · exact (mem_reach ht).elim h.waits And.left

/-- From an address that was seen the program accepts only if one of the threads does. -/
theorem Settled.exists_accepts (h : Settled program p f) (hseen : f.Seen a)
    (haccepts : Accepts program a p) : ∃ t ∈ f.threads, Accepts program t.address p := by
  obtain ⟨n, b, q, hrun, hb⟩ := haccepts
  induction hrun with
  | done =>
    obtain ⟨t, ht, rfl⟩ := h.waiting hseen hb trivial
    exact ⟨t, ht, 0, _, _, .done, hb⟩
  | @step n a b c p q r i hi hstep hrest ih =>
    rcases hstep with ⟨hpass, rfl⟩ | ⟨htake, rfl, rfl⟩
    · exact ih h (h.closed hseen hi hpass) hb
    · have hwaits : i.Waits := by
        cases i with
        | take s => trivial
        | _ => exact htake.elim
      obtain ⟨t, ht, rfl⟩ := h.waiting hseen hi hwaits
      exact ⟨t, ht, n + 1, c, r, .step hi (.inr ⟨htake, rfl, rfl⟩) hrest, hb⟩

/-! ### Over the next character -/

theorem follow_settled {threads : List Thread} (h : Settled program (p.skip 1) f) :
    Settled program (p.skip 1) (follow program p threads f).1 := by
  induction threads generalizing f with
  | nil => exact h
  | cons t threads ih =>
    rw [follow]
    split
    · exact h
    · split
      · exact ih (h.reach _ _)
      · exact ih h
    · exact ih h

/-- What is accepted is known from the threads alone. -/
theorem isSome_follow_iff {threads : List Thread} :
    (follow program p threads f).2.isSome ↔
      ∃ t ∈ threads, program[t.address]? = some .accept := by
  induction threads generalizing f with
  | nil => simp [follow]
  | cons t threads ih =>
    simp only [List.mem_cons, exists_eq_or_imp]
    rw [follow]
    split
    · next hi => exact iff_of_true rfl (.inl hi)
    · next s c hi hc =>
      have hne : program[t.address]? ≠ some .accept := fun h ↦ nomatch hi.symm.trans h
      rw [or_iff_right hne]
      split <;> exact ih
    · next hne _ => exact ih.trans (or_iff_right hne).symm

/-- If no thread accepts, all that take the character go on behind it. -/
theorem seen_follow {threads : List Thread} (h : Settled program (p.skip 1) f)
    (hnone : ∀ t ∈ threads, program[t.address]? ≠ some .accept) :
    (∀ {a}, f.Seen a → (follow program p threads f).1.Seen a) ∧
      ∀ t ∈ threads, ∀ i, program[t.address]? = some i → i.Takes p →
        (follow program p threads f).1.Seen (t.address + 1) := by
  induction threads generalizing f with
  | nil => exact ⟨id, nofun⟩
  | cons t threads ih =>
    obtain ⟨hfirst, hrest⟩ := List.forall_mem_cons.1 hnone
    rw [follow]
    split
    · next hi => exact absurd hi hfirst
    · next s c hi hc =>
      split
      · next hs =>
        obtain ⟨hgrows, hnext⟩ := reach_grows h.unseen_le (t.address + 1) t.slots
        obtain ⟨hseen, hothers⟩ := ih (h.reach _ _) hrest
        exact ⟨fun ha ↦ hseen (hgrows.seen ha),
          List.forall_mem_cons.2 ⟨fun _ _ _ ↦ hseen hnext, hothers⟩⟩
      · next hs =>
        obtain ⟨hseen, hothers⟩ := ih h hrest
        refine ⟨hseen, List.forall_mem_cons.2 ⟨fun i hi' htakes ↦ ?_, hothers⟩⟩
        obtain rfl := Option.some.inj (hi.symm.trans hi')
        obtain ⟨d, hd, hsd⟩ := htakes
        obtain rfl := Option.some.inj (hc.symm.trans hd)
        exact absurd hsd hs
    · next hnot =>
      obtain ⟨hseen, hothers⟩ := ih h hrest
      refine ⟨hseen, List.forall_mem_cons.2 ⟨fun i hi htakes ↦ ?_, hothers⟩⟩
      cases i with
      | take s =>
        obtain ⟨c, hc, -⟩ := htakes
        exact absurd hc (hnot s c hi)
      | _ => exact htakes.elim

/-- A thread behind the character accepts only if one in front of it does. -/
theorem mem_follow {threads : List Thread} (ht : t ∈ (follow program p threads f).1.threads)
    (haccepts : Accepts program t.address (p.skip 1)) :
    t ∈ f.threads ∨ ∃ t' ∈ threads, Accepts program t'.address p := by
  induction threads generalizing f with
  | nil => exact .inl ht
  | cons first threads ih =>
    rw [follow] at ht
    simp only [List.mem_cons, exists_eq_or_imp]
    split at ht
    · exact .inl ht
    · next s c hi hc =>
      split at ht
      · next hs =>
        rcases ih ht with h | h
        · refine (mem_reach h).imp id fun ⟨_, honwards⟩ ↦ .inl ?_
          exact (honwards haccepts).of_takes hi ⟨c, hc, hs⟩
        · exact .inr (.inr h)
      · exact (ih ht).imp id .inr
    · exact (ih ht).imp id .inr

/-- **One step of the search.** Some thread accepts exactly if one is found to accept at once, or
one of the threads behind the character accepts. -/
theorem Settled.exists_accepts_iff (h : Settled program p f) :
    (∃ t ∈ f.threads, Accepts program t.address p) ↔
      (follow program p f.threads.reverse (.empty program)).2.isSome ∨
        ∃ t ∈ (follow program p f.threads.reverse (.empty program)).1.threads,
          Accepts program t.address (p.skip 1) := by
  constructor
  · rintro ⟨t, ht, n, b, q, hrun, hb⟩
    by_cases hsome : ∃ t ∈ f.threads.reverse, program[t.address]? = some .accept
    · exact .inl (isSome_follow_iff.2 hsome)
    · have hnone : ∀ t ∈ f.threads.reverse, program[t.address]? ≠ some .accept :=
        fun t ht hi ↦ hsome ⟨t, ht, hi⟩
      cases hrun with
      | done => exact absurd hb (hnone t (List.mem_reverse.2 ht))
      | @step n _ c _ _ r _ i hi hstep hrest =>
        obtain ⟨j, hj, hwaits⟩ := h.waits ht
        obtain rfl := Option.some.inj (hi.symm.trans hj)
        rcases hstep with ⟨hpass, -⟩ | ⟨htakes, rfl, rfl⟩
        · cases i with
          | take s => exact hpass.elim
          | accept => exact hpass.elim
          | _ => exact hwaits.elim
        · have hempty := settled_empty program (p.skip 1)
          obtain ⟨-, hseen⟩ := seen_follow hempty hnone
          exact .inr ((follow_settled hempty).exists_accepts
            (hseen t (List.mem_reverse.2 ht) i hi htakes) ⟨n, b, q, hrest, hb⟩)
  · rintro (hsome | ⟨t, ht, haccepts⟩)
    · obtain ⟨t, ht, hi⟩ := isSome_follow_iff.1 hsome
      exact ⟨t, List.mem_reverse.1 ht, 0, _, p, .done, hi⟩
    · obtain ⟨t', ht', h'⟩ := (mem_follow ht haccepts).resolve_left nofun
      exact ⟨t', List.mem_reverse.1 ht', h'⟩

/-- At the end of the text no thread goes on. -/
theorem follow_of_after_eq_none {threads : List Thread} (h : p.after = none) :
    (follow program p threads f).1 = f := by
  induction threads with
  | nil => rfl
  | cons t threads ih =>
    rw [follow, h]
    split
    · rfl
    · next hc => cases hc
    · exact ih

end Frontier

/-! ### The whole search -/

variable {found : Option Slots} {f : Frontier} {slots : Slots} {index : Nat} {before : Option Char}
  {rest : Text}

theorem isSome_or_iff {α : Type} {a b : Option α} :
    (a.or b).isSome ↔ a.isSome ∨ b.isSome := by cases a <;> simp

/-- The threads at a place, with the one that starts there unless a match was found before. -/
def threadsAt (program : Array Instruction) (slots : Slots) (found : Option Slots) (p : Place)
    (f : Frontier) : Frontier :=
  if found.isSome then f else f.reach program p program.size 0 slots

theorem searchFrom_nil : searchFrom program slots index before found f [] =
    (Frontier.follow program ⟨index, before, []⟩
      (threadsAt program slots found ⟨index, before, []⟩ f).threads.reverse
      (.empty program)).2.or found := rfl

theorem searchFrom_cons {c : Char} : searchFrom program slots index before found f (c :: rest) =
    let p : Place := ⟨index, before, c :: rest⟩
    let next := Frontier.follow program p (threadsAt program slots found p f).threads.reverse
      (.empty program)
    if next.1.threads.isEmpty && (next.2.or found).isSome then next.2.or found
    else searchFrom program slots (index + 1) (some c) (next.2.or found) next.1 rest := rfl

/-- What was found is not lost. -/
theorem searchFrom_isSome (h : found.isSome) :
    (searchFrom program slots index before found f rest).isSome := by
  induction rest generalizing index before found f with
  | nil =>
    rw [searchFrom_nil]
    exact isSome_or_iff.2 (.inr h)
  | cons c rest ih =>
    have hfound (accepted : Option Slots) : (accepted.or found).isSome := isSome_or_iff.2 (.inr h)
    rw [searchFrom_cons]
    dsimp only
    split
    · exact hfound _
    · exact ih (hfound _)

/-- The new thread at a place accepts what the program accepts from its start. -/
theorem exists_accepts_threadsAt_iff (h : f.Settled program p) :
    (∃ t ∈ (threadsAt program slots none p f).threads, Accepts program t.address p) ↔
      (∃ t ∈ f.threads, Accepts program t.address p) ∨ Accepts program 0 p := by
  obtain ⟨hgrows, hstart⟩ := Frontier.reach_grows h.unseen_le 0 slots
  constructor
  · rintro ⟨t, ht, haccepts⟩
    rcases Frontier.mem_reach ht with h | ⟨-, honwards⟩
    · exact .inl ⟨t, h, haccepts⟩
    · exact .inr (honwards haccepts)
  · rintro (⟨t, ht, haccepts⟩ | haccepts)
    · exact ⟨t, hgrows.threads ht, haccepts⟩
    · exact (h.reach 0 slots).exists_accepts hstart haccepts

theorem Frontier.Settled.threadsAt (h : f.Settled program p) (slots : Slots) :
    (threadsAt program slots none p f).Settled program p := h.reach 0 slots

/-- **The search finds something exactly if one of the threads accepts, or the program does from
its start at this place or one behind it.** -/
theorem searchFrom_isSome_iff (h : f.Settled program ⟨index, before, rest⟩) :
    (searchFrom program slots index before none f rest).isSome ↔
      (∃ t ∈ f.threads, Accepts program t.address ⟨index, before, rest⟩) ∨
        ∃ k, Accepts program 0 (Place.skip ⟨index, before, rest⟩ k) := by
  induction rest generalizing index before f with
  | nil =>
    have hend (k : Nat) : Place.skip ⟨index, before, []⟩ k = ⟨index, before, []⟩ := by
      cases k <;> rfl
    simp only [hend, exists_const]
    rw [← exists_accepts_threadsAt_iff h, (h.threadsAt slots).exists_accepts_iff,
      Frontier.follow_of_after_eq_none rfl, searchFrom_nil, Option.or_none]
    exact (or_iff_left nofun).symm
  | cons c rest ih =>
    have hlater : (∃ k, Accepts program 0 (Place.skip ⟨index, before, c :: rest⟩ k)) ↔
        Accepts program 0 ⟨index, before, c :: rest⟩ ∨
          ∃ k, Accepts program 0 (Place.skip ⟨index + 1, some c, rest⟩ k) := by
      constructor
      · rintro ⟨_ | k, haccepts⟩
        · exact .inl haccepts
        · exact .inr ⟨k, haccepts⟩
      · rintro (haccepts | ⟨k, haccepts⟩)
        · exact ⟨0, haccepts⟩
        · exact ⟨k + 1, haccepts⟩
    rw [hlater, ← or_assoc, ← exists_accepts_threadsAt_iff h,
      (h.threadsAt slots).exists_accepts_iff, searchFrom_cons]
    dsimp only
    rw [Option.or_none]
    cases haccepted : (Frontier.follow program ⟨index, before, c :: rest⟩
        (threadsAt program slots none ⟨index, before, c :: rest⟩ f).threads.reverse
        (.empty program)).2 with
    | some found =>
      refine iff_of_true ?_ (.inl (.inl rfl))
      split
      · rfl
      · exact searchFrom_isSome rfl
    | none =>
      have hempty := Frontier.settled_empty program (Place.skip ⟨index, before, c :: rest⟩ 1)
      rw [if_neg (by simp), ih (Frontier.follow_settled hempty), Option.isSome_none,
        or_iff_right (a := false = true) nofun]
      rfl

namespace Matcher

/-- **A matcher matches a text exactly if its expression matches between two places of it.** -/
theorem isMatch_iff (e : Expr) (groups : Nat) (names : List (Text × Nat)) (t : Text) :
    (Matcher.mk e.program groups names).isMatch t = true ↔
      ∃ k q, e.Matches ((Place.start t).skip k) q := by
  rw [isMatch, find?, Option.isSome_map, searchFrom_isSome_iff (Frontier.settled_empty _ _),
    or_iff_right nofun]
  exact exists_congr fun k ↦ e.accepts_program_iff

end Matcher

end LineShell.Regex
