import LineShell.Regex.Search

/-!
# What a program matches

An expression says between which places of a text it matches (`Expr.Matches`); which of several
matches is preferred does not show there. A program is run step by step from an address and a place
to others (`Runs`). The two agree: a program runs from its start to its end exactly between the
places that its expression matches (`Expr.exists_accepts_iff`).

The code of an expression is a block that is entered at its start and left at its end.
`Code.Does program code M` says of such a block that it can be run through between the places that
`M` relates, and that every run from its start to where the program accepts comes by its end, at a
place that `M` relates to the first and with no more steps left. The latter is what an induction
over the steps of a loop needs: behind the body the run is shorter.
-/

namespace LineShell.Regex

/-! ### Matches -/

/-- Related by `count` steps of a relation. -/
def Times (M : Place → Place → Prop) : Nat → Place → Place → Prop
  | 0, p, q => p = q
  | count + 1, p, q => ∃ r, M p r ∧ Times M count r q

namespace Expr

mutual

/-- The expression can match what is between the two places. No repetition is read whose greatest
count is below its least one; such a one counts up to the least. -/
def Matches : Expr → Place → Place → Prop
  | empty => fun p q ↦ p = q
  | literal t => fun p q ↦ t <+: p.rest ∧ q = p.skip t.length
  | set _ s => fun p q ↦ (∃ c, p.after = some c ∧ s.contains c = true) ∧ q = p.skip 1
  | look l => fun p q ↦ l.holds p = true ∧ p = q
  | repetition least most _ body => fun p q ↦
    ∃ count, least ≤ count ∧ (∀ n ∈ most, count ≤ max least n) ∧ Times body.Matches count p q
  | capture _ body => body.Matches
  | concat parts => MatchesAll parts
  | alternation branches => MatchesAny branches

/-- The expressions can match one after the other. -/
def MatchesAll : List Expr → Place → Place → Prop
  | [] => fun p q ↦ p = q
  | e :: rest => fun p q ↦ ∃ r, e.Matches p r ∧ MatchesAll rest r q

/-- One of the expressions can match. -/
def MatchesAny : List Expr → Place → Place → Prop
  | [] => fun _ _ ↦ False
  | e :: rest => fun p q ↦ e.Matches p q ∨ MatchesAny rest p q

end

end Expr

variable {M N : Place → Place → Prop} {p q r : Place} {m n : Nat}

theorem times_add_iff : Times M (m + n) p q ↔ ∃ r, Times M m p r ∧ Times M n r q := by
  induction m generalizing p with
  | zero => simp [Times]
  | succ m ih =>
    rw [Nat.succ_add]
    simp only [Times, ih]
    constructor
    · rintro ⟨r, hfirst, r', hrest, hlast⟩
      exact ⟨r', ⟨r, hfirst, hrest⟩, hlast⟩
    · rintro ⟨r', ⟨r, hfirst, hrest⟩, hlast⟩
      exact ⟨r, hfirst, r', hrest, hlast⟩

theorem times_one_iff : Times M 1 p q ↔ M p q := by simp [Times]

/-! ### Runs -/

namespace Instruction

/-- The instruction at an address leads to another address without taking a character. -/
def Passes (p : Place) (a : Nat) : Instruction → Nat → Prop
  | take _, _ => False
  | look l, b => l.holds p = true ∧ b = a + 1
  | save _, b => b = a + 1
  | split first second, b => b = first ∨ b = second
  | jump target, b => b = target
  | accept, _ => False

/-- The instruction takes the character behind the place. -/
def Takes (p : Place) : Instruction → Prop
  | take s => ∃ c, p.after = some c ∧ s.contains c = true
  | _ => False

/-- What one step of the instruction at an address does. -/
def Leads (i : Instruction) (a : Nat) (p : Place) (b : Nat) (q : Place) : Prop :=
  (i.Passes p a b ∧ q = p) ∨ (i.Takes p ∧ b = a + 1 ∧ q = p.skip 1)

end Instruction

/-- A run of a program from an address and a place to others, with the number of its steps. -/
inductive Runs (program : Array Instruction) : Nat → Nat → Place → Nat → Place → Prop where
  | done {a : Nat} {p : Place} : Runs program 0 a p a p
  | step {n a b c : Nat} {p q r : Place} {i : Instruction} (hi : program[a]? = some i)
      (hstep : i.Leads a p b q) (hrest : Runs program n b q c r) : Runs program (n + 1) a p c r

/-- The program can accept from an address at a place. -/
def Accepts (program : Array Instruction) (a : Nat) (p : Place) : Prop :=
  ∃ n b q, Runs program n a p b q ∧ program[b]? = some .accept

variable {program : Array Instruction} {a b c : Nat} {i : Instruction}

theorem Runs.trans (h : Runs program m a p b q) (h' : Runs program n b q c r) :
    Runs program (m + n) a p c r := by
  induction h with
  | done =>
    rw [Nat.zero_add]
    exact h'
  | step hi hstep _ ih =>
    rw [Nat.succ_add]
    exact .step hi hstep (ih h')

theorem Runs.one (hi : program[a]? = some i) (hstep : i.Leads a p b q) :
    Runs program 1 a p b q := .step hi hstep .done

/-- Where the program does not accept, a run to where it does goes on. -/
theorem Runs.exists_step (h : Runs program n a p b q) (haccept : program[b]? = some .accept)
    (hi : program[a]? = some i) (hne : i ≠ .accept) :
    ∃ m c r, m + 1 = n ∧ i.Leads a p c r ∧ Runs program m c r b q := by
  cases h with
  | done => exact absurd (Option.some.inj (hi.symm.trans haccept)) hne
  | step hi' hstep hrest =>
    obtain rfl := Option.some.inj (hi.symm.trans hi')
    exact ⟨_, _, _, rfl, hstep, hrest⟩

/-! ### Blocks of code -/

/-- The program has the code at an address. -/
def Holds (program : Array Instruction) (start : Nat) (code : List Instruction) : Prop :=
  ∀ k i, code[k]? = some i → program[start + k]? = some i

theorem holds_cons_iff {code : List Instruction} :
    Holds program a (i :: code) ↔ program[a]? = some i ∧ Holds program (a + 1) code := by
  constructor
  · refine fun h ↦ ⟨h 0 i rfl, fun k j hj ↦ ?_⟩
    rw [Nat.add_right_comm]
    exact h (k + 1) j hj
  · rintro ⟨hi, hcode⟩ (_ | k) j hj
    · exact hi.trans hj
    · rw [Nat.add_comm k, ← Nat.add_assoc]
      exact hcode k j hj

theorem holds_append_iff {code more : List Instruction} :
    Holds program a (code ++ more) ↔
      Holds program a code ∧ Holds program (a + code.length) more := by
  induction code generalizing a with
  | nil => exact ⟨fun h ↦ ⟨nofun, h⟩, fun h ↦ h.2⟩
  | cons i code ih =>
    rw [List.cons_append, holds_cons_iff, holds_cons_iff, ih, List.length_cons, and_assoc,
      Nat.add_assoc, Nat.add_comm 1]

/-- What a block of code does in a program. -/
structure Code.Does (program : Array Instruction) (code : Code) (M : Place → Place → Prop) :
    Prop where
  length : ∀ s t, (code s).length = (code t).length
  complete : ∀ {s p q}, Holds program s (code s) → M p q →
    ∃ n, Runs program n s p (s + (code s).length) q
  sound : ∀ {s p n b q}, Holds program s (code s) → program[b]? = some .accept →
    Runs program n s p b q →
    ∃ m r, m ≤ n ∧ M p r ∧ Runs program m (s + (code s).length) r b q

theorem split_leads_iff {first second : Nat} :
    (Instruction.split first second).Leads a p b q ↔ (b = first ∨ b = second) ∧ q = p := by
  simp [Instruction.Leads, Instruction.Passes, Instruction.Takes]

theorem jump_leads_iff {target : Nat} :
    (Instruction.jump target).Leads a p b q ↔ b = target ∧ q = p := by
  simp [Instruction.Leads, Instruction.Passes, Instruction.Takes]

theorem choice_leads_iff {greedy : Bool} {into around : Nat} :
    (Instruction.choice greedy into around).Leads a p b q ↔ (b = into ∨ b = around) ∧ q = p := by
  cases greedy <;> simp [Instruction.choice, split_leads_iff, or_comm]

theorem choice_ne_accept {greedy : Bool} {into around : Nat} :
    Instruction.choice greedy into around ≠ .accept := by
  cases greedy <;> nofun

namespace Code.Does

variable {code code' : Code}

theorem congr (h : Code.Does program code M) (hMN : ∀ p q, M p q ↔ N p q) :
    Code.Does program code N where
  length := h.length
  complete hcode hN := h.complete hcode ((hMN _ _).2 hN)
  sound hcode haccept hrun := by
    obtain ⟨m, r, hm, hM, hrest⟩ := h.sound hcode haccept hrun
    exact ⟨m, r, hm, (hMN _ _).1 hM, hrest⟩

theorem nil : Code.Does program (fun _ ↦ []) (· = ·) where
  length _ _ := rfl
  complete _ heq := ⟨0, heq ▸ .done⟩
  sound _ _ hrun := ⟨_, _, Nat.le_refl _, rfl, hrun⟩

/-- The code of one instruction that goes on behind itself. -/
theorem one {i : Instruction} (hne : i ≠ .accept)
    (hlead : ∀ a p b q, i.Leads a p b q ↔ b = a + 1 ∧ M p q) :
    Code.Does program (fun _ ↦ [i]) M where
  length _ _ := rfl
  complete hcode hM :=
    ⟨1, .one (holds_cons_iff.1 hcode).1 ((hlead _ _ _ _).2 ⟨rfl, hM⟩)⟩
  sound hcode haccept hrun := by
    obtain ⟨m, c, r, rfl, hstep, hrest⟩ :=
      hrun.exists_step haccept (holds_cons_iff.1 hcode).1 hne
    obtain ⟨rfl, hM⟩ := (hlead _ _ _ _).1 hstep
    exact ⟨m, r, Nat.le_succ m, hM, hrest⟩

/-- One block behind another. -/
theorem andThen (h : Code.Does program code M) (h' : Code.Does program code' N) :
    Code.Does program (code.andThen code') fun p q ↦ ∃ r, M p r ∧ N r q where
  length s t := by
    simp only [Code.andThen, List.length_append, h.length s t]
    rw [h'.length]
  complete {s p q} hcode hMN := by
    obtain ⟨hfirst, hsecond⟩ := holds_append_iff.1 hcode
    obtain ⟨r, hM, hN⟩ := hMN
    obtain ⟨m, hrun⟩ := h.complete hfirst hM
    obtain ⟨n, hrun'⟩ := h'.complete hsecond hN
    refine ⟨m + n, ?_⟩
    simp only [Code.andThen, List.length_append, ← Nat.add_assoc]
    exact hrun.trans hrun'
  sound {s p n b q} hcode haccept hrun := by
    obtain ⟨hfirst, hsecond⟩ := holds_append_iff.1 hcode
    obtain ⟨m, r, hm, hM, hrest⟩ := h.sound hfirst haccept hrun
    obtain ⟨m', r', hm', hN, hrest'⟩ := h'.sound hsecond haccept hrest
    refine ⟨m', r', Nat.le_trans hm' hm, ⟨r, hM, hN⟩, ?_⟩
    simp only [Code.andThen, List.length_append, ← Nat.add_assoc]
    exact hrest'

theorem copies (h : Code.Does program code M) (count : Nat) :
    Code.Does program (code.copies count) (Times M count) := by
  induction count with
  | zero => exact nil
  | succ count ih => exact h.andThen ih

/-- The body once and then as often as it matches: behind the body the run is shorter. -/
theorem plus (h : Code.Does program code M) (greedy : Bool) :
    Code.Does program (code.plus greedy) fun p q ↦ ∃ count, 1 ≤ count ∧ Times M count p q where
  length s t := by simp only [Code.plus, List.length_append, h.length s t, List.length_singleton]
  complete {s p q} hcode hM := by
    obtain ⟨hbody, hchoice⟩ := holds_append_iff.1 hcode
    obtain ⟨count, hcount, htimes⟩ := hM
    simp only [Code.plus, List.length_append, List.length_singleton, ← Nat.add_assoc]
    induction count generalizing p with
    | zero => cases hcount
    | succ count ih =>
      obtain ⟨r, hM, hrest⟩ := htimes
      obtain ⟨n, hrun⟩ := h.complete hbody hM
      have hleave := Runs.one (holds_cons_iff.1 hchoice).1
        ((choice_leads_iff (p := r)).2 ⟨.inr rfl, rfl⟩)
      have hagain := Runs.one (holds_cons_iff.1 hchoice).1
        ((choice_leads_iff (p := r)).2 ⟨.inl rfl, rfl⟩)
      cases count with
      | zero =>
        obtain rfl : r = q := hrest
        exact ⟨n + 1, hrun.trans hleave⟩
      | succ count =>
        obtain ⟨m, hmore⟩ := ih (Nat.succ_pos count) hrest
        exact ⟨n + 1 + m, (hrun.trans hagain).trans hmore⟩
  sound {s p n b q} hcode haccept hrun := by
    obtain ⟨hbody, hchoice⟩ := holds_append_iff.1 hcode
    simp only [Code.plus, List.length_append, List.length_singleton, ← Nat.add_assoc]
    induction n using Nat.strongRecOn generalizing p with
    | ind n ih =>
      obtain ⟨m, r, hm, hM, hrest⟩ := h.sound hbody haccept hrun
      obtain ⟨k, c, r', rfl, hstep, hback⟩ :=
        hrest.exists_step haccept (holds_cons_iff.1 hchoice).1 choice_ne_accept
      obtain ⟨rfl | rfl, rfl⟩ := choice_leads_iff.1 hstep
      · obtain ⟨l, t, hl, ⟨count, hcount, htimes⟩, hlast⟩ := ih k hm hback
        exact ⟨l, t, by omega, ⟨count + 1, Nat.succ_pos count, r', hM, htimes⟩, hlast⟩
      · exact ⟨k, r', by omega, ⟨1, Nat.le_refl 1, times_one_iff.2 hM⟩, hback⟩

theorem length_star (code : Code) (greedy : Bool) (s : Nat) :
    (code.star greedy s).length = (code (s + 1)).length + 2 := by
  simp [Code.star]

/-- The body as often as it matches. -/
theorem star (h : Code.Does program code M) (greedy : Bool) :
    Code.Does program (code.star greedy) fun p q ↦ ∃ count, Times M count p q where
  length s t := by rw [length_star, length_star, h.length (s + 1) (t + 1)]
  complete {s p q} hcode hM := by
    obtain ⟨hchoice, hcode⟩ := holds_cons_iff.1 hcode
    obtain ⟨hbody, hjump⟩ := holds_append_iff.1 hcode
    obtain ⟨count, htimes⟩ := hM
    rw [length_star, ← Nat.add_assoc]
    induction count generalizing p with
    | zero =>
      obtain rfl : p = q := htimes
      exact ⟨1, .one hchoice (choice_leads_iff.2 ⟨.inr rfl, rfl⟩)⟩
    | succ count ih =>
      obtain ⟨r, hM, hrest⟩ := htimes
      obtain ⟨n, hrun⟩ := h.complete hbody hM
      obtain ⟨m, hmore⟩ := ih hrest
      have hinto := Runs.one hchoice ((choice_leads_iff (p := p)).2 ⟨.inl rfl, rfl⟩)
      have hback := Runs.one (holds_cons_iff.1 hjump).1 ((jump_leads_iff (p := r)).2 ⟨rfl, rfl⟩)
      exact ⟨_, ((hinto.trans hrun).trans hback).trans hmore⟩
  sound {s p n b q} hcode haccept hrun := by
    obtain ⟨hchoice, hcode⟩ := holds_cons_iff.1 hcode
    obtain ⟨hbody, hjump⟩ := holds_append_iff.1 hcode
    rw [length_star, ← Nat.add_assoc]
    induction n using Nat.strongRecOn generalizing p with
    | ind n ih =>
      obtain ⟨m, c, r, rfl, hstep, hrest⟩ := hrun.exists_step haccept hchoice choice_ne_accept
      obtain ⟨rfl | rfl, rfl⟩ := choice_leads_iff.1 hstep
      · obtain ⟨m', r', hm', hM, hend⟩ := h.sound hbody haccept hrest
        obtain ⟨k, c, r'', rfl, hstep, hback⟩ :=
          hend.exists_step haccept (holds_cons_iff.1 hjump).1 nofun
        obtain ⟨rfl, rfl⟩ := jump_leads_iff.1 hstep
        obtain ⟨l, t, hl, ⟨count, htimes⟩, hlast⟩ := ih k (by omega) hback
        exact ⟨l, t, by omega, ⟨count + 1, r'', hM, htimes⟩, hlast⟩
      · exact ⟨m, r, Nat.le_succ m, ⟨0, rfl⟩, hrest⟩

/-- The body or nothing, several times in one another; the ways around end where the code ends. -/
theorem options (h : Code.Does program code M) (greedy : Bool) {count s stop : Nat}
    (hstop : stop = s + count * ((code 0).length + 1)) :
    (code.options greedy stop count s).length = count * ((code 0).length + 1) ∧
    (∀ {p q k}, Holds program s (code.options greedy stop count s) → k ≤ count →
      Times M k p q → ∃ n, Runs program n s p stop q) ∧
    ∀ {p n b q}, Holds program s (code.options greedy stop count s) →
      program[b]? = some .accept → Runs program n s p b q →
      ∃ m r, m ≤ n ∧ (∃ k ≤ count, Times M k p r) ∧ Runs program m stop r b q := by
  induction count generalizing s with
  | zero =>
    obtain rfl : stop = s := by omega
    refine ⟨(Nat.zero_mul _).symm, fun _ hk htimes ↦ ?_, fun _ _ hrun ↦ ?_⟩
    · obtain rfl := Nat.le_zero.1 hk
      obtain rfl := htimes
      exact ⟨0, .done⟩
    · exact ⟨_, _, Nat.le_refl _, ⟨0, Nat.le_refl 0, rfl⟩, hrun⟩
  | succ count ih =>
    have hbody : (code (s + 1)).length = (code 0).length := h.length _ _
    have hstop' : stop = s + 1 + (code (s + 1)).length + count * ((code 0).length + 1) := by
      rw [hstop, hbody, Nat.succ_mul]
      omega
    obtain ⟨hlength, hcomplete, hsound⟩ := ih hstop'
    refine ⟨?_, fun {p q k} hcode hk htimes ↦ ?_, fun {p n b q} hcode haccept hrun ↦ ?_⟩
    · rw [Code.options, List.length_cons, List.length_append, hlength, hbody, Nat.succ_mul]
      omega
    · obtain ⟨hchoice, hcode⟩ := holds_cons_iff.1 hcode
      obtain ⟨hinner, hmore⟩ := holds_append_iff.1 hcode
      cases k with
      | zero =>
        obtain rfl : p = q := htimes
        exact ⟨1, .one hchoice (choice_leads_iff.2 ⟨.inr rfl, rfl⟩)⟩
      | succ k =>
        obtain ⟨r, hM, hrest⟩ := htimes
        obtain ⟨n, hrun⟩ := h.complete hinner hM
        obtain ⟨m, hrun'⟩ := hcomplete hmore (Nat.le_of_succ_le_succ hk) hrest
        have hinto := Runs.one hchoice ((choice_leads_iff (p := p)).2 ⟨.inl rfl, rfl⟩)
        exact ⟨_, (hinto.trans hrun).trans hrun'⟩
    · obtain ⟨hchoice, hcode⟩ := holds_cons_iff.1 hcode
      obtain ⟨hinner, hmore⟩ := holds_append_iff.1 hcode
      obtain ⟨m, c, r, rfl, hstep, hrest⟩ := hrun.exists_step haccept hchoice choice_ne_accept
      obtain ⟨rfl | rfl, rfl⟩ := choice_leads_iff.1 hstep
      · obtain ⟨m', r', hm', hM, hrest⟩ := h.sound hinner haccept hrest
        obtain ⟨l, t, hl, ⟨k, hk, htimes⟩, hrest⟩ := hsound hmore haccept hrest
        exact ⟨l, t, by omega, ⟨k + 1, Nat.succ_le_succ hk, r', hM, htimes⟩, hrest⟩
      · exact ⟨m, r, Nat.le_succ m, ⟨0, Nat.zero_le _, rfl⟩, hrest⟩

theorem atMost_eq_options (code : Code) (greedy : Bool) (count s : Nat) :
    code.atMost greedy count s =
      code.options greedy (s + count * ((code (s + 1)).length + 1)) count s := by
  cases count <;> rfl

theorem atMost (h : Code.Does program code M) (greedy : Bool) (count : Nat) :
    Code.Does program (code.atMost greedy count) fun p q ↦ ∃ k ≤ count, Times M k p q := by
  have hoptions (s : Nat) := @options _ _ _ h greedy count s
    (s + count * ((code (s + 1)).length + 1)) (by rw [h.length (s + 1) 0])
  have hlength (s : Nat) : (code.atMost greedy count s).length = count * ((code 0).length + 1) := by
    rw [atMost_eq_options]
    exact (hoptions s).1
  have hstop (s : Nat) : s + count * ((code (s + 1)).length + 1) =
      s + (code.atMost greedy count s).length := by rw [hlength, h.length (s + 1) 0]
  refine ⟨fun s t ↦ (hlength s).trans (hlength t).symm, fun {s p q} hcode hM ↦ ?_,
    fun {s p n b q} hcode haccept hrun ↦ ?_⟩
  · obtain ⟨k, hk, htimes⟩ := hM
    rw [← hstop]
    rw [atMost_eq_options] at hcode
    exact (hoptions s).2.1 hcode hk htimes
  · rw [← hstop]
    rw [atMost_eq_options] at hcode
    exact (hoptions s).2.2 hcode haccept hrun

theorem atLeast (h : Code.Does program code M) (greedy consumes : Bool) (least : Nat) :
    Code.Does program (code.atLeast greedy consumes least)
      fun p q ↦ ∃ count, least ≤ count ∧ Times M count p q := by
  cases least with
  | zero =>
    cases consumes with
    | true => exact (h.star greedy).congr fun p q ↦ by simp
    | false =>
      -- The body is entered once at least, or not at all.
      refine ((h.plus greedy).atMost greedy 1).congr fun p q ↦ ⟨?_, ?_⟩
      · rintro ⟨k, hk, htimes⟩
        obtain rfl | rfl : k = 0 ∨ k = 1 := by omega
        · exact ⟨0, Nat.le_refl 0, htimes⟩
        · obtain ⟨count, -, hcount⟩ := times_one_iff.1 htimes
          exact ⟨count, Nat.zero_le _, hcount⟩
      · rintro ⟨count, -, htimes⟩
        cases count with
        | zero => exact ⟨0, Nat.zero_le 1, htimes⟩
        | succ count =>
          exact ⟨1, Nat.le_refl 1, times_one_iff.2 ⟨count + 1, Nat.succ_pos count, htimes⟩⟩
  | succ least =>
    refine ((h.copies least).andThen (h.plus greedy)).congr fun p q ↦ ⟨?_, ?_⟩
    · rintro ⟨r, hfirst, count, hcount, hrest⟩
      exact ⟨least + count, by omega, times_add_iff.2 ⟨r, hfirst, hrest⟩⟩
    · rintro ⟨count, hcount, htimes⟩
      obtain ⟨more, rfl⟩ := Nat.exists_eq_add_of_le (Nat.le_of_succ_le hcount)
      obtain ⟨r, hfirst, hrest⟩ := times_add_iff.1 htimes
      exact ⟨r, hfirst, more, by omega, hrest⟩

theorem repetition (h : Code.Does program code M) (greedy consumes : Bool) (least : Nat)
    (most : Option Nat) :
    Code.Does program (Code.repetition greedy consumes least most code) fun p q ↦
      ∃ count, least ≤ count ∧ (∀ n ∈ most, count ≤ max least n) ∧ Times M count p q := by
  cases most with
  | none => exact (h.atLeast greedy consumes least).congr fun p q ↦ by simp
  | some most =>
    refine ((h.copies least).andThen (h.atMost greedy (most - least))).congr fun p q ↦ ⟨?_, ?_⟩
    · rintro ⟨r, hfirst, k, hk, hrest⟩
      refine ⟨least + k, Nat.le_add_right _ _, fun n hn ↦ ?_, times_add_iff.2 ⟨r, hfirst, hrest⟩⟩
      obtain rfl := Option.mem_some.1 hn
      omega
    · rintro ⟨count, hcount, hmost, htimes⟩
      have hcount' := hmost most rfl
      obtain ⟨k, rfl⟩ := Nat.exists_eq_add_of_le hcount
      obtain ⟨r, hfirst, hrest⟩ := times_add_iff.1 htimes
      exact ⟨r, hfirst, k, by omega, hrest⟩

/-- Where the second one of two blocks stands. -/
def secondStart (code : Code) (s : Nat) : Nat := s + (code (s + 1)).length + 2

theorem length_orElse (code code' : Code) (s : Nat) : (code.orElse code' s).length =
    (code (s + 1)).length + (code' (secondStart code s)).length + 2 := by
  simp only [Code.orElse, secondStart, List.length_cons, List.length_append]
  omega

/-- The code of two blocks ends where the second one ends. -/
theorem stop_orElse (code code' : Code) (s : Nat) : s + (code.orElse code' s).length =
    secondStart code s + (code' (secondStart code s)).length := by
  rw [length_orElse, secondStart]
  omega

theorem holds_orElse {s : Nat} (hcode : Holds program s (code.orElse code' s)) :
    program[s]? = some (.split (s + 1) (secondStart code s)) ∧
      Holds program (s + 1) (code (s + 1)) ∧
      program[s + 1 + (code (s + 1)).length]? =
        some (.jump (s + (code.orElse code' s).length)) ∧
      Holds program (secondStart code s) (code' (secondStart code s)) := by
  obtain ⟨hchoice, hcode⟩ := holds_cons_iff.1 hcode
  obtain ⟨hone, hcode⟩ := holds_append_iff.1 hcode
  obtain ⟨hjump, hother⟩ := holds_cons_iff.1 hcode
  rw [show s + 1 + (code (s + 1)).length + 1 = s + (code (s + 1)).length + 2 by omega] at hother
  refine ⟨hchoice, hone, ?_, hother⟩
  rw [hjump, stop_orElse, secondStart]

/-- Either block. -/
theorem orElse (h : Code.Does program code M) (h' : Code.Does program code' N) :
    Code.Does program (code.orElse code') fun p q ↦ M p q ∨ N p q where
  length s t := by rw [length_orElse, length_orElse, h.length (s + 1) (t + 1), h'.length]
  complete {s p q} hcode hMN := by
    obtain ⟨hchoice, hone, hjump, hother⟩ := holds_orElse hcode
    rcases hMN with hM | hN
    · obtain ⟨n, hrun⟩ := h.complete hone hM
      have hinto := Runs.one hchoice ((split_leads_iff (p := p)).2 ⟨.inl rfl, rfl⟩)
      exact ⟨_, (hinto.trans hrun).trans (.one hjump (jump_leads_iff.2 ⟨rfl, rfl⟩))⟩
    · obtain ⟨n, hrun⟩ := h'.complete hother hN
      have hinto := Runs.one hchoice ((split_leads_iff (p := p)).2 ⟨.inr rfl, rfl⟩)
      rw [stop_orElse]
      exact ⟨_, hinto.trans hrun⟩
  sound {s p n b q} hcode haccept hrun := by
    obtain ⟨hchoice, hone, hjump, hother⟩ := holds_orElse hcode
    obtain ⟨m, c, r, rfl, hstep, hrest⟩ := hrun.exists_step haccept hchoice nofun
    obtain ⟨rfl | rfl, rfl⟩ := split_leads_iff.1 hstep
    · obtain ⟨k, t, hk, hM, hend⟩ := h.sound hone haccept hrest
      obtain ⟨l, d, u, rfl, hstep, hlast⟩ := hend.exists_step haccept hjump nofun
      obtain ⟨rfl, rfl⟩ := jump_leads_iff.1 hstep
      exact ⟨l, u, by omega, .inl hM, hlast⟩
    · obtain ⟨k, t, hk, hN, hend⟩ := h'.sound hother haccept hrest
      refine ⟨k, t, by omega, .inr hN, ?_⟩
      rw [stop_orElse]
      exact hend

end Code.Does

/-! ### The code of an expression -/

theorem contains_single_iff {c d : Char} : (CharSet.single c).contains d = true ↔ d = c := by
  have hnat : c.toNat = d.toNat ↔ d = c := ⟨fun h ↦ (Char.toNat_inj.1 h).symm, fun h ↦ h ▸ rfl⟩
  simp only [CharSet.contains, CharSet.single, CharSet.holds, Bool.and_eq_true, Bool.or_false,
    decide_eq_true_eq, ← hnat]
  omega

theorem take_does (s : CharSet) : Code.Does program (fun _ ↦ [.take s])
    fun p q ↦ (∃ c, p.after = some c ∧ s.contains c = true) ∧ q = p.skip 1 := by
  refine .one nofun fun a p b q ↦ ?_
  simp only [Instruction.Leads, Instruction.Passes, Instruction.Takes, false_and, false_or]
  exact and_left_comm

theorem literal_does (t : Text) :
    Code.Does program (fun _ ↦ t.map fun c ↦ .take (.single c))
      fun p q ↦ t <+: p.rest ∧ q = p.skip t.length := by
  induction t with
  | nil => exact Code.Does.nil.congr fun p q ↦ by simp [Place.skip, eq_comm]
  | cons c t ih =>
    refine Code.Does.congr ((take_does (.single c)).andThen ih) fun p q ↦ ?_
    obtain ⟨index, before, rest⟩ := p
    cases rest with
    | nil => simp [Place.after]
    | cons d rest =>
      simp only [Place.after, List.head?_cons, Option.some.injEq, exists_eq_left',
        contains_single_iff, List.cons_prefix_cons, Place.skip, List.length_cons]
      constructor
      · rintro ⟨r, ⟨rfl, rfl⟩, hprefix, hq⟩
        exact ⟨⟨rfl, hprefix⟩, hq⟩
      · rintro ⟨⟨rfl, hprefix⟩, hq⟩
        exact ⟨_, ⟨rfl, rfl⟩, hprefix, hq⟩

theorem save_does (slot : Nat) : Code.Does program (fun _ ↦ [.save slot]) (· = ·) := by
  refine .one nofun fun a p b q ↦ ?_
  simp [Instruction.Leads, Instruction.Passes, Instruction.Takes, eq_comm]

namespace Expr

mutual

/-- **The code of an expression can be run through where the expression matches.** -/
theorem does (e : Expr) : Code.Does program e.code e.Matches := by
  cases e with
  | empty => exact .nil
  | literal t => exact literal_does t
  | set bytes s => exact take_does s
  | look l =>
    refine .one nofun fun a p b q ↦ ?_
    simp only [Instruction.Leads, Instruction.Passes, Instruction.Takes, false_and, or_false]
    constructor
    · rintro ⟨⟨hholds, rfl⟩, rfl⟩
      exact ⟨rfl, hholds, rfl⟩
    · rintro ⟨rfl, hholds, rfl⟩
      exact ⟨⟨hholds, rfl⟩, rfl⟩
  | repetition least most greedy body => exact (does body).repetition greedy _ least most
  | capture index body =>
    refine ((save_does _).andThen ((does body).andThen (save_does _))).congr fun p q ↦ ?_
    simp [Matches]
  | concat parts => exact doesAll parts
  | alternation branches => exact doesAny branches

theorem doesAll (parts : List Expr) : Code.Does program (codeOfAll parts) (MatchesAll parts) := by
  cases parts with
  | nil => exact .nil
  | cons e rest => exact (does e).andThen (doesAll rest)

theorem doesAny (branches : List Expr) :
    Code.Does program (codeOfAny branches) (MatchesAny branches) := by
  match branches with
  | [] =>
    refine (take_does .empty).congr fun p q ↦ ?_
    simp [MatchesAny, CharSet.contains, CharSet.empty, CharSet.holds]
  | [e] => exact (does e).congr fun p q ↦ by simp [MatchesAny]
  | e :: next :: rest => exact (does e).orElse (doesAny (next :: rest))

end

/-- **A program accepts at a place exactly if its expression matches from there on.** -/
theorem accepts_program_iff (e : Expr) : Accepts e.program 0 p ↔ ∃ q, e.Matches p q := by
  have hdoes : Code.Does e.program (capture 0 e).code e.Matches := does (capture 0 e)
  have hholds : Holds e.program 0 ((capture 0 e).code 0 ++ [.accept]) := by
    intro k i hi
    rw [Nat.zero_add, program, List.getElem?_toArray]
    exact hi
  obtain ⟨hcode, hend⟩ := holds_append_iff.1 hholds
  have haccept := (holds_cons_iff.1 hend).1
  constructor
  · rintro ⟨n, b, q, hrun, hb⟩
    obtain ⟨-, r, -, hmatch, -⟩ := hdoes.sound hcode hb hrun
    exact ⟨r, hmatch⟩
  · rintro ⟨q, hmatch⟩
    obtain ⟨n, hrun⟩ := hdoes.complete hcode hmatch
    exact ⟨n, _, q, hrun, haccept⟩

end Expr

end LineShell.Regex
