import LineShell.Proofs.Application.Contents
import LineShell.Proofs.Application.NamedFiles
import LineShell.Proofs.Options.FirstOperand
import LineShell.Proofs.Options.Integer
import LineShell.Proofs.Shell.History

/-!
# Showing the history

`history` takes one operand at most, a signed number of 64 bits. It shows as many lines of the
history as the number says, or all if there is no number, and of these only the last five hundred.

A number below zero is refused in one of two ways. Behind `--` it is an operand, and `history`
refuses it by itself; elsewhere its sign makes it look like an option, and the usage has none.
Nothing is written either way.
-/

namespace LineShell.Application

open Environment (NumberedEnd SinceClear)
open Usage (Progress dashes)

variable {arguments : List Text} {t : Text} {p q : Progress} {given : Given} {count : Option Int}
  {i : Int} {w : World}

/-! ### The count -/

/-- The operands for a count: itself, if there is one. -/
def countOperands (count : Option Int) : List ArgumentValue := count.toList.map .integer

/-- The arguments that spell a count. -/
def countArguments (count : Option Int) : List Text := count.toList.map Text.ofInteger

/-- No option awaits its value, and the operands are a count that one of the arguments spells. -/
structure ReadsCount (arguments : List Text) (p : Progress) (count : Option Int) : Prop where
  awaiting : p.awaiting = none
  operands : p.given.operands = countOperands count
  spelled : ∀ i ∈ count, ∃ t ∈ arguments, Text.readInteger t = .ok i

/-- An operand is read if it is a number and no other was read before. -/
theorem readsCount_of_readOperand (hp : ReadsCount arguments p count)
    (h : historyUsage.readOperand t p = .ok q) :
    ∃ count', ReadsCount (arguments ++ [t]) q count' := by
  rw [Usage.readOperand, hp.operands] at h
  cases count with
  | some i => cases h
  | none =>
    rw [show historyUsage.place? (countOperands none).length = historyUsage.operands.head? from rfl]
      at h
    dsimp only [historyUsage, List.head?_cons] at h
    rw [if_pos rfl] at h
    split at h
    · next i hi =>
      obtain rfl := Except.ok.inj h
      refine ⟨some i, hp.awaiting, rfl, ?_⟩
      rintro _ ⟨⟩
      exact ⟨t, List.mem_append_right _ List.mem_cons_self, hi⟩
    · cases h

/-- No argument is an option. -/
theorem readsCount_of_readArgument (hp : ReadsCount arguments p count)
    (h : historyUsage.readArgument p t = .ok q) :
    ∃ count', ReadsCount (arguments ++ [t]) q count' := by
  have hkept : ∀ q' : Progress, q'.awaiting = p.awaiting → q'.given = p.given →
      ∃ count', ReadsCount (arguments ++ [t]) q' count' := by
    intro q' hawaiting hgiven
    refine ⟨count, hawaiting.trans hp.awaiting, hgiven ▸ hp.operands, fun i hi ↦ ?_⟩
    obtain ⟨t', ht', hread⟩ := hp.spelled i hi
    exact ⟨t', List.mem_append_left _ ht', hread⟩
  rw [Usage.readArgument, hp.awaiting] at h
  dsimp only at h
  split at h
  · exact readsCount_of_readOperand hp h
  split at h
  · obtain rfl := Except.ok.inj h
    exact hkept _ hp.awaiting.symm rfl
  split at h
  · exact readsCount_of_readOperand hp h
  split at h
  · obtain rfl := Except.ok.inj h
    exact hkept _ hp.awaiting.symm rfl
  split at h
  · cases h
  · cases h

theorem exists_readsCount_of_foldlM
    (h : arguments.foldlM historyUsage.readArgument {} = .ok p) :
    ∃ count, ReadsCount arguments p count :=
  Usage.foldlM_induction (P := fun seen p ↦ ∃ count, ReadsCount seen p count)
    (fun ⟨_, hp⟩ hq ↦ readsCount_of_readArgument hp hq) ⟨none, rfl, rfl, nofun⟩ h

/-- **Accepted arguments give a count of 64 bits or none.** -/
theorem exists_count_of_read (h : historyUsage.read arguments = .ok (.run given)) :
    ∃ count, given.operands = countOperands count ∧
      ∀ i ∈ count, IsInteger i ∧ ∃ t ∈ arguments, Text.readInteger t = .ok i := by
  obtain ⟨p, hfold, -, -, -, rfl⟩ := Usage.exists_of_read_eq_run h
  obtain ⟨count, hcount⟩ := exists_readsCount_of_foldlM hfold
  refine ⟨count, hcount.operands, fun i hi ↦ ?_⟩
  obtain ⟨t, ht, hread⟩ := hcount.spelled i hi
  exact ⟨Text.isInteger_of_readInteger hread, t, ht, hread⟩

/-! ### Counts that are spelled -/

theorem not_mem_helpNames_of_readInteger (h : Text.readInteger t = .ok i) :
    t ∉ Usage.helpNames := by
  have hnames : ∀ name ∈ Usage.helpNames, Text.readInteger name = .error .invalidDigit := by decide
  intro ht
  rw [hnames t ht] at h
  cases h

/-- A number is read as the first operand. -/
theorem readOperand_number (hnone : p.given.operands = []) (h : Text.readInteger t = .ok i) :
    historyUsage.readOperand t p =
      .ok { p with given := { p.given with operands := [.integer i] } } := by
  rw [Usage.readOperand, hnone]
  show (if true then _ else _) = _
  rw [if_pos rfl, h]
  simp

theorem read_countArguments (h : ∀ i ∈ count, IsInteger i ∧ 0 ≤ i) :
    historyUsage.read (countArguments count) = .ok (.run ⟨[], countOperands count⟩) := by
  cases count with
  | none => rfl
  | some i =>
    obtain ⟨hi, hnonneg⟩ := h i rfl
    have hread := Text.readInteger_ofInteger hi
    have hoperand : historyUsage.readArgument {} (Text.ofInteger i) =
        .ok { given := ⟨[], [.integer i]⟩ } := by
      rw [Usage.readArgument]
      dsimp only
      rw [if_neg Bool.false_ne_true, if_neg (not_mem_helpNames_of_readInteger hread),
        if_pos (Text.head?_ofInteger_of_nonneg hnonneg)]
      exact readOperand_number rfl hread
    show historyUsage.read [Text.ofInteger i] = _
    rw [Usage.read, List.foldlM_cons, hoperand]
    rfl

theorem read_dashes_countArguments (h : ∀ i ∈ count, IsInteger i) :
    historyUsage.read (dashes :: countArguments count) =
      .ok (.run ⟨[], countOperands count⟩) := by
  cases count with
  | none => rfl
  | some i =>
    have hread := Text.readInteger_ofInteger (h i rfl)
    have hdashes : historyUsage.readArgument {} dashes = .ok { ended := true } := rfl
    have hoperand : historyUsage.readArgument { ended := true } (Text.ofInteger i) =
        .ok { ended := true, given := ⟨[], [.integer i]⟩ } :=
      readOperand_number (p := { ended := true }) rfl hread
    show historyUsage.read [dashes, Text.ofInteger i] = _
    rw [Usage.read, List.foldlM_cons, hdashes]
    show (([Text.ofInteger i].foldlM historyUsage.readArgument { ended := true }) >>= _) = _
    rw [List.foldlM_cons, hoperand]
    rfl

/-- A number below zero looks like an option. -/
theorem read_countArguments_of_neg (hi : IsInteger i) (hneg : i < 0) :
    historyUsage.read (countArguments (some i)) = .error (.unrecognized (Text.ofInteger i)) := by
  have hread := Text.readInteger_ofInteger hi
  have hhelp := not_mem_helpNames_of_readInteger hread
  have hdashes : Text.ofInteger i ≠ ['-', '-'] := by
    intro heq
    rw [heq] at hread
    cases hread
  have hhead : (Text.ofInteger i).head? = some '-' := by
    obtain ⟨n, rfl⟩ := Int.eq_negSucc_of_lt_zero hneg
    rfl
  have hoption : historyUsage.readArgument {} (Text.ofInteger i) =
      .error (.unrecognized (Text.ofInteger i)) := by
    rw [Usage.readArgument]
    dsimp only
    rw [if_neg Bool.false_ne_true, if_neg hhelp, if_neg (not_not_intro hhead), if_neg hdashes]
    rfl
  show historyUsage.read [Text.ofInteger i] = _
  rw [Usage.read, List.foldlM_cons, hoption]
  rfl

/-! ### What is shown -/

/-- The text that shows the last lines of the history, each behind its position. -/
def historyText (env : Environment) (count : Option Nat) : Text :=
  Text.unlines ((env.recent count).map historyLine)

theorem run_history (hread : historyUsage.read arguments = .ok (.run given))
    (hgiven : given.operands = countOperands count) (hnonneg : ∀ i ∈ count, 0 ≤ i) (w : World) :
    (history.run arguments).run.run w =
      w.ending (w.accepted historyName (historyText w.env (count.map Int.toNat))) := by
  rw [history, run_ofUsage hread, Act.run_get_bind, hgiven]
  cases count with
  | none => exact Act.run_write_eq w historyName _
  | some i =>
    obtain ⟨n, rfl⟩ := Int.eq_ofNat_of_zero_le (hnonneg i rfl)
    exact Act.run_write_eq w historyName _

/-- A number below zero fails, and nothing is done. -/
theorem run_history_of_neg (hread : historyUsage.read arguments = .ok (.run given))
    (hgiven : given.operands = countOperands (some i)) (hneg : i < 0) (w : World) :
    (history.run arguments).run.run w = (.error (.argument historyName .invalidOption), w) := by
  obtain ⟨n, rfl⟩ := Int.eq_negSucc_of_lt_zero hneg
  rw [history, run_ofUsage hread, Act.run_get_bind, hgiven]
  rfl

/-- A run ends as the count demands: a count from zero on, or none, gives the last lines of the
history; below zero nothing is done. -/
structure AnswersCount (w : World) (count : Option Int) (result : Except ShellError Unit × World) :
    Prop where
  shows : (∀ i ∈ count, 0 ≤ i) →
    result = w.ending (w.accepted historyName (historyText w.env (count.map Int.toNat)))
  refuses : ∀ i ∈ count, i < 0 → result = (.error (.argument historyName .invalidOption), w)

theorem answersCount_run_history (hread : historyUsage.read arguments = .ok (.run given))
    (hgiven : given.operands = countOperands count) (w : World) :
    AnswersCount w count ((history.run arguments).run.run w) where
  shows := fun hnonneg ↦ run_history hread hgiven hnonneg w
  refuses := by
    rintro i ⟨⟩ hneg
    exact run_history_of_neg hread hgiven hneg w

/-- **The history is listed as its numbered end.** Whatever lines are recorded and forgotten, the
history is what was recorded since it was last forgotten, and what is shown of it is its end with
the true positions. No index is at fault on the way; a length is a count in a machine word. Called
with a count that is not below zero, `history` writes a line for each entry of this end; with a
count below zero it fails and leaves the world as it was. -/
theorem history_lists_numbered_end (changes : List Environment.Change) :
    ∃ lines, SinceClear changes lines ∧ ∀ w : World, w.env.history = [] →
      let w' := { w with env := w.env.after changes }
      w'.env.history = lines ∧
      (∀ count, NumberedEnd lines count (w'.env.recent count) ∧
        (lines.length ≤ Text.maxCount →
          w'.env.recentSliced? count = some (w'.env.recent count))) ∧
      (∀ arguments given, historyUsage.read arguments = .ok (.run given) →
        ∃ count, given.operands = countOperands count ∧
          (∀ i ∈ count, IsInteger i ∧ ∃ t ∈ arguments, Text.readInteger t = .ok i) ∧
          AnswersCount w' count ((history.run arguments).run.run w')) ∧
      (∀ count, (∀ i ∈ count, IsInteger i) →
        AnswersCount w' count ((history.run (dashes :: countArguments count)).run.run w')) ∧
      (∀ count, (∀ i ∈ count, IsInteger i ∧ 0 ≤ i) →
        AnswersCount w' count ((history.run (countArguments count)).run.run w')) ∧
      (∀ i, IsInteger i → i < 0 → (history.run (countArguments (some i))).run.run w' =
        (.error (.argument historyName (.usage (.unrecognized (Text.ofInteger i)))), w')) := by
  obtain ⟨lines, hlines⟩ := Environment.exists_sinceClear changes
  refine ⟨lines, hlines, fun w hempty ↦ ?_⟩
  intro w'
  have hhistory : w'.env.history = lines := Environment.history_after hempty hlines
  refine ⟨hhistory, fun count ↦ ⟨?_, fun hlength ↦ ?_⟩, fun arguments given hread ↦ ?_,
    fun count hcount ↦ ?_, fun count hcount ↦ ?_, fun i hi hneg ↦ ?_⟩
  · exact hhistory ▸ Environment.numberedEnd_recent w'.env count
  · exact Environment.recentSliced?_eq (hhistory ▸ hlength) count
  · obtain ⟨count, hgiven, hspelled⟩ := exists_count_of_read hread
    exact ⟨count, hgiven, hspelled, answersCount_run_history hread hgiven w'⟩
  · exact answersCount_run_history (read_dashes_countArguments hcount) rfl w'
  · exact answersCount_run_history (read_countArguments hcount) rfl w'
  · exact run_ofUsage_error (read_countArguments_of_neg hi hneg) w'

/-- Two lines behind a clearing: the last of them, the count being spelled with and without a sign,
and a count below zero in both its ways. -/
theorem history_lists_numbered_end_two :
    let changes : List Environment.Change :=
      [.push "ls".toList, .clear, .push "cd /".toList, .push "pwd".toList]
    let w : World := ⟨{ workingDir := [Path.slash] }, .empty, none, .sink .fresh⟩
    let w' := { w with env := w.env.after changes }
    w.env.history = [] ∧ w'.env.history.length ≤ Text.maxCount ∧ IsInteger 1 ∧ IsInteger (-5) ∧
    w'.env.recentSliced? (some 1) = some [(2, "pwd".toList)] ∧
    (history.run ["1".toList]).run.run w' = (.ok (), w'.writing ["2. pwd\n".toList]) ∧
    historyUsage.read ["+1".toList] = .ok (.run ⟨[], [.integer 1]⟩) ∧
    (history.run ["+1".toList]).run.run w' = (.ok (), w'.writing ["2. pwd\n".toList]) ∧
    (history.run ["--".toList, "-5".toList]).run.run w' =
      (.error (.argument historyName .invalidOption), w') ∧
    (history.run ["-5".toList]).run.run w' =
      (.error (.argument historyName (.usage (.unrecognized "-5".toList))), w') := by
  intro changes w w'
  obtain ⟨lines, -, hends⟩ := history_lists_numbered_end changes
  obtain ⟨hhistory, hrecent, haccepted, hdashes, hplain, hneg⟩ := hends w rfl
  have hlength : w'.env.history.length ≤ Text.maxCount := by decide
  have hone : ∀ i ∈ some (1 : Int), IsInteger i ∧ 0 ≤ i := by decide
  have hfive : ∀ i ∈ some (-5 : Int), IsInteger i := by decide
  have hsigned : historyUsage.read ["+1".toList] = .ok (.run ⟨[], [.integer 1]⟩) := by decide
  refine ⟨rfl, hlength, (hone 1 rfl).1, hfive (-5) rfl, ?_, ?_, hsigned, ?_, ?_, ?_⟩
  · exact (hrecent (some 1)).2 (hhistory ▸ hlength)
  · exact (hplain (some 1) hone).shows fun i hi ↦ (hone i hi).2
  · obtain ⟨count, hgiven, -, hanswers⟩ := haccepted _ _ hsigned
    obtain rfl : count = some 1 := by
      cases count <;> simp_all [countOperands]
    exact hanswers.shows fun i hi ↦ (hone i hi).2
  · exact (hdashes (some (-5)) hfive).refuses (-5) rfl (by decide)
  · exact hneg (-5) (hfive (-5) rfl) (by decide)

end LineShell.Application
