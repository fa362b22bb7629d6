import Mathlib.Data.List.Nodup
import LineShell.Proofs.Application.PatternIndex
import LineShell.Proofs.Application.Reading
import LineShell.Proofs.Application.Windows

/-!
# Files by name

`cat`, `head`, `tail`, `grep`, `sed` and `wc` read the files that their arguments name, or else
their input. What accepted arguments ask for apart from the files (`Demand`) does not depend on
which of the two it is: given the demand, an application makes of one named file what it makes of
its input when that is the file (`Application.Asks.run_named`). Failures are the same too, since the
application fails in its own name and says nothing of where the bytes came from.

The two ways differ in the code of every application, in the branch for a single file. They agree
since what follows the reading ignores the input (`Act.IgnoresInput`), so it does not matter that
the input is another one (`Act.fedRun_bind`).
-/

namespace LineShell

/-! ### Being fed -/

namespace Act

variable {α β : Type} {app f : Text} {named fed : Act α} {w : World} {s : Source} {content : Bytes}

/-- What an action makes of a world when the source feeds it; behind it the input is as it was. -/
def fedRun (act : Act α) (w : World) (s : Source) : Except ShellError α × World :=
  ((act.run.run { w with input := some s }).1,
    { (act.run.run { w with input := some s }).2 with input := w.input })

theorem IgnoresInput.run_eq_fedRun (h : named.IgnoresInput) (w : World) (s : Source) :
    named.run.run w = named.fedRun w s := by
  have hsame := h w w.input
  rw [fedRun, h w (some s)]
  exact hsame

/-- What follows the reading and ignores the input goes on alike. -/
theorem fedRun_bind {next : α → Act β} (h : named.run.run w = fed.fedRun w s)
    (hnext : ∀ a, (next a).IgnoresInput) :
    (named >>= next).run.run w = (fed >>= next).fedRun w s := by
  simp only [fedRun, ExceptT.run_bind, StateT.run_bind]
  rw [h, fedRun]
  rcases fed.run.run { w with input := some s } with ⟨e | a, w'⟩
  · rfl
  · exact hnext a w' w.input

theorem run_openFile (hfile : w.files.read (w.env.resolve f) = .ok (.file content)) (app : Text) :
    (openFile app f).run.run w = (.ok (.bytes content), w) := by
  rw [openFile, run_get_bind, hfile]
  rfl

/-- What is read of a file that is named is what is read of it when it feeds. -/
theorem run_ofReading {reading : Source → Except StreamFault α × Source}
    (hfile : w.files.read (w.env.resolve f) = .ok (.file content)) (app : Text) :
    (openFile app f >>= fun s ↦ ofReading app (reading s).1).run.run w =
      (readInput app reading).fedRun w (.bytes content) := by
  rw [run_bind_of_ok (run_openFile hfile app), fedRun, run_readInput]
  dsimp only
  cases (reading (.bytes content)).1 <;> rfl

theorem run_fileLines_eq_fedRun (hfile : w.files.read (w.env.resolve f) = .ok (.file content))
    (app : Text) :
    (fileLines app f).run.run w = (readInput app Source.readLines).fedRun w (.bytes content) :=
  run_ofReading hfile app

/-- An action that writes what it makes of the lines of a file makes the same of its input. -/
theorem run_linesOf (hfile : w.files.read (w.env.resolve f) = .ok (.file content))
    {next : List Text → Act β} (hnext : ∀ lines, (next lines).IgnoresInput) (app : Text) :
    (linesOf app (some f) >>= next).run.run w = (linesOf app none >>= next).fedRun w
      (.bytes content) :=
  fedRun_bind (run_fileLines_eq_fedRun hfile app) hnext

end Act

open Act

/-! ### Demands -/

/-- What accepted arguments ask for, apart from the files: help, or to run with options and with
operands in front of the files, or to count. -/
inductive Demand where
  | help
  | run (options : List (Char × Option ArgumentValue)) (operands : List Text)
  | count (flags : List Text)

namespace Application

/-- The usage of `head`. -/
def headUsage : Usage :=
  portionUsage "Print the first lines of a file or of the input." "number of lines to print."

/-- The usage of `tail`. -/
def tailUsage : Usage :=
  portionUsage "Print the last lines of a file or of the input." "number of lines to print."

/-- The applications with a usage that read files or their input, and how many operands come before
the files. -/
def readers : List (Application × Usage × Nat) :=
  [(cat, catUsage, 0), (head, headUsage, 0), (tail, tailUsage, 0), (grep, grepUsage, 1),
    (sed, sedUsage, 1)]

/-- The application accepts the arguments; they demand this of the files. -/
inductive Asks : Application → List Text → Demand → List Text → Prop where
  | help {app : Application} {u : Usage} {k : Nat} {arguments : List Text} (files : List Text)
      (hmem : (app, u, k) ∈ readers) (hread : u.read arguments = .ok .help) :
      Asks app arguments .help files
  | run {app : Application} {u : Usage} {k : Nat} {arguments operands files : List Text}
      {given : Given} (hmem : (app, u, k) ∈ readers)
      (hread : u.read arguments = .ok (.run given)) (hcount : operands.length = k)
      (htexts : given.texts = operands ++ files) :
      Asks app arguments (.run given.options operands) files
  | count {arguments flags files : List Text}
      (hpartition : arguments.partition isCountFlag = (flags, files)) :
      Asks wc arguments (.count flags) files

variable {w : World} {f : Text} {content : Bytes} {arguments named operands : List Text}

/-! ### One file -/

/-- Two lists of arguments that demand the same, one of the input and the other of the file `f`. -/
structure NamesOne (u : Usage) (f : Text) (operands arguments named : List Text)
    (given given' : Given) : Prop where
  read_arguments : u.read arguments = .ok (.run given)
  read_named : u.read named = .ok (.run given')
  options_eq : given'.options = given.options
  texts : given.texts = operands
  texts_named : given'.texts = operands ++ [f]

namespace NamesOne

variable {u : Usage} {given given' : Given}

theorem has_eq (h : NamesOne u f operands arguments named given given') (short : Char) :
    given'.has short = given.has short := by
  rw [Given.has, h.options_eq, Given.has]

theorem count_eq (h : NamesOne u f operands arguments named given given') (short : Char)
    (otherwise : Nat) : given'.count short otherwise = given.count short otherwise := by
  rw [Given.count, Given.value?, h.options_eq, Given.count, Given.value?]

end NamesOne

theorem run_ofUsage {name : Text} {u : Usage} {index : List Text → Option Nat}
    {body : Given → Act Unit} {given : Given} (h : u.read arguments = .ok (.run given)) :
    (ofUsage name u index body).run arguments = body given := by
  rw [ofUsage]
  dsimp only
  rw [h]

theorem run_ofUsage_help {name : Text} {u : Usage} {index : List Text → Option Nat}
    {body : Given → Act Unit} (h : u.read arguments = .ok .help) :
    (ofUsage name u index body).run arguments = write name (u.help name) := by
  rw [ofUsage]
  dsimp only
  rw [h]

/-- Arguments that are refused fail, and nothing is done. -/
theorem run_ofUsage_error {name : Text} {u : Usage} {index : List Text → Option Nat}
    {body : Given → Act Unit} {f : UsageFault} (h : u.read arguments = .error f) (w : World) :
    ((ofUsage name u index body).run arguments).run.run w =
      (.error (.argument name (.usage f)), w) := by
  rw [ofUsage]
  dsimp only
  rw [h]
  rfl

section

variable {given given' : Given} (hfile : w.files.read (w.env.resolve f) = .ok (.file content))

include hfile

theorem run_cat_named (h : NamesOne catUsage f [] arguments named given given') :
    (cat.run named).run.run w = (cat.run arguments).fedRun w (.bytes content) := by
  rw [cat, run_ofUsage h.read_named, run_ofUsage h.read_arguments, h.texts_named, h.texts]
  simp only [List.nil_append, showFiles, bind_pure_unit]
  exact fedRun_bind (run_fileLines_eq_fedRun hfile catName) fun _ ↦ .write _ _

theorem run_portion_named {name : Text} {usage : Usage} {pick : Nat → List Text → List Text}
    (h : NamesOne usage f [] arguments named given given') :
    ((portion name usage pick).run named).run.run w =
      ((portion name usage pick).run arguments).fedRun w (.bytes content) := by
  rw [portion, run_ofUsage h.read_named, run_ofUsage h.read_arguments, h.count_eq, h.texts_named,
    h.texts]
  dsimp only
  split
  · exact ((basis_ignoresInput name).failArgument_bind _ _).run_eq_fedRun w _
  · exact run_linesOf hfile (fun _ ↦ .write _ _) name

theorem run_grep_named {pattern : Text}
    (h : NamesOne grepUsage f [pattern] arguments named given given') :
    (grep.run named).run.run w = (grep.run arguments).fedRun w (.bytes content) := by
  rw [grep, run_ofUsage h.read_named, run_ofUsage h.read_arguments]
  dsimp only
  rw [h.count_eq, h.has_eq, h.has_eq, h.texts_named, h.texts]
  dsimp only [List.head?_cons, Option.getD_some, List.cons_append, List.nil_append, List.drop]
  split
  · exact IgnoresInput.run_eq_fedRun (.throw _) w _
  · simp only [searchFiles, bind_pure_unit]
    exact fedRun_bind (run_fileLines_eq_fedRun hfile grepName) fun _ ↦ .write _ _

theorem run_sed_named {expression : Text}
    (h : NamesOne sedUsage f [expression] arguments named given given') :
    (sed.run named).run.run w = (sed.run arguments).fedRun w (.bytes content) := by
  rw [sed, run_ofUsage h.read_named, run_ofUsage h.read_arguments, h.texts_named, h.texts]
  dsimp only [List.head?_cons, Option.getD_some, List.cons_append, List.nil_append, List.drop]
  split
  · exact IgnoresInput.run_eq_fedRun (.throw _) w _
  · split
    · exact IgnoresInput.run_eq_fedRun (.throw _) w _
    · exact run_linesOf hfile (fun _ ↦ .write _ _) sedName

theorem run_wc_named {flags : List Text} (h : arguments.partition isCountFlag = (flags, []))
    (h' : named.partition isCountFlag = (flags, [f])) :
    (wc.run named).run.run w = (wc.run arguments).fedRun w (.bytes content) := by
  have hone : wc.run named =
      ((openFile wcName f >>= fun s ↦ ofReading wcName s.readText.1) >>= fun t ↦
        writeLine wcName (Text.join [' ']
          ((selectCounts flags (Counts.ofText t)).map Text.ofNat))) := by
    rw [wc]
    dsimp only
    rw [h']
    simp [countFiles, Counts.add]
  have hinput : wc.run arguments =
      (readInput wcName Source.readText >>= fun t ↦
        writeLine wcName (Text.join [' ']
          ((selectCounts flags (Counts.ofText t)).map Text.ofNat))) := by
    rw [wc]
    dsimp only
    rw [h]
    simp
  rw [hone, hinput]
  exact fedRun_bind (run_ofReading hfile wcName) fun _ ↦ .write _ _

end

/-! ### The applications together -/

/-- No two of the applications have the same name, and none that of `wc`. -/
theorem eq_of_mem_readers {app : Application} {u u' : Usage} {k k' : Nat}
    (h : (app, u, k) ∈ readers) (h' : (app, u', k') ∈ readers) : u = u' ∧ k = k' := by
  have hnames : (readers.map fun reader ↦ reader.1.name).Nodup := by decide
  have heq := List.inj_on_of_nodup_map hnames h h' rfl
  exact Prod.mk.inj (Prod.mk.inj heq).2

theorem exists_of_mem_readers {app : Application} {u : Usage} {k : Nat}
    (h : (app, u, k) ∈ readers) : ∃ name index body, app = ofUsage name u index body := by
  simp only [readers, List.mem_cons, List.not_mem_nil, or_false, Prod.mk.injEq] at h
  rcases h with ⟨rfl, rfl, -⟩ | ⟨rfl, rfl, -⟩ | ⟨rfl, rfl, -⟩ | ⟨rfl, rfl, -⟩ | ⟨rfl, rfl, -⟩ <;>
    exact ⟨_, _, _, rfl⟩

/-- **An application makes of one named file what it makes of its input** when that is the file: for
the same demand it gives the same result and leaves the same world, and its own input is untouched
then. -/
theorem Asks.run_named {app : Application} {d : Demand}
    (hfile : w.files.read (w.env.resolve f) = .ok (.file content)) (h : Asks app arguments d [])
    (h' : Asks app named d [f]) :
    (app.run named).run.run w = (app.run arguments).fedRun w (.bytes content) := by
  cases h with
  | help _ hmem hread =>
    cases h' with
    | help _ hmem' hread' =>
      obtain ⟨rfl, rfl⟩ := eq_of_mem_readers hmem hmem'
      obtain ⟨name, index, body, rfl⟩ := exists_of_mem_readers hmem
      rw [run_ofUsage_help hread, run_ofUsage_help hread']
      exact (IgnoresInput.write name _).run_eq_fedRun w _
  | @run _ u k _ operands _ given hmem hread hcount htexts =>
    generalize hoptions : given.options = options at h'
    cases h' with
    | @run _ _ _ _ _ _ given' hmem' hread' _ htexts' =>
      obtain ⟨rfl, rfl⟩ := eq_of_mem_readers hmem hmem'
      have hone : NamesOne u f operands arguments named given given' :=
        ⟨hread, hread', hoptions.symm, by rw [htexts, List.append_nil], htexts'⟩
      simp only [readers, List.mem_cons, List.not_mem_nil, or_false, Prod.mk.injEq] at hmem
      rcases hmem with ⟨rfl, rfl, rfl⟩ | ⟨rfl, rfl, rfl⟩ | ⟨rfl, rfl, rfl⟩ | ⟨rfl, rfl, rfl⟩ |
        ⟨rfl, rfl, rfl⟩
      · obtain rfl := List.eq_nil_of_length_eq_zero hcount
        exact run_cat_named hfile hone
      · obtain rfl := List.eq_nil_of_length_eq_zero hcount
        exact run_portion_named hfile hone
      · obtain rfl := List.eq_nil_of_length_eq_zero hcount
        exact run_portion_named hfile hone
      · obtain ⟨pattern, rfl⟩ := List.length_eq_one_iff.1 hcount
        exact run_grep_named hfile hone
      · obtain ⟨expression, rfl⟩ := List.length_eq_one_iff.1 hcount
        exact run_sed_named hfile hone
  | count hpartition =>
    cases h' with
    | count hpartition' => exact run_wc_named hfile hpartition hpartition'

/-! ### A file behind the other arguments -/

/-- A name that is taken as it stands, by the options and by the expansion of arguments. -/
structure Inert (f : Text) : Prop where
  no_star : star ∉ f
  no_dash : f.head? ≠ some '-'
  no_help : f ∉ Usage.helpNames

/-- The scan for the pattern of `grep` finds nothing else in front of further arguments. -/
theorem grepPatternFrom_append {index i : Nat} {front : List Text} (hi : i < index + front.length)
    (back : List Text) :
    grepPatternFrom index (front ++ back) = some i ↔ grepPatternFrom index front = some i := by
  fun_induction grepPatternFrom index front with
  | case1 index =>
    refine iff_of_false (fun h ↦ ?_) (Option.some_ne_none i ·.symm)
    have := le_of_grepPatternFrom h
    simp only [List.length_nil] at hi
    omega
  | case2 index argument hoption =>
    refine iff_of_false (fun h ↦ ?_) (Option.some_ne_none i ·.symm)
    rw [List.singleton_append, grepPatternFrom.eq_def] at h
    dsimp only at h
    rw [if_pos hoption] at h
    simp only [List.length_singleton] at hi
    split at h
    · cases h
    · have := le_of_grepPatternFrom h
      omega
  | case3 index argument hoption value rest ih =>
    rw [List.cons_append, List.cons_append, grepPatternFrom, if_pos hoption]
    exact ih (by simp only [List.length_cons] at hi; omega)
  | case4 index argument rest hoption hdash ih =>
    rw [List.cons_append, grepPatternFrom.eq_def]
    dsimp only
    rw [if_neg hoption, if_pos hdash]
    exact ih (by simp only [List.length_cons] at hi; omega)
  | case5 index argument rest hoption hdash =>
    rw [List.cons_append, grepPatternFrom.eq_def]
    dsimp only
    rw [if_neg hoption, if_neg hdash]

/-- The same of the other applications, most of which have no pattern. -/
theorem patternIndex_append {app : Application} {d : Demand} {args files : List Text}
    (h : Asks app args d files) {front : List Text} {i : Nat} (hi : i < front.length)
    (back : List Text) :
    app.patternIndex (front ++ back) = some i ↔ app.patternIndex front = some i := by
  have hreader : ∀ {u k}, (app, u, k) ∈ readers →
      (app.patternIndex (front ++ back) = some i ↔ app.patternIndex front = some i) := by
    intro u k hmem
    simp only [readers, List.mem_cons, List.not_mem_nil, or_false, Prod.mk.injEq] at hmem
    rcases hmem with ⟨rfl, -⟩ | ⟨rfl, -⟩ | ⟨rfl, -⟩ | ⟨rfl, -⟩ | ⟨rfl, -⟩
    · rfl
    · rfl
    · rfl
    · exact grepPatternFrom_append (by omega) back
    · rfl
  cases h with
  | help _ hmem => exact hreader hmem
  | run hmem => exact hreader hmem
  | count => rfl

/-- A name without a star is expanded to itself behind the others. -/
theorem expandArguments_concat (files : Files) (dir : Path) {kept kept' : Option Nat}
    {front : List Text} (hkept : ∀ i < front.length, kept' = some i ↔ kept = some i)
    (hf : star ∉ f) :
    Glob.expandArguments files dir kept' (front ++ [f]) =
      Glob.expandArguments files dir kept front ++ [f] := by
  rw [Glob.expandArguments, List.zipIdx_append, List.flatMap_append, Glob.expandArguments]
  congr 1
  · refine List.flatMap_congr fun x hx ↦ ?_
    have hlt : x.2 < front.length := by
      have := List.snd_lt_of_mem_zipIdx hx
      omega
    have hsame : some x.2 = kept' ↔ some x.2 = kept :=
      eq_comm.trans ((hkept x.2 hlt).trans eq_comm)
    simp only [hsame]
  · simp [hf]

end Application

namespace Usage

variable {u : Usage} {p q : Progress} {argument : Text} {arguments : List Text}

/-- The operands that were given are texts. -/
def Progress.Textual (p : Progress) : Prop := ∀ v ∈ p.given.operands, ∃ t, v = .text t

theorem Progress.Textual.length_texts (h : p.Textual) :
    p.given.texts.length = p.given.operands.length := by
  rw [Given.texts, List.filterMap_length_eq_length]
  intro v hv
  obtain ⟨t, rfl⟩ := h v hv
  rfl

/-- Reading an operand, where none is a number, puts it behind the others. -/
theorem readOperand_eq {place : OperandSpec}
    (hplace : u.place? p.given.operands.length = some place) (hnumber : place.isNumber = false) :
    u.readOperand argument p = .ok { p with
      ended := p.ended || place.kind == .many
      given := { p.given with operands := p.given.operands ++ [.text argument] } } := by
  rw [readOperand, hplace]
  simp [hnumber]

/-- Behind the options every argument is an operand, if there are places for all. -/
theorem foldlM_operands
    (hplaces : ∀ count, ∃ place, u.place? count = some place ∧ place.isNumber = false)
    (hawaiting : p.awaiting = none) (hended : p.ended = true) (texts : List Text) :
    texts.foldlM u.readArgument p =
      .ok { p with given := { p.given with operands := p.given.operands ++ texts.map .text } } := by
  induction texts generalizing p with
  | nil => rw [List.map_nil, List.append_nil]; rfl
  | cons t texts ih =>
    obtain ⟨place, hplace, hnumber⟩ := hplaces p.given.operands.length
    have hoperand : u.readArgument p t = u.readOperand t p := by
      rw [readArgument, hawaiting]
      exact if_pos hended
    have hfirst : u.readArgument p t = .ok { p with
        given := { p.given with operands := p.given.operands ++ [.text t] } } := by
      rw [hoperand, readOperand_eq hplace hnumber, hended, Bool.true_or]
    rw [List.foldlM_cons, hfirst]
    let q : Progress :=
      { p with given := { p.given with operands := p.given.operands ++ [.text t] } }
    have hrest := ih (p := q) hawaiting hended
    rw [List.append_assoc] at hrest
    exact hrest

theorem mem_of_place? {count : Nat} {place : OperandSpec} (h : u.place? count = some place) :
    place ∈ u.operands := by
  rw [place?] at h
  split at h
  · next hat =>
    obtain rfl := Option.some.inj h
    exact List.mem_of_getElem? hat
  · exact List.mem_of_getLast? (Option.filter_eq_some_iff.1 h).1

theorem operands_of_readValue {o : OptionSpec} {name : Text}
    (h : readValue o name argument p = .ok q) : q.given.operands = p.given.operands := by
  rw [readValue] at h
  split at h
  · cases h
  · dsimp only at h
    split at h
    · split at h
      · obtain rfl := Except.ok.inj h
        rfl
      · cases h
    · obtain rfl := Except.ok.inj h
      rfl

theorem operands_of_readOption (h : u.readOption argument p = .ok q) :
    q.given.operands = p.given.operands := by
  rw [readOption] at h
  split at h
  · cases h
  · split at h <;>
    · obtain rfl := Except.ok.inj h
      rfl

theorem textual_of_readOperand (hu : ∀ place ∈ u.operands, place.isNumber = false)
    (h : u.readOperand argument p = .ok q) (hp : p.Textual) : q.Textual := by
  cases hplace : u.place? p.given.operands.length with
  | none =>
    rw [readOperand, hplace] at h
    cases h
  | some place =>
    rw [readOperand_eq hplace (hu place (mem_of_place? hplace))] at h
    obtain rfl := Except.ok.inj h
    intro v hv
    rcases List.mem_append.1 hv with hv | hv
    · exact hp v hv
    · exact ⟨argument, List.mem_singleton.1 hv⟩

/-- **Where no operand is a number, all that are given are texts.** -/
theorem textual_of_readArgument (hu : ∀ place ∈ u.operands, place.isNumber = false)
    (h : u.readArgument p argument = .ok q) (hp : p.Textual) : q.Textual := by
  have hsame : q.given.operands = p.given.operands → q.Textual := by
    intro heq
    rw [Progress.Textual, heq]
    exact hp
  rw [readArgument] at h
  split at h
  · exact hsame (operands_of_readValue h)
  · split at h
    · exact textual_of_readOperand hu h hp
    split at h
    · obtain rfl := Except.ok.inj h
      exact hp
    split at h
    · exact textual_of_readOperand hu h hp
    split at h
    · obtain rfl := Except.ok.inj h
      exact hp
    split at h
    · cases h
    · exact hsame (operands_of_readOption h)

theorem textual_of_foldlM (hu : ∀ place ∈ u.operands, place.isNumber = false)
    (h : arguments.foldlM u.readArgument p = .ok q) (hp : p.Textual) : q.Textual :=
  foldlM_induction (P := fun _ p ↦ p.Textual)
    (fun hp hq ↦ textual_of_readArgument hu hq hp) hp h

/-- **An operand behind accepted arguments** is put behind their operands, if there is a place for
it that is not for a number. -/
theorem read_concat {given : Given} {place : OperandSpec} (h : u.read arguments = .ok (.run given))
    (hplace : u.place? given.operands.length = some place) (hnumber : place.isNumber = false)
    (hhelp : argument ∉ helpNames) (hdash : argument.head? ≠ some '-') :
    u.read (arguments ++ [argument]) =
      .ok (.run { given with operands := given.operands ++ [.text argument] }) := by
  obtain ⟨p, hfold, hawaiting, hhelp', hmissing, rfl⟩ := exists_of_read_eq_run h
  have hargument : u.readArgument p argument = u.readOperand argument p := by
    rw [readArgument, hawaiting]
    simp [hhelp, hdash]
  have hmissing' : u.missing
      { p.given with operands := p.given.operands ++ [.text argument] } = [] := by
    rw [missing, List.map_eq_nil_iff, List.filter_eq_nil_iff] at hmissing ⊢
    intro place hmem
    rw [List.length_append, ← List.drop_drop] at hmem
    exact hmissing place (List.mem_of_mem_drop hmem)
  have hlast : [argument].foldlM u.readArgument p = .ok { p with
      ended := p.ended || place.kind == .many
      given := { p.given with operands := p.given.operands ++ [.text argument] } } := by
    rw [List.foldlM_cons, hargument, readOperand_eq hplace hnumber]
    rfl
  rw [read, List.foldlM_append, hfold]
  refine (congrArg (· >>= _) hlast).trans ?_
  simp only [Except.bind, bind, hawaiting, hhelp', hmissing']
  rfl

end Usage

namespace Application

variable {f : Text} {arguments : List Text} {d : Demand} {app : Application}

/-- Behind the operands that come before the files there is a place for a file. -/
theorem exists_place_of_mem_readers {u : Usage} {k : Nat} (h : (app, u, k) ∈ readers) :
    (∀ place ∈ u.operands, place.isNumber = false) ∧
      ∃ place, u.place? k = some place ∧ place.isNumber = false := by
  have hall : ∀ reader ∈ readers, (∀ place ∈ reader.2.1.operands, place.isNumber = false) ∧
      (reader.2.1.place? reader.2.2).any (fun place ↦ !place.isNumber) = true := by decide
  obtain ⟨htexts, hplace⟩ := hall _ h
  obtain ⟨place, hsome, hnumber⟩ := (Option.any_eq_true _ _).1 hplace
  exact ⟨htexts, place, hsome, by simpa using hnumber⟩

/-- **A file behind accepted arguments that name none** is the one that they name then. -/
theorem Asks.concat (h : Asks app arguments d []) (hhelp : d ≠ .help) (hf : Inert f) :
    Asks app (arguments ++ [f]) d [f] := by
  cases h with
  | help => exact absurd rfl hhelp
  | @run _ u k _ operands _ given hmem hread hcount htexts =>
    obtain ⟨hplaces, place, hplace, hnumber⟩ := exists_place_of_mem_readers hmem
    obtain ⟨p, hfold, -, -, -, rfl⟩ := Usage.exists_of_read_eq_run hread
    have htextual : p.Textual := Usage.textual_of_foldlM hplaces hfold nofun
    have hlength : p.given.operands.length = k := by
      rw [← htextual.length_texts, htexts, List.append_nil, hcount]
    have hread' := Usage.read_concat hread (hlength ▸ hplace) hnumber hf.no_help hf.no_dash
    have htexts' : Given.texts { p.given with operands := p.given.operands ++ [.text f] } =
        operands ++ [f] := by
      rw [List.append_nil] at htexts
      rw [← htexts]
      exact List.filterMap_append
    have hasks := Asks.run hmem hread' hcount htexts'
    exact hasks
  | @count _ flags _ hpartition =>
    have hfile : isCountFlag f = false := by
      obtain ⟨-, hdash, -⟩ := hf
      unfold isCountFlag
      split
      · exact absurd rfl hdash
      · rfl
    refine .count ?_
    rw [List.partition_eq_filter_filter] at hpartition ⊢
    obtain ⟨hflags, hfiles⟩ := Prod.mk.inj hpartition
    rw [List.filter_append, List.filter_append, hflags, hfiles]
    simp [hfile]

end Application

end LineShell
