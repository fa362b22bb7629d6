import LineShell.Application.All

/-!
# Compositional properties of actions

An application touches the world in few ways: it writes to its output, it reads its input as lines
or as one text, and `cd` changes the directory; for the rest it looks at the world, and fails in its
own name. A property of actions that these have, and that sequencing passes on, is a property of
every application of the shell (`Registry.standard_scheme`). `Act.Scheme` lists the conditions;
there is one lemma for each way of building an action, and one for each application. `Act.Basis` is
the part of them that an application needs that is not fed.

The property is of the action as a whole, so it may speak of the world before and after it, of the
error, or of both. It may depend on the name of the application. A relation between the two worlds
is such a property if it is a preorder that holds of what an application does to the world
(`Act.Stepwise`).
-/

namespace LineShell

/-- The application that an error names, if an application failed. -/
def ShellError.application? : ShellError → Option Text
  | argument app _ => some app
  | path app _ => some app
  | pattern app _ => some app
  | stream app _ => some app
  | unterminated _ => none
  | unknownApplication _ => none
  | redirection _ => none
  | depth _ => none

/-- An error in the name of the application. -/
def ShellError.Names (app : Text) (e : ShellError) : Prop := e.application? = some app

namespace Act

/-! ### What actions do -/

variable {α β : Type}

theorem run_get_bind (next : World → Act α) (w : World) :
    (get >>= next).run.run w = (next w).run.run w := rfl

/-- A text is written to the sink or to the file that the output is. -/
theorem run_write (app t : Text) (w : World) :
    (write app t).run.run w =
      match w.output with
      | .sink s =>
        match s.write t.encode with
        | .ok s => (.ok (), { w with output := .sink s })
        | .error f => (.error (.stream app f), w)
      | .file loc => (.ok (), { w with files := w.files.append loc t.encode }) := by
  rw [write, run_get_bind]
  cases w.output with
  | sink s =>
    dsimp only
    cases s.write t.encode <;> rfl
  | file loc => rfl

/-- The input is read from, if there is one, and what is left of it is the input then. -/
theorem run_readInput (app : Text) (reading : Source → Except StreamFault α × Source) (w : World) :
    (readInput app reading).run.run w =
      match w.input with
      | none => (.error (.argument app .missingInput), w)
      | some s =>
        ((reading s).1.mapError (.stream app), { w with input := some (reading s).2 }) := by
  rw [readInput, run_get_bind]
  cases w.input with
  | none => rfl
  | some s =>
    dsimp only
    rcases reading s with ⟨f | a, s'⟩ <;> rfl

/-- The directory is changed to a path that is canonical, or nothing is done. -/
theorem run_changeTo (shown : Text) (path : Path) (w : World) :
    (Application.changeTo shown path).run.run w =
      match w.files.isDirectory path, w.files.canonical path with
      | true, .ok dir => (.ok (), { w with env := { w.env with workingDir := dir } })
      | true, .error e => (.error (.path Application.cdName (.os shown e)), w)
      | false, _ => (.error (.path Application.cdName (.notDirectory shown)), w) := by
  rw [Application.changeTo, run_get_bind]
  cases w.files.isDirectory path with
  | false => rfl
  | true => cases w.files.canonical path <;> rfl

/-! ### What applications are made of -/

/-- A property of actions that holds of what an application is made of, reading its input apart. -/
structure Basis (app : Text) (C : ∀ {α : Type}, Act α → Prop) : Prop where
  pure : ∀ {α : Type} (a : α), C (pure a : Act α)
  /-- An application fails in its own name. -/
  throw : ∀ {α : Type} {e : ShellError}, e.Names app → C (throw e : Act α)
  bind : ∀ {α β : Type} {act : Act α} {next : α → Act β}, C act → (∀ a, C (next a)) →
    C (act >>= next)
  /-- The input is read from, and not looked at. -/
  get : ∀ {α : Type} {next : World → Act α}, (∀ (w : World) input, next { w with input } = next w) →
    (∀ w, C (next w)) → C (get >>= next)
  write : ∀ t, C (write app t)
  /-- Only `cd` changes the directory. -/
  changeTo : app = Application.cdName → ∀ shown path, C (Application.changeTo shown path)

/-- A property of actions that holds of what an application is made of. -/
structure Scheme (app : Text) (C : ∀ {α : Type}, Act α → Prop) : Prop extends Basis app C where
  readLines : C (readInput app Source.readLines)
  readText : C (readInput app Source.readText)

variable {app : Text} {C : ∀ {α : Type}, Act α → Prop}

namespace Basis

variable (hC : Basis app C)

include hC

theorem map (f : α → β) {act : Act α} (hact : C act) : C (f <$> act) := by
  rw [map_eq_pure_bind]
  exact hC.bind hact fun _ ↦ hC.pure _

/-! ### Failing -/

theorem failArgument (f : ArgumentFault) : C (failArgument app f : Act α) := hC.throw rfl

/-- Behind a failure nothing is done. -/
theorem failArgument_bind (f : ArgumentFault) (next : α → Act β) :
    C (Act.failArgument app f >>= next) := by
  have hskip : (Act.failArgument app f >>= next) = Act.failArgument app f := rfl
  rw [hskip]
  exact hC.failArgument f

/-! ### Reading and writing -/

theorem writeLine (line : Text) : C (writeLine app line) := hC.write _

theorem writeLines (lines : List Text) : C (writeLines app lines) := hC.write _

theorem openFile (path : Text) : C (openFile app path) := by
  refine hC.get (fun _ _ ↦ rfl) fun w ↦ ?_
  split
  · exact hC.pure _
  · exact hC.throw rfl
  · exact hC.throw rfl

theorem ofReading (result : Except StreamFault α) : C (ofReading app result) := by
  cases result with
  | ok a => exact hC.pure a
  | error f => exact hC.throw rfl

theorem fileLines (path : Text) : C (fileLines app path) :=
  hC.bind (hC.openFile path) fun _ ↦ hC.ofReading _

end Basis

theorem Scheme.linesOf (hC : Scheme app C) (path : Option Text) : C (linesOf app path) := by
  cases path with
  | some path => exact hC.fileLines path
  | none => exact hC.readLines

/-! ### Relations along an action -/

/-- A relation between the world before an action and the one behind it that sequencing passes on,
and that holds whatever an application does to the world. -/
structure Stepwise (app : Text) (R : World → World → Prop) : Prop where
  refl : ∀ w, R w w
  trans : ∀ {w w' w''}, R w w' → R w' w'' → R w w''
  /-- A text is written to a sink. -/
  sink : ∀ (w : World) {s s' : Sink} (t : Text), w.output = .sink s →
    s'.bytes = s.bytes ++ t.encode → s'.refuses = s.refuses → R w { w with output := .sink s' }
  /-- A text is written to a file. -/
  file : ∀ (w : World) {loc : Location} (t : Text), w.output = .file loc →
    R w { w with files := w.files.append loc t.encode }
  /-- The input is read as lines or as one text. -/
  read : ∀ (w : World) {s s' : Source}, w.input = some s → s' = s.readLines.2 ∨ s' = s.readText.2 →
    R w { w with input := some s' }
  moved : app = Application.cdName → ∀ (w : World) (dir : Path),
    R w { w with env := { w.env with workingDir := dir } }

/-- The relation holds between any world and the one that the action leaves. -/
def Along (R : World → World → Prop) (act : Act α) : Prop := ∀ w, R w (act.run.run w).2

namespace Stepwise

variable {R : World → World → Prop} (hR : Stepwise app R)

include hR

theorem bind {act : Act α} {next : α → Act β} (hact : Along R act) (hnext : ∀ a, Along R (next a)) :
    Along R (act >>= next) := by
  intro w
  have h := hact w
  simp only [ExceptT.run_bind, StateT.run_bind]
  rcases hrun : act.run.run w with ⟨e | a, w'⟩ <;> rw [hrun] at h
  · exact h
  · exact hR.trans h (hnext a w')

/-- A text is written as a whole or not at all. -/
theorem write (t : Text) : Along R (Act.write app t) := by
  intro w
  rw [run_write]
  split
  · next s hs =>
    split
    · next s' hwrite =>
      rw [Sink.write] at hwrite
      split at hwrite
      · cases hwrite
      · obtain rfl := Except.ok.inj hwrite
        exact hR.sink w t hs rfl rfl
    · exact hR.refl w
  · next loc hloc => exact hR.file w t hloc

theorem readInput {reading : Source → Except StreamFault α × Source}
    (hreading : ∀ s, (reading s).2 = s.readLines.2 ∨ (reading s).2 = s.readText.2) :
    Along R (Act.readInput app reading) := by
  intro w
  rw [run_readInput]
  split
  · exact hR.refl w
  · next s hs => exact hR.read w hs (hreading s)

theorem changeTo (hname : app = Application.cdName) (shown : Text) (path : Path) :
    Along R (Application.changeTo shown path) := by
  intro w
  rw [run_changeTo]
  split
  · exact hR.moved hname w _
  · exact hR.refl w
  · exact hR.refl w

/-- **What an application does to the world decides how it relates the worlds before and behind
it.** -/
theorem scheme : Scheme app (Along R) where
  pure _ := hR.refl
  throw _ := hR.refl
  bind := hR.bind
  get _ hnext w := hnext w w
  write := hR.write
  readLines := hR.readInput fun _ ↦ Or.inl rfl
  readText := hR.readInput fun _ ↦ Or.inr rfl
  changeTo := hR.changeTo

end Stepwise

end Act

open Act

/-! ### Applications -/

namespace Application

/-- Whatever its arguments are, the application has a property that may depend on its name. -/
def Has (C : Text → ∀ {α : Type}, Act α → Prop) (app : Application) : Prop :=
  ∀ arguments, C app.name (app.run arguments)

variable {C : Text → ∀ {α : Type}, Act α → Prop}

/-- Apart from its body an application shows its help, or complains about its arguments. -/
theorem has_ofUsage {name : Text} {usage : Usage} {index : List Text → Option Nat}
    {body : Given → Act Unit} (hC : Basis name (C name)) (hbody : ∀ given, C name (body given)) :
    (ofUsage name usage index body).Has C := by
  intro arguments
  dsimp only [ofUsage]
  split
  · exact hC.write _
  · exact hbody _
  · exact hC.failArgument _

theorem has_pwd (hC : Basis pwdName (C pwdName)) : pwd.Has C :=
  has_ofUsage hC fun _ ↦ hC.get (fun _ _ ↦ rfl) fun _ ↦ hC.writeLine _

theorem has_cd (hC : Basis cdName (C cdName)) : cd.Has C := by
  refine has_ofUsage hC fun given ↦ hC.get (fun _ _ ↦ rfl) fun w ↦ ?_
  dsimp only
  split
  · exact hC.changeTo rfl _ _
  · exact hC.changeTo rfl _ _
  · exact hC.failArgument _

theorem has_ls (hC : Basis lsName (C lsName)) : ls.Has C := by
  refine has_ofUsage hC fun given ↦ hC.get (fun _ _ ↦ rfl) fun w ↦ ?_
  dsimp only
  split
  · exact hC.throw rfl
  · split
    · exact hC.writeLine _
    · exact hC.pure _

theorem has_echo (hC : Basis echoName (C echoName)) : echo.Has C := fun _ ↦ hC.writeLine _

theorem basis_showFiles (hC : Basis catName (C catName)) (paths : List Text) :
    C catName (showFiles paths) := by
  induction paths with
  | nil => exact hC.pure _
  | cons path rest ih =>
    exact hC.bind (hC.fileLines path) fun _ ↦ hC.bind (hC.writeLines _) fun _ ↦ ih

theorem has_cat (hC : Scheme catName (C catName)) : cat.Has C := by
  refine has_ofUsage hC.toBasis fun given ↦ ?_
  split
  · exact hC.bind hC.readLines fun _ ↦ hC.writeLines _
  · exact basis_showFiles hC.toBasis _

theorem has_history (hC : Basis historyName (C historyName)) : history.Has C := by
  refine has_ofUsage hC fun given ↦ hC.get (fun _ _ ↦ rfl) fun w ↦ ?_
  dsimp only
  split
  · exact hC.failArgument _
  · exact hC.writeLines _
  · exact hC.writeLines _

theorem has_portion {name : Text} (hC : Scheme name (C name)) (usage : Usage)
    (pick : Nat → List Text → List Text) : (portion name usage pick).Has C := by
  refine has_ofUsage hC.toBasis fun given ↦ ?_
  dsimp only
  split
  · exact hC.failArgument_bind _ _
  · exact hC.bind (hC.linesOf _) fun _ ↦ hC.writeLines _

theorem basis_searchFiles (hC : Basis grepName (C grepName)) (r : Regex.Matcher) (context : Nat)
    (labelled : Bool) (paths : List Text) : C grepName (searchFiles r context labelled paths) := by
  induction paths with
  | nil => exact hC.pure _
  | cons path rest ih =>
    exact hC.bind (hC.fileLines path) fun _ ↦ hC.bind (hC.writeLines _) fun _ ↦ ih

theorem has_grep (hC : Scheme grepName (C grepName)) : grep.Has C := by
  refine has_ofUsage hC.toBasis fun given ↦ ?_
  dsimp only
  split
  · exact hC.throw rfl
  · split
    · exact hC.bind hC.readLines fun _ ↦ hC.writeLines _
    · exact basis_searchFiles hC.toBasis _ _ _ _

theorem has_sed (hC : Scheme sedName (C sedName)) : sed.Has C := by
  refine has_ofUsage hC.toBasis fun given ↦ ?_
  split
  · exact hC.failArgument _
  · split
    · exact hC.throw rfl
    · exact hC.bind (hC.linesOf _) fun _ ↦ hC.writeLines _

section Find

variable (hC : Basis findName (C findName))

include hC

mutual

theorem basis_searchNode (g : Glob) (path : Path) (shown : Text) (wanted : Bool) (node : Node) :
    C findName (searchNode g path shown wanted node) := by
  cases node with
  | file content =>
    rw [searchNode]
    split
    · exact hC.writeLine _
    · exact hC.pure _
  | link target =>
    rw [searchNode]
    exact hC.pure _
  | dir entries =>
    rw [searchNode]
    split
    · exact hC.throw rfl
    · exact basis_searchEntries g path shown entries

theorem basis_searchEntries (g : Glob) (path : Path) (shown : Text) (entries : Entries) :
    C findName (searchEntries g path shown entries) := by
  cases entries with
  | nil =>
    rw [searchEntries]
    exact hC.pure _
  | cons name node rest =>
    rw [searchEntries]
    exact hC.bind (basis_searchNode _ _ _ _ node) fun _ ↦ basis_searchEntries g path shown rest

end

theorem basis_searchRoot (root flag pattern : Text) :
    C findName (searchRoot root flag pattern) := by
  rw [searchRoot]
  split
  · exact hC.failArgument_bind _ _
  · refine hC.get (fun _ _ ↦ rfl) fun w ↦ ?_
    split
    · exact hC.throw rfl
    · split
      · exact hC.throw rfl
      · exact basis_searchEntries hC _ _ _ _

theorem has_find : find.Has C := by
  intro arguments
  match arguments with
  | [] => exact hC.failArgument _
  | [_] => exact hC.failArgument _
  | [flag, pattern] => exact basis_searchRoot hC _ flag pattern
  | [root, flag, pattern] => exact basis_searchRoot hC root flag pattern
  | _ :: _ :: _ :: _ :: _ => exact hC.failArgument _

end Find

theorem basis_countFiles (hC : Basis wcName (C wcName)) (paths : List Text) :
    C wcName (countFiles paths) := by
  induction paths with
  | nil => exact hC.pure _
  | cons path rest ih =>
    exact hC.bind (hC.openFile path) fun _ ↦ hC.bind (hC.ofReading _) fun _ ↦
      hC.bind ih fun _ ↦ hC.pure _

theorem has_wc (hC : Scheme wcName (C wcName)) : wc.Has C := by
  intro arguments
  simp only [wc]
  split
  · exact hC.bind (hC.map _ hC.readText) fun _ ↦ hC.writeLine _
  · exact hC.bind (basis_countFiles hC.toBasis _) fun _ ↦ hC.writeLine _

end Application

/-! ### The registry -/

namespace Registry

theorem mem_register {r : Registry} {app a : Application} (h : a ∈ (r.register app).applications) :
    a ∈ r.applications ∨ a = app := by
  rw [register, List.mem_append, List.mem_singleton] at h
  exact h.imp_left fun hmem ↦ (List.mem_filter.1 hmem).1

theorem mem_foldl_register {apps : List Application} {r : Registry} {a : Application}
    (h : a ∈ (apps.foldl register r).applications) : a ∈ r.applications ∨ a ∈ apps := by
  induction apps generalizing r with
  | nil => exact Or.inl h
  | cons app apps ih =>
    rcases ih h with hmem | hmem
    · exact (mem_register hmem).imp_right fun heq ↦ List.mem_cons.2 (Or.inl heq)
    · exact Or.inr (List.mem_cons_of_mem _ hmem)

/-- The registry of a list has no other applications. -/
theorem mem_of_mem_ofList {apps : List Application} {a : Application}
    (h : a ∈ (ofList apps).applications) : a ∈ apps :=
  (mem_foldl_register h).resolve_left List.not_mem_nil

open Application in
/-- **What applications are made of decides what the applications of the shell do.** -/
theorem standard_scheme {C : Text → ∀ {α : Type}, Act α → Prop} (hC : ∀ name, Scheme name (C name))
    (app : Application) (h : app ∈ standard.applications) : app.Has C := by
  have hmem := mem_of_mem_ofList h
  simp only [List.mem_cons, List.not_mem_nil, or_false] at hmem
  rcases hmem with rfl | rfl | rfl | rfl | rfl | rfl | rfl | rfl | rfl | rfl | rfl | rfl
  · exact has_pwd (hC _).toBasis
  · exact has_cd (hC _).toBasis
  · exact has_ls (hC _).toBasis
  · exact has_cat (hC _)
  · exact has_echo (hC _).toBasis
  · exact has_portion (hC _) _ _
  · exact has_portion (hC _) _ _
  · exact has_grep (hC _)
  · exact has_sed (hC _)
  · exact has_find (hC _).toBasis
  · exact has_history (hC _).toBasis
  · exact has_wc (hC _)

end Registry

end LineShell
