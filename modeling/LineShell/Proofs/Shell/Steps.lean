import LineShell.Shell.Evaluation

/-!
# Steps as functions

A step of evaluation is a function from machines to a result and a machine. This module says what
each way of building a step does as such a function, so that later proofs never look inside the
monad: `runOn` is the function, and there is one equation per construction.
-/

namespace LineShell

/-- The machine with another world. -/
def Machine.withWorld (m : Machine) (w : World) : Machine := { m with world := w }

/-- The machine with another input. -/
def Machine.withInput (m : Machine) (input : Option Source) : Machine :=
  m.withWorld { m.world with input }

/-- The machine with another output. -/
def Machine.withOutput (m : Machine) (output : Output) : Machine :=
  m.withWorld { m.world with output }

/-- The machine with an event in its log. -/
def Machine.noted (m : Machine) (e : Event) : Machine := { m with log := ⟨m.depth, e⟩ :: m.log }

/-- The machine at another depth. -/
def Machine.atDepth (m : Machine) (depth : Nat) : Machine := { m with depth }

/-- The machine inside one more command in back-quotes. -/
def Machine.entered (m : Machine) (command : Text) : Machine :=
  (m.atDepth (m.depth + 1)).noted (.substitution command)

/-- The machine outside the innermost command. -/
def Machine.left (m : Machine) : Machine := m.atDepth (m.depth - 1)

namespace Eval

variable {α β : Type}

/-- What a step makes of a machine: the result and the machine that it leaves. -/
def runOn (x : Eval α) (m : Machine) : Except ShellError α × Machine := x.run.run m

variable {x : Eval α} {m : Machine}

@[simp]
theorem runOn_pure (a : α) (m : Machine) : runOn (pure a) m = (.ok a, m) := rfl

@[simp]
theorem runOn_throw (e : ShellError) (m : Machine) : runOn (throw e : Eval α) m = (.error e, m) :=
  rfl

/-- The second step runs in the machine of the first, if that succeeds. -/
theorem runOn_bind (x : Eval α) (f : α → Eval β) (m : Machine) :
    runOn (x >>= f) m =
      match runOn x m with
      | (.ok a, m') => runOn (f a) m'
      | (.error e, m') => (.error e, m') := by
  simp only [runOn, ExceptT.run_bind, StateT.run_bind]
  rcases x.run.run m with ⟨e | a, m'⟩ <;> rfl

theorem runOn_bind_of_ok {f : α → Eval β} {a : α} {m' : Machine} (h : runOn x m = (.ok a, m')) :
    runOn (x >>= f) m = runOn (f a) m' := by
  rw [runOn_bind, h]

theorem runOn_bind_of_error {f : α → Eval β} {e : ShellError} {m' : Machine}
    (h : runOn x m = (.error e, m')) : runOn (x >>= f) m = (.error e, m') := by
  rw [runOn_bind, h]

@[simp]
theorem runOn_map (f : α → β) (x : Eval α) (m : Machine) :
    runOn (f <$> x) m = ((runOn x m).1.map f, (runOn x m).2) := by
  rw [map_eq_pure_bind, runOn_bind]
  rcases runOn x m with ⟨e | a, m'⟩ <;> rfl

/-- Two steps that do the same to every machine are the same. -/
theorem ext_runOn {x y : Eval α} (h : ∀ m, runOn x m = runOn y m) : x = y := funext h

@[simp]
theorem runOn_get (m : Machine) : runOn get m = (.ok m, m) := rfl

@[simp]
theorem runOn_set (m' m : Machine) : runOn (set m') m = (.ok (), m') := rfl

@[simp]
theorem runOn_modify (f : Machine → Machine) (m : Machine) :
    runOn (modify f) m = (.ok (), f m) := rfl

@[simp]
theorem runOn_note (e : Event) (m : Machine) : runOn (note e) m = (.ok (), m.noted e) := rfl

@[simp]
theorem runOn_ofResult (result : Except ShellError α) (m : Machine) :
    runOn (ofResult result) m = (result, m) := rfl

theorem ofResult_ok_bind (a : α) (f : α → Eval β) : (ofResult (.ok a) >>= f) = f a :=
  ext_runOn fun _ ↦ rfl

theorem ofResult_error_bind (e : ShellError) (f : α → Eval β) :
    (ofResult (.error e) >>= f) = throw e :=
  ext_runOn fun _ ↦ rfl

@[simp]
theorem runOn_attempt (x : Eval α) (m : Machine) :
    runOn (attempt x) m = (.ok (runOn x m).1, (runOn x m).2) := rfl

/-- An application changes the world and nothing else. -/
@[simp]
theorem runOn_ofAct (act : Act α) (m : Machine) :
    runOn (ofAct act) m = ((act.run.run m.world).1, m.withWorld (act.run.run m.world).2) := rfl

/-- The input of a fed step is put back behind it. -/
@[simp]
theorem runOn_fedBy (source : Option Source) (x : Eval α) (m : Machine) :
    runOn (fedBy source x) m =
      ((runOn x (m.withInput source)).1,
        (runOn x (m.withInput source)).2.withInput m.world.input) := rfl

/-- The output of a step that writes elsewhere is put back behind it. -/
@[simp]
theorem runOn_writingTo (output : Output) (x : Eval Unit) (m : Machine) :
    runOn (writingTo output x) m =
      (.ok ((runOn x (m.withOutput output)).1, (runOn x (m.withOutput output)).2.world.output),
        (runOn x (m.withOutput output)).2.withOutput m.world.output) := rfl

/-- A step into a buffer succeeds with what it wrote. -/
theorem runOn_intoBuffer (x : Eval Unit) (m : Machine) :
    runOn (intoBuffer x) m =
      (((runOn x (m.withOutput (.sink .fresh))).1).map fun _ ↦
          written (runOn x (m.withOutput (.sink .fresh))).2.world.output,
        (runOn x (m.withOutput (.sink .fresh))).2.withOutput m.world.output) := by
  rw [intoBuffer, runOn_bind, runOn_writingTo]
  rcases runOn x (m.withOutput (.sink .fresh)) with ⟨e | ⟨⟩, m'⟩ <;> simp [Except.map]

/-- What the left side of a pipe wrote feeds the right side. -/
theorem runOn_pipe_of_ok {left right : Eval Unit} {m m' : Machine}
    (h : runOn left (m.withOutput (.sink .fresh)) = (.ok (), m')) :
    runOn (do
        let bytes ← intoBuffer left
        fedBy (some (.bytes bytes)) right) m =
      runOn (fedBy (some (.bytes (written m'.world.output))) right)
        (m'.withOutput m.world.output) := by
  refine runOn_bind_of_ok ?_
  rw [runOn_intoBuffer, h]
  rfl

/-- Behind a left side that fails, the right side is not evaluated. -/
theorem runOn_pipe_of_error {left right : Eval Unit} {m m' : Machine} {e : ShellError}
    (h : runOn left (m.withOutput (.sink .fresh)) = (.error e, m')) :
    runOn (do
        let bytes ← intoBuffer left
        fedBy (some (.bytes bytes)) right) m =
      (.error e, m'.withOutput m.world.output) := by
  refine runOn_bind_of_error ?_
  rw [runOn_intoBuffer, h]
  rfl

/-- A report leaves a note and writes a line to the error channel, if that accepts it. -/
theorem runOn_report (app : Text) (e : ShellError) (m : Machine) :
    runOn (report app e) m =
      match m.errors.write (e.message ++ [Text.newline]).encode with
      | .ok errors => (.ok (), { m.noted (.failure e) with errors })
      | .error f => (.error (.stream app f), m.noted (.failure e)) := by
  rw [report, runOn_bind_of_ok (runOn_note _ m), runOn_bind_of_ok (runOn_get _)]
  rw [show (m.noted (.failure e)).errors = m.errors from rfl]
  cases m.errors.write (e.message ++ [Text.newline]).encode <;> rfl

/-- The file of `<` is looked for. -/
theorem runOn_openInput (target : Text) (m : Machine) :
    runOn (openInput target) m =
      (match m.world.files.find (m.world.env.resolve target) with
        | .ok loc => .ok loc
        | .error e => .error (.path redirectionName (.os target e)), m) := by
  rw [openInput, runOn_bind_of_ok (runOn_get m)]
  dsimp only
  cases m.world.files.find (m.world.env.resolve target) <;> rfl

/-- The file of `>` is made or emptied, or nothing is done. -/
theorem runOn_openOutput (target : Text) (m : Machine) :
    runOn (openOutput target) m =
      match m.world.files.create (m.world.env.resolve target) with
      | .ok (files, loc) => (.ok loc, m.withWorld { m.world with files })
      | .error e => (.error (.path redirectionName (.os target e)), m) := by
  rw [openOutput, runOn_bind_of_ok (runOn_get m)]
  cases m.world.files.create (m.world.env.resolve target) <;> rfl

/-- What a captured command gives: what it wrote, without its line end. -/
def capturedText (output : Output) : Text := withoutLineEnd (Utf8.decodeLossy (written output))

/-- A captured command that succeeds gives what it wrote. -/
theorem runOn_captured_of_ok {x : Eval Unit} {m m' : Machine}
    (h : runOn (fedBy none x) (m.withOutput (.sink .fresh)) = (.ok (), m')) :
    runOn (captured x) m = (.ok (capturedText m'.world.output), m'.withOutput m.world.output) := by
  rw [captured, runOn_bind_of_ok (runOn_writingTo _ _ m), h]
  rfl

/-- A captured command that fails gives what it wrote too, once its error is reported. -/
theorem runOn_captured_of_error {x : Eval Unit} {m m' : Machine} {e : ShellError}
    (h : runOn (fedBy none x) (m.withOutput (.sink .fresh)) = (.error e, m')) :
    runOn (captured x) m =
      runOn (report "substitution".toList e >>= fun _ ↦ pure (capturedText m'.world.output))
        (m'.withOutput m.world.output) := by
  rw [captured, runOn_bind_of_ok (runOn_writingTo _ _ m), h]
  rfl

/-- Below the limit a command is evaluated one level deeper; at the limit it is refused. -/
theorem runOn_nested (limit : Nat) (line : Text → Eval Unit) (command : Text) (m : Machine) :
    runOn (nested limit line command) m =
      if limit ≤ m.depth then (.error (.depth limit), m)
      else
        ((runOn (line command) (m.entered command)).1,
          (runOn (line command) (m.entered command)).2.left) := by
  rw [nested, runOn_bind_of_ok (runOn_get m)]
  by_cases h : limit ≤ m.depth
  · rw [if_pos h, if_pos h]
    rfl
  · rw [if_neg h, if_neg h]
    rfl

end Eval

end LineShell
