import LineShell.Proofs.Application.Windows
import LineShell.Proofs.Files.Appending
import LineShell.Proofs.Text.Decoding

/-!
# What files hold

An application that reads a file gets its text or an error (`World.textOf`), and the world stays as
it is. What an application writes goes behind what was written before (`World.writing`). If the
output is not the file, writing does not change what the file is read as, since every path leads
where it led (`World.textOf_writing`).
-/

namespace LineShell

namespace World

variable {w : World} {app path : Text} {texts : List Text}

/-! ### Reading files -/

/-- The text of the file that a path leads to, or the error of an application that reads it. -/
def textOf (w : World) (app path : Text) : Except ShellError Text :=
  match w.files.read (w.env.resolve path) with
  | .ok (.file content) =>
    match Utf8.decode? content with
    | some t => .ok t
    | none => .error (.stream app .notUtf8)
  | .ok _ => .error (.path app (.isDirectory path))
  | .error e => .error (.path app (.os path e))

/-- A path leads to the text of a file if it leads to a file with the bytes of the text. -/
theorem textOf_eq_ok_iff {t : Text} :
    w.textOf app path = .ok t ↔ w.files.read (w.env.resolve path) = .ok (.file t.encode) := by
  rw [textOf]
  cases w.files.read (w.env.resolve path) with
  | error e => simp
  | ok node =>
    cases node with
    | file content =>
      dsimp only
      cases hdecode : Utf8.decode? content with
      | none =>
        refine iff_of_false (fun h ↦ by cases h) fun hfile ↦ ?_
        obtain rfl : content = t.encode := Node.file.inj (Except.ok.inj hfile)
        rw [Utf8.decode?_encode] at hdecode
        cases hdecode
      | some t' =>
        obtain rfl : t'.encode = content := Utf8.decode?_eq_some_iff.1 hdecode
        simp [Text.encode_inj]
    | link target => simp
    | dir es => simp

/-! ### Writing -/

/-- The world in which texts have been written to the output. -/
def writing (w : World) (texts : List Text) : World :=
  match w.output with
  | .sink s => w.withSink (s.append (Text.encode texts.flatten))
  | .file loc => { w with files := w.files.appendAll loc texts }

/-- Whether the output refuses what is written to it. -/
def refuses (w : World) : Bool :=
  match w.output with
  | .sink s => s.refuses
  | .file _ => false

@[simp]
theorem writing_nil (w : World) : w.writing [] = w := by
  obtain ⟨env, files, input, output⟩ := w
  cases output with
  | sink s =>
    show World.mk env files input (.sink (s.append [])) = _
    rw [Sink.append_nil]
  | file loc => rfl

@[simp]
theorem writing_writing (w : World) (texts more : List Text) :
    (w.writing texts).writing more = w.writing (texts ++ more) := by
  obtain ⟨env, files, input, output⟩ := w
  cases output with
  | sink s =>
    show World.mk env files input (.sink ((s.append _).append _)) =
      World.mk env files input (.sink (s.append _))
    rw [Sink.append_append, ← Text.encode_append, List.flatten_append]
  | file loc =>
    show World.mk env ((files.appendAll loc texts).appendAll loc more) input (.file loc) =
      World.mk env (files.appendAll loc (texts ++ more)) input (.file loc)
    rw [Files.appendAll_append]

@[simp]
theorem refuses_writing (w : World) (texts : List Text) :
    (w.writing texts).refuses = w.refuses := by
  obtain ⟨env, files, input, output⟩ := w
  cases output <;> rfl

/-- A text, if the output accepts it. -/
def accepted (w : World) (app t : Text) : Except ShellError Text :=
  if w.refuses && !t.isEmpty then .error (.stream app .writeRefused) else .ok t

@[simp]
theorem accepted_writing (w : World) (texts : List Text) (app t : Text) :
    (w.writing texts).accepted app t = w.accepted app t := by
  rw [accepted, refuses_writing, accepted]

/-- What a run comes to that writes a text at its end, or fails before it writes anything. -/
def ending (w : World) : Except ShellError Text → Except ShellError Unit × World
  | .ok t => (.ok (), w.writing [t])
  | .error e => (.error e, w)

/-- The output is not the file that a path leads to. -/
def Apart (w : World) (path : Text) : Prop :=
  ∀ loc, w.output = .file loc → w.files.find (w.env.resolve path) ≠ .ok loc

/-- What is written elsewhere does not change what a file is read as. -/
theorem textOf_writing (h : w.Apart path) (texts : List Text) (app : Text) :
    (w.writing texts).textOf app path = w.textOf app path := by
  obtain ⟨env, files, input, output⟩ := w
  cases output with
  | sink s => rfl
  | file loc =>
    have hfind : files.find (env.resolve path) ≠ .ok loc := h loc rfl
    have hchanged := Files.changedAt_appendAll files loc texts
    have hkept := Files.keepsShape_appendAll files loc texts
    show textOf ⟨env, files.appendAll loc texts, input, .file loc⟩ app path = _
    rw [textOf, textOf, Files.read, Files.read, Files.find_appendAll]
    dsimp only
    cases hplace : files.find (env.resolve path) with
    | error e => rfl
    | ok loc' =>
      have hne : loc' ≠ loc := fun heq ↦ hfind (heq ▸ hplace)
      dsimp only
      cases hentry : files.root.at? loc' with
      | none => rw [hkept.none hentry]
      | some node =>
        cases node with
        | file content =>
          obtain ⟨content', hfile, hsame⟩ := hchanged.file hentry
          rw [hfile, hsame fun hmem ↦ hne (List.mem_singleton.1 hmem)]
        | link target => rw [hkept.link hentry]
        | dir es =>
          -- Its entries may be others, but a directory is the same error.
          obtain ⟨es', hdir⟩ := hkept.dir hentry
          rw [hdir]
          rfl

theorem apart_writing (h : w.Apart path) (texts : List Text) : (w.writing texts).Apart path := by
  obtain ⟨env, files, input, output⟩ := w
  cases output with
  | sink s =>
    intro loc houtput
    cases houtput
  | file loc =>
    intro loc' houtput
    show (files.appendAll loc texts).find (env.resolve path) ≠ .ok loc'
    rw [Files.find_appendAll]
    exact h loc' houtput

end World

/-! ### Actions that read files and write -/

namespace Act

/-- Behind an action that fails nothing is done. -/
theorem run_bind_of_error {α β : Type} {act : Act α} {next : α → Act β} {e : ShellError}
    {w w' : World} (h : act.run.run w = (.error e, w')) :
    (act >>= next).run.run w = (.error e, w') := by
  simp only [ExceptT.run_bind, StateT.run_bind, h]
  rfl

/-- Reading a file gives what is made of its text. -/
theorem run_reading {α : Type} (reading : Source → Except StreamFault α × Source) (made : Text → α)
    (hreading : ∀ content, (reading (.bytes content)).1 =
      ((Utf8.decode? content).map made).elim (.error .notUtf8) .ok)
    (w : World) (app path : Text) :
    (openFile app path >>= fun s ↦ ofReading app (reading s).1).run.run w =
      ((w.textOf app path).map made, w) := by
  rw [openFile, World.textOf, bind_assoc, run_get_bind]
  cases w.files.read (w.env.resolve path) with
  | error e => rfl
  | ok node =>
    cases node with
    | file content =>
      show (ofReading app (reading (.bytes content)).1).run.run w = _
      rw [hreading]
      cases hdecode : Utf8.decode? content <;> simp only [hdecode] <;> rfl
    | link target => rfl
    | dir es => rfl

theorem run_fileLines_eq (w : World) (app path : Text) :
    (fileLines app path).run.run w = ((w.textOf app path).map Text.lines, w) := by
  refine run_reading Source.readLines Text.lines (fun content ↦ ?_) w app path
  rw [Source.readLines]
  cases Utf8.decode? content <;> rfl

/-- A file is read as one text. -/
theorem run_fileText (w : World) (app path : Text) :
    (openFile app path >>= fun s ↦ ofReading app s.readText.1).run.run w =
      (w.textOf app path, w) := by
  have hrun := run_reading Source.readText id (fun content ↦ ?_) w app path
  · rw [hrun]
    cases w.textOf app path <;> rfl
  · rw [Source.readText]
    cases Utf8.decode? content <;> rfl

/-- A text is written whole or not at all. -/
theorem run_write_eq (w : World) (app t : Text) :
    (write app t).run.run w = w.ending (w.accepted app t) := by
  rw [run_write, World.accepted]
  obtain ⟨env, files, input, output⟩ := w
  cases output with
  | file loc => rfl
  | sink s =>
    have hwrite : s.write t.encode =
        if s.refuses && !t.encode.isEmpty then .error .writeRefused else .ok (s.append t.encode) :=
      rfl
    have hempty : t.encode.isEmpty = t.isEmpty := by
      rw [Bool.eq_iff_iff, List.isEmpty_iff, List.isEmpty_iff, Text.encode_eq_nil_iff]
    have hwriting : World.writing ⟨env, files, input, .sink s⟩ [t] =
        ⟨env, files, input, .sink (s.append t.encode)⟩ := by
      rw [World.writing, List.flatten_singleton]
      rfl
    dsimp only
    rw [hwrite, hempty]
    show _ = World.ending _ (if s.refuses && !t.isEmpty then _ else _)
    cases s.refuses && !t.isEmpty
    · exact congrArg _ hwriting.symm
    · rfl

end Act

end LineShell
