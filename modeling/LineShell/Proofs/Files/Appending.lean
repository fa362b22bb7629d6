import LineShell.Proofs.Files.Follow

/-!
# Appending and reading

What is appended to a file changes neither which entries there are nor of what kind they are, so
every path leads where it led (`Files.KeepsShape.find_eq`). Only a path that leads to the file
itself is read differently.
-/

namespace LineShell.Files

variable {files files' files'' : Files} {loc : Location} {locs : List Location} {purpose : Purpose}

/-- Where there was an entry there is one of the same kind, a link with the same target, and nowhere
else is there one. -/
structure KeepsShape (files files' : Files) : Prop where
  none : ∀ {loc}, files.root.at? loc = none → files'.root.at? loc = none
  file : ∀ {loc content}, files.root.at? loc = some (.file content) →
    ∃ content', files'.root.at? loc = some (.file content')
  link : ∀ {loc target}, files.root.at? loc = some (.link target) →
    files'.root.at? loc = some (.link target)
  dir : ∀ {loc es}, files.root.at? loc = some (.dir es) →
    ∃ es', files'.root.at? loc = some (.dir es')

namespace KeepsShape

protected theorem refl (files : Files) : files.KeepsShape files where
  none h := h
  file h := ⟨_, h⟩
  link h := h
  dir h := ⟨_, h⟩

protected theorem trans (h : files.KeepsShape files') (h' : files'.KeepsShape files'') :
    files.KeepsShape files'' where
  none hloc := h'.none (h.none hloc)
  file hloc := by
    obtain ⟨content', hloc'⟩ := h.file hloc
    exact h'.file hloc'
  link hloc := h'.link (h.link hloc)
  dir hloc := by
    obtain ⟨es', hloc'⟩ := h.dir hloc
    exact h'.dir hloc'

/-- Changes of files that make none keep the shape. -/
theorem of_changedAt (h : ChangedAt locs files files')
    (hold : ∀ loc ∈ locs, files.root.at? loc ≠ .none) : files.KeepsShape files' where
  none {loc} hnone := by
    cases hnew : files'.root.at? loc with
    | none => rfl
    | some node => exact absurd hnone (hold loc (h.fresh hnone hnew).1)
  file hfile := by
    obtain ⟨content', hfile', -⟩ := h.file hfile
    exact ⟨content', hfile'⟩
  link := h.link
  dir := h.dir

/-! ### Following -/

variable {jump jump' : Location → List Name → Except OsError Place}

/-- Following goes on alike, if it does so behind every link. -/
theorem followWith_eq (h : files.KeepsShape files')
    (hjump : ∀ loc comps, jump' loc comps = jump loc comps) (loc : Location) (comps : List Name) :
    followWith jump' files' purpose loc comps = followWith jump files purpose loc comps := by
  induction comps generalizing loc with
  | nil => rfl
  | cons name rest ih =>
    rw [followWith, followWith]
    cases hloc : files.root.at? loc with
    | none => rw [h.none hloc]
    | some node =>
      cases node with
      | file content =>
        obtain ⟨content', hfile'⟩ := h.file hloc
        rw [hfile']
      | link target => rw [h.link hloc]
      | dir es =>
        obtain ⟨es', hdir'⟩ := h.dir hloc
        rw [hdir']
        dsimp only
        -- What is left to compare is the entry of the name, which is the one at its location.
        rw [ih, ih]
        congr 4
        rw [← Node.at?_concat_of_dir hloc name, ← Node.at?_concat_of_dir hdir' name]
        cases hentry : files.root.at? (loc ++ [name]) with
        | none => rw [h.none hentry]
        | some node =>
          cases node with
          | file content =>
            obtain ⟨content', hfile'⟩ := h.file hentry
            rw [hfile']
            exact ih _
          | link target =>
            rw [h.link hentry]
            exact hjump _ _
          | dir es =>
            obtain ⟨es', hdir'⟩ := h.dir hentry
            rw [hdir']
            exact ih _

theorem follow_eq (h : files.KeepsShape files') (links : Nat) (loc : Location) (comps : List Name) :
    follow files' purpose links loc comps = follow files purpose links loc comps := by
  induction links generalizing loc comps with
  | zero => exact h.followWith_eq (fun _ _ ↦ rfl) loc comps
  | succ links ih => exact h.followWith_eq ih loc comps

theorem locate_eq (h : files.KeepsShape files') (p : Path) :
    files'.locate purpose p = files.locate purpose p := by
  rw [locate, locate, h.follow_eq]

/-- **Every path leads where it led.** -/
theorem find_eq (h : files.KeepsShape files') (p : Path) : files'.find p = files.find p := by
  rw [find, find, h.locate_eq]

end KeepsShape

/-! ### Appending -/

theorem keepsShape_append (files : Files) (loc : Location) (chunk : Bytes) :
    files.KeepsShape (files.append loc chunk) := by
  cases h : files.root.at? loc with
  | none =>
    rw [append, h]
    exact .refl files
  | some node =>
    refine .of_changedAt (changedAt_append files loc chunk) (List.forall_mem_singleton.2 ?_)
    rw [h]
    exact Option.some_ne_none node

theorem keepsShape_appendAll (files : Files) (loc : Location) (texts : List Text) :
    files.KeepsShape (files.appendAll loc texts) := by
  induction texts generalizing files with
  | nil => exact .refl files
  | cons t rest ih =>
    exact (keepsShape_append files loc t.encode).trans (ih (files.append loc t.encode))

/-- **Every path leads where it led**, also one that leads to the file. -/
theorem find_appendAll (files : Files) (loc : Location) (texts : List Text) (p : Path) :
    (files.appendAll loc texts).find p = files.find p :=
  (keepsShape_appendAll files loc texts).find_eq p

end LineShell.Files
