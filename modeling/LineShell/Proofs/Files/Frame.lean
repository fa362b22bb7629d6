import LineShell.Files.Access

/-!
# Writing a file leaves the rest alone

Writing an entry changes the tree at one location. When there was no directory before and none is
written, every other location holds an entry of the same kind as before: a file with the same bytes,
a link with the same target, a directory, whose names may have changed, or nothing
(`Node.at?_put_of_ne`).

`Files.ChangedAt` says so of whole file systems: from one to the other only files change, and only
at the listed locations. It composes along a run of changes, the locations adding up.
-/

namespace LineShell

/-! ### Locations -/

namespace Node

variable {n new : Node} {loc loc' : Location} {name : Name} {es : Entries}

/-- A location is followed in two parts. -/
theorem at?_append (loc loc' : Location) (n : Node) :
    at? (loc ++ loc') n = (at? loc n).bind (at? loc') := by
  induction loc generalizing n with
  | nil => rfl
  | cons name rest ih =>
    cases n with
    | file content => rfl
    | link target => rfl
    | dir es =>
      show (es.find? name).bind (at? (rest ++ loc')) = ((es.find? name).bind (at? rest)).bind _
      cases es.find? name with
      | none => rfl
      | some child => exact ih child

theorem at?_cons_dir (name : Name) (loc : Location) (es : Entries) :
    at? (name :: loc) (.dir es) = (es.find? name).bind (at? loc) := rfl

theorem at?_singleton_dir (name : Name) (es : Entries) : at? [name] (.dir es) = es.find? name := by
  rw [at?_cons_dir]
  cases es.find? name <;> rfl

theorem at?_concat_of_dir (h : at? loc n = some (.dir es)) (name : Name) :
    at? (loc ++ [name]) n = es.find? name := by
  rw [at?_append, h, Option.bind_some, at?_singleton_dir]

/-- The parent of an entry is an entry. -/
theorem isSome_at?_of_append (h : (at? (loc ++ loc') n).isSome) : (at? loc n).isSome := by
  rw [at?_append] at h
  exact Option.isSome_of_isSome_bind h

/-- Only a directory has something below it. -/
theorem exists_dir_of_at?_concat (h : (at? (loc ++ [name]) n).isSome) :
    ∃ es, at? loc n = some (.dir es) ∧ es.find? name = at? (loc ++ [name]) n := by
  rw [at?_append] at h
  cases hloc : at? loc n with
  | none =>
    rw [hloc] at h
    cases h
  | some node =>
    rw [hloc] at h
    cases node with
    | file content => cases h
    | link target => cases h
    | dir es => exact ⟨es, rfl, (at?_concat_of_dir hloc name).symm⟩

/-! ### Writing an entry -/

theorem put_cons_of_find? {child : Node} (h : es.find? name = some child) (rest : Location) :
    put new (name :: rest) (.dir es) = .dir (es.insert name (put new rest child)) := by
  simp only [put, h]

theorem put_singleton_of_find? (h : es.find? name = none) :
    put new [name] (.dir es) = .dir (es.insert name new) := by
  simp only [put, h]

theorem put_cons_cons_of_find? (h : es.find? name = none) (name' : Name) (rest : Location) :
    put new (name :: name' :: rest) (.dir es) = .dir es := by
  simp only [put, h]

/-- Entries that writing elsewhere cannot tell apart: of a directory only the names may differ. -/
inductive Alike : Node → Node → Prop where
  | file (content : Bytes) : Alike (.file content) (.file content)
  | link (target : Path) : Alike (.link target) (.link target)
  | dir (es es' : Entries) : Alike (.dir es) (.dir es')

theorem Alike.refl (n : Node) : Alike n n := by
  cases n with
  | file content => exact .file content
  | link target => exact .link target
  | dir es => exact .dir es es

theorem rel_alike_refl (o : Option Node) : Option.Rel Alike o o := by
  cases o with
  | none => exact .none
  | some n => exact .some (.refl n)

theorem eq_of_rel_file {content : Bytes} {o : Option Node}
    (h : Option.Rel Alike (some (.file content)) o) : o = some (.file content) := by
  cases h with
  | some h =>
    cases h
    rfl

theorem eq_of_rel_link {target : Path} {o : Option Node}
    (h : Option.Rel Alike (some (.link target)) o) : o = some (.link target) := by
  cases h with
  | some h =>
    cases h
    rfl

theorem exists_of_rel_dir {o : Option Node} (h : Option.Rel Alike (some (.dir es)) o) :
    ∃ es', o = some (.dir es') := by
  cases h with
  | some h =>
    cases h
    exact ⟨_, rfl⟩

/-- Below what is no directory there is nothing. -/
theorem at?_cons_of_not_dir (h : ∀ es, n ≠ .dir es) (name : Name) (loc : Location) :
    at? (name :: loc) n = none := by
  cases n with
  | file content => rfl
  | link target => rfl
  | dir es => exact absurd rfl (h es)

/-- A directory stays one when an entry is put into it, and of its entries only that one changes. -/
theorem rel_alike_insert {node : Node}
    (hsame : ∀ rest, loc = name :: rest →
      Option.Rel Alike ((es.find? name).bind (at? rest)) (at? rest node)) :
    Option.Rel Alike (at? loc (.dir es)) (at? loc (.dir (es.insert name node))) := by
  cases loc with
  | nil => exact .some (.dir _ _)
  | cons name' rest =>
    rw [at?_cons_dir, at?_cons_dir]
    by_cases hname : name' = name
    · subst hname
      rw [Entries.find?_insert_self]
      exact hsame rest rfl
    · rw [Entries.find?_insert_of_ne node es hname]
      exact rel_alike_refl _

/-- **Writing an entry leaves every other location alone**, if no directory is written, nor one
written over. -/
theorem at?_put_of_ne (hne : loc' ≠ loc) (hold : ∀ es, at? loc n ≠ some (.dir es))
    (hnew : ∀ es, new ≠ .dir es) : Option.Rel Alike (at? loc' n) (at? loc' (put new loc n)) := by
  induction loc generalizing n loc' with
  | nil =>
    obtain ⟨name, rest, rfl⟩ := List.exists_cons_of_ne_nil hne
    rw [at?_cons_of_not_dir fun es h ↦ hold es (congrArg some h), put, at?_cons_of_not_dir hnew]
    exact .none
  | cons name rest ih =>
    cases n with
    | file content => exact rel_alike_refl _
    | link target => exact rel_alike_refl _
    | dir es =>
      cases hfind : es.find? name with
      | some child =>
        rw [put_cons_of_find? hfind]
        refine rel_alike_insert fun rest' hrest' ↦ ?_
        rw [hfind]
        refine ih (fun h ↦ hne (hrest'.trans (congrArg _ h))) fun es' h ↦ hold es' ?_
        rw [at?_cons_dir, hfind]
        exact h
      | none =>
        cases rest with
        | nil =>
          rw [put_singleton_of_find? hfind]
          -- The new entry is no directory, so below it there is nothing, as there was before.
          refine rel_alike_insert fun rest' hrest' ↦ ?_
          have hrest : rest' ≠ [] := fun h ↦ hne (hrest'.trans (congrArg _ h))
          obtain ⟨name', rest'', rfl⟩ := List.exists_cons_of_ne_nil hrest
          rw [hfind, at?_cons_of_not_dir hnew]
          exact .none
        | cons name' rest' =>
          rw [put_cons_cons_of_find? hfind]
          exact rel_alike_refl _

/-- What is written in the place of an entry is there. -/
theorem at?_put_of_isSome (h : (at? loc n).isSome) : at? loc (put new loc n) = some new := by
  induction loc generalizing n with
  | nil => rfl
  | cons name rest ih =>
    cases n with
    | file content => cases h
    | link target => cases h
    | dir es =>
      rw [at?_cons_dir] at h
      cases hfind : es.find? name with
      | none =>
        rw [hfind] at h
        cases h
      | some child =>
        rw [hfind] at h
        rw [put_cons_of_find? hfind, at?_cons_dir, Entries.find?_insert_self]
        exact ih h

/-- What is written as a new entry of a directory is there. -/
theorem at?_put_concat (h : at? loc n = some (.dir es)) (name : Name) :
    at? (loc ++ [name]) (put new (loc ++ [name]) n) = some new := by
  induction loc generalizing n with
  | nil =>
    obtain rfl : n = .dir es := Option.some.inj h
    cases hfind : es.find? name with
    | none =>
      rw [List.nil_append, put_singleton_of_find? hfind, at?_singleton_dir,
        Entries.find?_insert_self]
    | some child =>
      rw [List.nil_append, put_cons_of_find? hfind, at?_singleton_dir, Entries.find?_insert_self]
      rfl
  | cons name' rest ih =>
    cases n with
    | file content => cases h
    | link target => cases h
    | dir es' =>
      rw [at?_cons_dir] at h
      obtain ⟨child, hfind, hchild⟩ := Option.bind_eq_some_iff.1 h
      rw [List.cons_append, put_cons_of_find? hfind, at?_cons_dir, Entries.find?_insert_self]
      exact ih hchild

end Node

/-! ### File systems that differ in files only -/

namespace Files

/-- From one file system to the other only files change, and only at the listed locations; what is
new is a file at one of them. -/
structure ChangedAt (locs : List Location) (files files' : Files) : Prop where
  /-- A file stays one, and elsewhere it keeps its bytes. -/
  file : ∀ {loc content}, files.root.at? loc = some (.file content) →
    ∃ content', files'.root.at? loc = some (.file content') ∧ (loc ∉ locs → content' = content)
  link : ∀ {loc target}, files.root.at? loc = some (.link target) →
    files'.root.at? loc = some (.link target)
  dir : ∀ {loc es}, files.root.at? loc = some (.dir es) →
    ∃ es', files'.root.at? loc = some (.dir es')
  fresh : ∀ {loc node}, files.root.at? loc = none → files'.root.at? loc = some node →
    loc ∈ locs ∧ ∃ content, node = .file content

variable {files files' files'' : Files} {loc : Location} {locs locs' : List Location}

namespace ChangedAt

protected theorem refl (files : Files) : ChangedAt [] files files where
  file h := ⟨_, h, fun _ ↦ rfl⟩
  link h := h
  dir h := ⟨_, h⟩
  fresh h h' := nomatch h.symm.trans h'

protected theorem trans (h : ChangedAt locs files files') (h' : ChangedAt locs' files' files'') :
    ChangedAt (locs ++ locs') files files'' where
  file hloc := by
    obtain ⟨content', hloc', hsame⟩ := h.file hloc
    obtain ⟨content'', hloc'', hsame'⟩ := h'.file hloc'
    refine ⟨content'', hloc'', fun hmem ↦ ?_⟩
    obtain ⟨hleft, hright⟩ := not_or.1 fun hor ↦ hmem (List.mem_append.2 hor)
    exact (hsame' hright).trans (hsame hleft)
  link hloc := h'.link (h.link hloc)
  dir hloc := by
    obtain ⟨es', hloc'⟩ := h.dir hloc
    exact h'.dir hloc'
  fresh {loc node} hloc hloc'' := by
    cases hmid : files'.root.at? loc with
    | none =>
      obtain ⟨hmem, hfile⟩ := h'.fresh hmid hloc''
      exact ⟨List.mem_append_right _ hmem, hfile⟩
    | some node' =>
      -- What was made first is a file, and stays one.
      obtain ⟨hmem, content, rfl⟩ := h.fresh hloc hmid
      obtain ⟨content', hfile, -⟩ := h'.file hmid
      exact ⟨List.mem_append_left _ hmem, content', Option.some.inj (hloc''.symm.trans hfile)⟩

theorem mono (h : ChangedAt locs files files') (hsub : locs ⊆ locs') :
    ChangedAt locs' files files' where
  file hloc := by
    obtain ⟨content', hloc', hsame⟩ := h.file hloc
    exact ⟨content', hloc', fun hmem ↦ hsame fun hmem' ↦ hmem (hsub hmem')⟩
  link := h.link
  dir := h.dir
  fresh hloc hloc' := (h.fresh hloc hloc').imp_left fun hmem ↦ hsub hmem

/-- A file that is at none of the locations was there before, with the same bytes. -/
theorem file_of_not_mem (h : ChangedAt locs files files') {content : Bytes} (hloc : loc ∉ locs)
    (hfile : files'.root.at? loc = some (.file content)) :
    files.root.at? loc = some (.file content) := by
  cases hold : files.root.at? loc with
  | none => exact absurd (h.fresh hold hfile).1 hloc
  | some node =>
    cases node with
    | file old =>
      obtain ⟨content', hfile', hsame⟩ := h.file hold
      rw [← hsame hloc, Node.file.inj (Option.some.inj (hfile.symm.trans hfile'))]
    | link target => exact nomatch hfile.symm.trans (h.link hold)
    | dir es =>
      obtain ⟨es', hdir⟩ := h.dir hold
      exact nomatch hfile.symm.trans hdir

/-- Nothing is removed. -/
theorem isSome (h : ChangedAt locs files files') (hloc : (files.root.at? loc).isSome) :
    (files'.root.at? loc).isSome := by
  obtain ⟨node, hnode⟩ := Option.isSome_iff_exists.1 hloc
  cases node with
  | file content =>
    obtain ⟨content', hfile, -⟩ := h.file hnode
    exact Option.isSome_iff_exists.2 ⟨_, hfile⟩
  | link target => exact Option.isSome_iff_exists.2 ⟨_, h.link hnode⟩
  | dir es =>
    obtain ⟨es', hdir⟩ := h.dir hnode
    exact Option.isSome_iff_exists.2 ⟨_, hdir⟩

end ChangedAt

/-- Writing a file where there is a file or nothing changes files at one location. -/
theorem changedAt_put (content : Bytes)
    (hold : ∀ node, files.root.at? loc = some node → ∃ old, node = .file old)
    (hput : (files.put loc (.file content)).root.at? loc = some (.file content)) :
    ChangedAt [loc] files (files.put loc (.file content)) := by
  have hdir : ∀ es, files.root.at? loc ≠ some (.dir es) := by
    intro es h
    obtain ⟨old, hfile⟩ := hold _ h
    cases hfile
  have hrel : ∀ {loc'}, loc' ≠ loc → Option.Rel Node.Alike (files.root.at? loc')
      ((files.put loc (.file content)).root.at? loc') :=
    fun hne ↦ Node.at?_put_of_ne hne hdir nofun
  refine ⟨fun {loc' content'} h ↦ ?_, fun {loc' target} h ↦ ?_, fun {loc' es} h ↦ ?_,
    fun {loc' node} h h' ↦ ?_⟩
  · by_cases hloc : loc' = loc
    · subst hloc
      exact ⟨content, hput, fun hmem ↦ absurd List.mem_cons_self hmem⟩
    · exact ⟨content', Node.eq_of_rel_file (h ▸ hrel hloc), fun _ ↦ rfl⟩
  · have hloc : loc' ≠ loc := by
      rintro rfl
      obtain ⟨old, hfile⟩ := hold _ h
      cases hfile
    exact Node.eq_of_rel_link (h ▸ hrel hloc)
  · have hloc : loc' ≠ loc := by
      rintro rfl
      exact hdir es h
    exact Node.exists_of_rel_dir (h ▸ hrel hloc)
  · by_cases hloc : loc' = loc
    · subst hloc
      exact ⟨List.mem_cons_self, content, Option.some.inj (h'.symm.trans hput)⟩
    · have hsame := hrel hloc
      rw [h, h'] at hsame
      cases hsame

/-! ### Appending -/

/-- Bytes are appended to the file at a location, if there is one. -/
theorem append_of_at? {content : Bytes} (h : files.root.at? loc = some (.file content))
    (chunk : Bytes) : files.append loc chunk = files.put loc (.file (content ++ chunk)) := by
  rw [append, h]

theorem at?_append_self {content : Bytes} (h : files.root.at? loc = some (.file content))
    (chunk : Bytes) :
    (files.append loc chunk).root.at? loc = some (.file (content ++ chunk)) := by
  rw [append_of_at? h]
  exact Node.at?_put_of_isSome (Option.isSome_iff_exists.2 ⟨_, h⟩)

theorem changedAt_append (files : Files) (loc : Location) (chunk : Bytes) :
    ChangedAt [loc] files (files.append loc chunk) := by
  by_cases h : ∃ content, files.root.at? loc = some (.file content)
  · obtain ⟨content, hfile⟩ := h
    have hself := at?_append_self hfile chunk
    rw [append_of_at? hfile] at hself ⊢
    exact changedAt_put _ (fun node hnode ↦ ⟨content, Option.some.inj (hnode.symm.trans hfile)⟩)
      hself
  · have hsame : files.append loc chunk = files := by
      rw [append]
      split
      · next content hfile => exact absurd ⟨content, hfile⟩ h
      · rfl
    rw [hsame]
    exact (ChangedAt.refl files).mono (List.nil_subset _)

/-- Writes texts, one after the other, at the end of the file at a location. -/
def appendAll (files : Files) (loc : Location) (texts : List Text) : Files :=
  texts.foldl (fun files t ↦ files.append loc t.encode) files

theorem appendAll_append (files : Files) (loc : Location) (texts more : List Text) :
    files.appendAll loc (texts ++ more) = (files.appendAll loc texts).appendAll loc more :=
  List.foldl_append

theorem changedAt_appendAll (files : Files) (loc : Location) (texts : List Text) :
    ChangedAt [loc] files (files.appendAll loc texts) := by
  induction texts generalizing files with
  | nil => exact (ChangedAt.refl files).mono (List.nil_subset _)
  | cons t rest ih =>
    have hboth := (changedAt_append files loc t.encode).trans (ih (files.append loc t.encode))
    exact hboth.mono fun loc' h ↦ by simpa using h

/-- The file holds what it held, and the texts behind it. -/
theorem at?_appendAll_self {content : Bytes} (h : files.root.at? loc = some (.file content))
    (texts : List Text) :
    (files.appendAll loc texts).root.at? loc =
      some (.file (content ++ Text.encode texts.flatten)) := by
  induction texts generalizing files content with
  | nil =>
    rw [List.flatten_nil, Text.encode, List.flatMap_nil, List.append_nil]
    exact h
  | cons t rest ih =>
    have happended : (files.append loc t.encode).root.at? loc =
        some (.file (content ++ t.encode)) := at?_append_self h t.encode
    show ((files.append loc t.encode).appendAll loc rest).root.at? loc = _
    rw [ih happended, List.append_assoc, List.flatten_cons, Text.encode_append]

end Files

end LineShell
