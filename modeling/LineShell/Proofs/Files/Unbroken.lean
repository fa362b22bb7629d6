import LineShell.Proofs.Files.Follow
import LineShell.Proofs.Text.Unbroken

/-!
# Names without a line break

In an **unbroken** tree no name and no target of a link has a line feed in it. Then no way through
the tree leads to one: the names on the way to an entry are unbroken, and so is the canonical path
of a directory. What the shell does to the files keeps a tree unbroken, because the name of a new
file is a component of the path that it is made at or of the target of a link
(`Files.Unbroken.create`).
-/

namespace LineShell

mutual

/-- No name below an entry has a line feed in it, nor has the target of a link. -/
def Node.Unbroken : Node → Prop
  | .file _ => True
  | .link target => Path.Unbroken target
  | .dir entries => entries.Unbroken

/-- No name of the entries or below them has a line feed in it, nor has the target of a link. -/
def Entries.Unbroken : Entries → Prop
  | .nil => True
  | .cons name node rest => Path.Unbroken name ∧ node.Unbroken ∧ rest.Unbroken

end

/-- No name of an entry has a line feed in it, nor has the target of a link. -/
def Files.Unbroken (files : Files) : Prop := files.root.Unbroken

/-! ### Names and entries -/

namespace Entries.Unbroken

variable {es : Entries} {name : Name} {node : Node}

theorem of_find? (h : es.Unbroken) (hfind : es.find? name = some node) :
    Path.Unbroken name ∧ node.Unbroken := by
  induction es using Entries.rec (motive_1 := fun _ ↦ True) with
  | nil => cases hfind
  | cons n child rest _ ih =>
    obtain ⟨hname, hchild, hrest⟩ := h
    rw [find?] at hfind
    split at hfind
    · next heq =>
      obtain rfl := Option.some.inj hfind
      exact ⟨heq ▸ hname, hchild⟩
    · exact ih hrest hfind
  | _ => trivial

theorem of_mem_names (h : es.Unbroken) (hname : name ∈ es.names) : Path.Unbroken name := by
  obtain ⟨node, hfind⟩ := Option.isSome_iff_exists.1 (mem_names_iff.1 hname)
  exact (h.of_find? hfind).1

theorem insert (h : es.Unbroken) (hname : Path.Unbroken name) (hnode : node.Unbroken) :
    (es.insert name node).Unbroken := by
  induction es using Entries.rec (motive_1 := fun _ ↦ True) with
  | nil => exact ⟨hname, hnode, trivial⟩
  | cons n child rest _ ih =>
    obtain ⟨hn, hchild, hrest⟩ := h
    rw [Entries.insert]
    split
    · exact ⟨hn, hnode, hrest⟩
    split
    · exact ⟨hname, hnode, hn, hchild, hrest⟩
    · exact ⟨hn, hchild, ih hrest⟩
  | _ => trivial

end Entries.Unbroken

namespace Node.Unbroken

variable {n node new : Node} {loc : Location}

/-- The names on the way to an entry are unbroken, and so is what is below it. -/
theorem of_at? (h : n.Unbroken) (hloc : n.at? loc = some node) :
    node.Unbroken ∧ ∀ name ∈ loc, Path.Unbroken name :=
  along_of_at? (P := Node.Unbroken) (fun hdir ↦ Entries.Unbroken.of_find? hdir) h hloc

/-- Writing an unbroken entry where unbroken names lead keeps a tree unbroken. -/
theorem put (h : n.Unbroken) (hnew : new.Unbroken) (hloc : ∀ name ∈ loc, Path.Unbroken name) :
    (Node.put new loc n).Unbroken := by
  induction loc generalizing n with
  | nil => exact hnew
  | cons name rest ih =>
    obtain ⟨hname, hrest⟩ := List.forall_mem_cons.1 hloc
    cases n with
    | file content => exact h
    | link target => exact h
    | dir es =>
      cases hfind : es.find? name with
      | some child =>
        rw [put_cons_of_find? hfind]
        have hchild : child.Unbroken := (Entries.Unbroken.of_find? h hfind).2
        exact Entries.Unbroken.insert h hname (ih hchild hrest)
      | none =>
        cases rest with
        | nil =>
          rw [put_singleton_of_find? hfind]
          exact Entries.Unbroken.insert h hname hnew
        | cons name' rest =>
          rw [put_cons_cons_of_find? hfind]
          exact h

end Node.Unbroken

/-! ### Paths -/

namespace Path

theorem unbroken_resolve {base p : Path} (hbase : base.Unbroken) (hp : p.Unbroken) :
    (resolve base p).Unbroken := by
  rw [resolve]
  split
  · exact hp
  · refine unbroken_append.2 ⟨?_, hp⟩
    rw [withSlash]
    split
    · exact hbase
    · exact unbroken_append.2 ⟨hbase, by decide⟩

theorem unbroken_ofLocation {loc : Location} (h : ∀ name ∈ loc, Path.Unbroken name) :
    (ofLocation loc).Unbroken := by
  cases loc with
  | nil => decide
  | cons n names =>
    intro hmem
    obtain ⟨name, hname, hbyte⟩ := List.mem_flatMap.1 hmem
    rcases List.mem_cons.1 hbyte with hslash | hbyte
    · exact absurd hslash (by decide)
    · exact h name hname hbyte

end Path

namespace Files.Unbroken

variable {files made : Files} {loc : Location} {p dir : Path}

/-- A path leads to an unbroken entry, over unbroken names. -/
theorem of_find (h : files.Unbroken) (hfind : files.find p = .ok loc) :
    ∃ node, files.root.at? loc = some node ∧ node.Unbroken ∧ ∀ name ∈ loc, Path.Unbroken name := by
  have hplace : (Place.entry loc).Sound files fun _ ↦ True :=
    locate_sound (fun _ _ _ ↦ trivial) (fun _ _ _ ↦ trivial) (find_eq_ok_iff.1 hfind)
  obtain ⟨node, hnode⟩ := Option.isSome_iff_exists.1 hplace
  exact ⟨node, hnode, Node.Unbroken.of_at? h hnode⟩

/-- The canonical path of a directory goes by the names of entries. -/
theorem canonical (h : files.Unbroken) (hdir : files.canonical p = .ok dir) : dir.Unbroken := by
  rw [Files.canonical] at hdir
  cases hfind : files.find p with
  | error e =>
    rw [hfind] at hdir
    cases hdir
  | ok loc =>
    rw [hfind] at hdir
    obtain ⟨_, _, _, hnames⟩ := h.of_find hfind
    exact Except.ok.inj hdir ▸ Path.unbroken_ofLocation hnames

theorem entries {es : Entries} (h : files.Unbroken) (hes : files.entries p = .ok es) :
    es.Unbroken := by
  obtain ⟨loc, hfind, hdir⟩ := entries_eq_ok_iff.1 hes
  obtain ⟨node, hnode, hunbroken, -⟩ := h.of_find hfind
  obtain rfl := Option.some.inj (hdir.symm.trans hnode)
  exact hunbroken

theorem append (h : files.Unbroken) (loc : Location) (chunk : Bytes) :
    (files.append loc chunk).Unbroken := by
  rw [Files.append]
  split
  · next content hfile =>
    exact Node.Unbroken.put h trivial (Node.Unbroken.of_at? h hfile).2
  · exact h

theorem appendAll (h : files.Unbroken) (loc : Location) (texts : List Text) :
    (files.appendAll loc texts).Unbroken := by
  induction texts generalizing files with
  | nil => exact h
  | cons t rest ih => exact ih (h.append loc t.encode)

/-- **The new file has an unbroken name if its path is unbroken.** -/
theorem create (h : files.Unbroken) (hp : p.Unbroken) (hmade : files.create p = .ok (made, loc)) :
    made.Unbroken := by
  have hcomponents : ∀ {p : Path}, p.Unbroken → ∀ name ∈ Path.components p, Path.Unbroken name :=
    fun hp name hname hmem ↦ hp (Path.mem_of_mem_components hname hmem)
  rw [Files.create] at hmade
  split at hmade
  · next loc' hlocate =>
    split at hmade
    · next content hfile =>
      obtain ⟨rfl, -⟩ := Prod.mk.inj (Except.ok.inj hmade)
      exact Node.Unbroken.put h trivial (Node.Unbroken.of_at? h hfile).2
    · cases hmade
    · cases hmade
  · next dir name hlocate =>
    obtain ⟨rfl, -⟩ := Prod.mk.inj (Except.ok.inj hmade)
    have hplace : (Place.vacant dir name).Sound files Path.Unbroken := by
      refine locate_sound (fun hlink ↦ hcomponents ?_) (fun _ ↦ hcomponents hp) hlocate
      exact (Node.Unbroken.of_at? h hlink).1
    obtain ⟨⟨es, hdir, -⟩, -, -, -, -, hname⟩ := hplace
    refine Node.Unbroken.put h trivial (List.forall_mem_append.2 ⟨?_, ?_⟩)
    · exact (Node.Unbroken.of_at? h hdir).2
    · exact List.forall_mem_singleton.2 hname
  · cases hmade

end Files.Unbroken

end LineShell
