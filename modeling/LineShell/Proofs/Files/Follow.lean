import LineShell.Proofs.Files.Names

/-!
# Where paths lead

What one component can do is said once (`Files.followWith_cons_eq_ok_iff`). From it, following a path
ends at an entry that exists, or in a directory without an entry of the last name
(`Files.locate_sound`), so the file that is made for `>` is either a file already or a new entry
(`Files.create_eq_ok`). What is known of every component of a path and of the targets of links is
known of the name of the new entry, by the same induction.

In the other direction, a canonical path leads to the location that it writes, no link being met on
the way (`Files.find_ofLocation`), and a name behind the path of a directory leads to the entry of
that name (`Files.find_resolve`).
-/

namespace LineShell.Files

variable {files : Files} {purpose : Purpose} {loc : Location} {p : Path}

variable {jump : Location → List Name → Except OsError Place} {place : Place} {name : Name}
  {rest : List Name}

/-! ### One component -/

/-- The component is looked for in its directory, and nothing is wrong with it. -/
structure Sought (purpose : Purpose) (name : Name) (rest : List Name) : Prop where
  ne_nil : name ≠ []
  ne_here : name ≠ Path.here
  ne_parent : name ≠ Path.parent
  not_directory : ¬(purpose = .write ∧ rest = [[]])
  length_le : name.length ≤ maxName

/-- What a component in a directory with the entries leads to, and the components behind it. -/
inductive Follows (jump : Location → List Name → Except OsError Place) (files : Files)
    (purpose : Purpose) (loc : Location) (es : Entries) (name : Name) (rest : List Name)
    (place : Place) : Prop where
  | here (hname : name = [] ∨ name = Path.here)
      (h : followWith jump files purpose loc rest = .ok place)
  | parent (hname : name = Path.parent)
      (h : followWith jump files purpose loc.dropLast rest = .ok place)
  | link {target : Path} (hname : Sought purpose name rest)
      (hfind : es.find? name = some (.link target))
      (h : jump (if Path.isAbsolute target then [] else loc) (Path.components target ++ rest) =
        .ok place)
  | entry {node : Node} (hname : Sought purpose name rest) (hfind : es.find? name = some node)
      (hlink : ∀ target, node ≠ .link target)
      (h : followWith jump files purpose (loc ++ [name]) rest = .ok place)
  | vacant (hname : Sought purpose name rest) (hfind : es.find? name = none) (hrest : rest = [])
      (hplace : place = .vacant loc name)

theorem followWith_cons_of_sought {es : Entries} (hname : Sought purpose name rest)
    (hdir : files.root.at? loc = some (.dir es)) :
    followWith jump files purpose loc (name :: rest) =
      match es.find? name with
      | some (.link target) =>
        jump (if Path.isAbsolute target then [] else loc) (Path.components target ++ rest)
      | some _ => followWith jump files purpose (loc ++ [name]) rest
      | none => if rest = [] then .ok (.vacant loc name) else .error .notFound := by
  have hhere : ¬(name = [] ∨ name = Path.here) := not_or.2 ⟨hname.ne_nil, hname.ne_here⟩
  rw [followWith, hdir]
  exact (((if_neg hhere).trans (if_neg hname.ne_parent)).trans (if_neg hname.not_directory)).trans
    (if_neg (Nat.not_lt.2 hname.length_le))

/-- A step to an entry that is no link. -/
theorem followWith_cons_of_entry {es : Entries} {node : Node} (hname : Sought purpose name rest)
    (hdir : files.root.at? loc = some (.dir es)) (hfind : es.find? name = some node)
    (hlink : ∀ target, node ≠ .link target) :
    followWith jump files purpose loc (name :: rest) =
      followWith jump files purpose (loc ++ [name]) rest := by
  rw [followWith_cons_of_sought hname hdir, hfind]
  cases node with
  | file content => rfl
  | link target => exact absurd rfl (hlink target)
  | dir es' => rfl

/-- **All that a step can do**, where the path leads to a place. -/
theorem followWith_cons_eq_ok_iff :
    followWith jump files purpose loc (name :: rest) = .ok place ↔
      ∃ es, files.root.at? loc = some (.dir es) ∧
        Follows jump files purpose loc es name rest place := by
  constructor
  · intro h
    rw [followWith] at h
    split at h
    · next es hdir =>
      refine ⟨es, hdir, ?_⟩
      split at h
      · next hhere => exact .here hhere h
      next hhere =>
      split at h
      · next hparent => exact .parent hparent h
      next hparent =>
      split at h
      · cases h
      next hdirectory =>
      split at h
      · cases h
      next hlength =>
      obtain ⟨hne, hhere⟩ := not_or.1 hhere
      have hname : Sought purpose name rest :=
        ⟨hne, hhere, hparent, hdirectory, Nat.not_lt.1 hlength⟩
      split at h
      · next target hfind => exact .link hname hfind h
      · next node hlink hfind => exact .entry hname hfind hlink h
      · next hfind =>
        split at h
        · next hrest => exact .vacant hname hfind hrest (Except.ok.inj h).symm
        · cases h
    · cases h
    · cases h
  · rintro ⟨es, hdir, hstep⟩
    cases hstep with
    | here hname h =>
      rw [followWith, hdir]
      exact (if_pos hname).trans h
    | parent hname h =>
      have hhere : ¬(name = [] ∨ name = Path.here) := by
        rw [hname]
        decide
      rw [followWith, hdir]
      exact ((if_neg hhere).trans (if_pos hname)).trans h
    | link hname hfind h =>
      rw [followWith_cons_of_sought hname hdir, hfind]
      exact h
    | entry hname hfind hlink h => rw [followWith_cons_of_entry hname hdir hfind hlink, h]
    | vacant hname hfind hrest hplace =>
      rw [followWith_cons_of_sought hname hdir, hfind, hplace]
      exact if_pos hrest

/-! ### Where following ends -/

/-- The place is there: an entry that exists, or a directory with no entry of the name, which is one
that can be made and has the property. -/
def Place.Sound (files : Files) (Q : Name → Prop) : Place → Prop
  | .entry loc => (files.root.at? loc).isSome
  | .vacant dir name => (∃ es, files.root.at? dir = some (.dir es) ∧ es.find? name = none) ∧
      name ≠ [] ∧ name ≠ Path.here ∧ name ≠ Path.parent ∧ name.length ≤ maxName ∧ Q name

variable {Q : Name → Prop}

theorem isSome_at?_dropLast (h : (files.root.at? loc).isSome) :
    (files.root.at? loc.dropLast).isSome := by
  rcases List.eq_nil_or_concat loc with rfl | ⟨front, name, rfl⟩
  · exact h
  · rw [List.concat_eq_append] at h ⊢
    rw [List.dropLast_concat]
    exact Node.isSome_at?_of_append h

/-- Following ends at a place that is there, if it does so behind every link. -/
theorem followWith_sound
    (hlinks : ∀ {loc target}, files.root.at? loc = some (.link target) →
      ∀ name ∈ Path.components target, Q name)
    (hjump : ∀ {loc comps place}, (files.root.at? loc).isSome → (∀ name ∈ comps, Q name) →
      jump loc comps = .ok place → place.Sound files Q)
    {comps : List Name} (hloc : (files.root.at? loc).isSome) (hcomps : ∀ name ∈ comps, Q name)
    (h : followWith jump files purpose loc comps = .ok place) : place.Sound files Q := by
  induction comps generalizing loc with
  | nil =>
    obtain rfl : .entry loc = place := Except.ok.inj h
    exact hloc
  | cons name rest ih =>
    obtain ⟨hname, hrest⟩ := List.forall_mem_cons.1 hcomps
    obtain ⟨es, hdir, hstep⟩ := followWith_cons_eq_ok_iff.1 h
    cases hstep with
    | here _ h => exact ih hloc hrest h
    | parent _ h => exact ih (isSome_at?_dropLast hloc) hrest h
    | @link target _ hfind h =>
      have hlink : files.root.at? (loc ++ [name]) = some (.link target) :=
        (Node.at?_concat_of_dir hdir name).trans hfind
      refine hjump ?_ (List.forall_mem_append.2 ⟨hlinks hlink, hrest⟩) h
      -- An absolute target is followed from the root, a relative one from where the link is.
      split
      · rfl
      · exact hloc
    | entry _ hfind _ h =>
      refine ih ?_ hrest h
      rw [Node.at?_concat_of_dir hdir, hfind]
      rfl
    | vacant hsought hfind _ hplace =>
      subst hplace
      exact ⟨⟨es, hdir, hfind⟩, hsought.ne_nil, hsought.ne_here, hsought.ne_parent,
        hsought.length_le, hname⟩

theorem follow_sound
    (hlinks : ∀ {loc target}, files.root.at? loc = some (.link target) →
      ∀ name ∈ Path.components target, Q name)
    (links : Nat) {comps : List Name} (hloc : (files.root.at? loc).isSome)
    (hcomps : ∀ name ∈ comps, Q name) (h : follow files purpose links loc comps = .ok place) :
    place.Sound files Q := by
  induction links generalizing loc comps place with
  | zero =>
    refine followWith_sound hlinks (fun _ _ hjump ↦ ?_) hloc hcomps h
    cases hjump
  | succ links ih => exact followWith_sound hlinks ih hloc hcomps h

/-- A path that can be followed is not empty, nor too long, and holds no zero byte. -/
theorem locate_eq_ok_iff :
    files.locate purpose p = .ok place ↔ 0 ∉ p ∧ p ≠ [] ∧ p.length ≤ maxPath ∧
      follow files purpose maxLinks [] (Path.components p) = .ok place := by
  by_cases hzero : 0 ∈ p
  · rw [locate, if_pos hzero]
    exact ⟨nofun, fun h ↦ absurd hzero h.1⟩
  by_cases hne : p = []
  · rw [locate, if_neg hzero, if_pos hne]
    exact ⟨nofun, fun h ↦ absurd hne h.2.1⟩
  by_cases hlength : maxPath < p.length
  · rw [locate, if_neg hzero, if_neg hne, if_pos hlength]
    exact ⟨nofun, fun h ↦ absurd hlength (Nat.not_lt.2 h.2.2.1)⟩
  · rw [locate, if_neg hzero, if_neg hne, if_neg hlength]
    exact ⟨fun h ↦ ⟨hzero, hne, Nat.not_lt.1 hlength, h⟩, fun h ↦ h.2.2.2⟩

theorem find_eq_ok_iff : files.find p = .ok loc ↔ files.locate .reach p = .ok (.entry loc) := by
  rw [find]
  split
  · next hlocate =>
    rw [hlocate]
    exact ⟨fun h ↦ congrArg _ (congrArg _ (Except.ok.inj h)),
      fun h ↦ congrArg _ (Place.entry.inj (Except.ok.inj h))⟩
  · next hlocate =>
    rw [hlocate]
    exact ⟨nofun, nofun⟩
  · next hlocate =>
    rw [hlocate]
    exact ⟨nofun, nofun⟩

/-- **A path leads to a place that is there.** -/
theorem locate_sound
    (hlinks : ∀ {loc target}, files.root.at? loc = some (.link target) →
      ∀ name ∈ Path.components target, Q name)
    (hcomps : 0 ∉ p → ∀ name ∈ Path.components p, Q name)
    (h : files.locate purpose p = .ok place) : place.Sound files Q := by
  obtain ⟨hzero, -, -, hfollow⟩ := locate_eq_ok_iff.1 h
  exact follow_sound hlinks maxLinks (by rfl) (hcomps hzero) hfollow

/-! ### Making a file -/

/-- **The file of `>` is one already, which is emptied, or a new one.** Nothing else changes. -/
theorem create_eq_ok {made : Files} (h : files.create p = .ok (made, loc)) :
    ChangedAt [loc] files made ∧ made.root.at? loc = some (.file []) := by
  have hput : made = files.put loc (.file []) ∧
      (files.put loc (.file [])).root.at? loc = some (.file []) ∧
      ∀ node, files.root.at? loc = some node → ∃ old, node = .file old := by
    rw [create] at h
    split at h
    · next loc' _ =>
      split at h
      · next content hfile =>
        obtain ⟨rfl, rfl⟩ := Prod.mk.inj (Except.ok.inj h)
        exact ⟨rfl, Node.at?_put_of_isSome (Option.isSome_iff_exists.2 ⟨_, hfile⟩),
          fun node hnode ↦ ⟨content, Option.some.inj (hnode.symm.trans hfile)⟩⟩
      · cases h
      · cases h
    · next dir name hlocate =>
      obtain ⟨rfl, rfl⟩ := Prod.mk.inj (Except.ok.inj h)
      obtain ⟨⟨es, hdir, hfind⟩, -⟩ :=
        locate_sound (Q := fun _ ↦ True) (fun _ _ _ ↦ trivial) (fun _ _ _ ↦ trivial) hlocate
      refine ⟨rfl, Node.at?_put_concat hdir name, fun node hnode ↦ ?_⟩
      rw [Node.at?_concat_of_dir hdir, hfind] at hnode
      cases hnode
    · cases h
  obtain ⟨rfl, hself, hold⟩ := hput
  exact ⟨changedAt_put [] hold hself, hself⟩

/-- In a well-named tree, the new file has a name. -/
theorem WellNamed.create {made : Files} (hnamed : files.WellNamed)
    (h : files.create p = .ok (made, loc)) : made.WellNamed := by
  refine hnamed.of_changedAt (create_eq_ok h).1 ?_
  rw [Files.create] at h
  split at h
  · next loc' _ =>
    split at h
    · next content hfile =>
      obtain ⟨-, rfl⟩ := Prod.mk.inj (Except.ok.inj h)
      exact hnamed.names (Option.isSome_iff_exists.2 ⟨_, hfile⟩)
    · cases h
    · cases h
  · next dir name hlocate =>
    obtain ⟨-, rfl⟩ := Prod.mk.inj (Except.ok.inj h)
    have hcomponents : ∀ {p : Path}, 0 ∉ p →
        ∀ name ∈ Path.components p, Path.slash ∉ name ∧ 0 ∉ name :=
      fun hzero name hname ↦ ⟨Path.slash_not_mem_of_mem_components hname,
        fun hmem ↦ hzero (Path.mem_of_mem_components hname hmem)⟩
    obtain ⟨⟨es, hdir, -⟩, hne, hhere, hparent, hlength, hslash, hzero⟩ :=
      locate_sound (fun hlink ↦ hcomponents (hnamed.targets hlink)) hcomponents hlocate
    refine List.forall_mem_append.2 ⟨?_, List.forall_mem_singleton.2 ?_⟩
    · exact hnamed.names (Option.isSome_iff_exists.2 ⟨_, hdir⟩)
    · exact ⟨hne, hslash, hzero, hhere, hparent, hlength⟩
  · cases h

/-! ### Directories -/

/-- The entries of a path are those of the directory that it leads to. -/
theorem entries_eq_ok_iff {es : Entries} :
    files.entries p = .ok es ↔
      ∃ loc, files.find p = .ok loc ∧ files.root.at? loc = some (.dir es) := by
  rw [entries, read]
  cases hfind : files.find p with
  | error e => exact ⟨nofun, fun ⟨_, h, _⟩ ↦ nomatch h⟩
  | ok loc =>
    cases hloc : files.root.at? loc with
    | none => simp [hloc]
    | some node => cases node <;> simp [hloc]

/-- A path to a directory leads to the location of one. -/
theorem isDirectory_iff :
    files.isDirectory p = true ↔
      ∃ loc es, files.find p = .ok loc ∧ files.root.at? loc = some (.dir es) := by
  rw [isDirectory, read]
  cases hfind : files.find p with
  | error e => simp
  | ok loc =>
    cases hloc : files.root.at? loc with
    | none => simp [hloc]
    | some node => cases node <;> simp [hloc]

/-! ### Canonical paths -/

theorem Sought.of_isName (hname : Path.IsName name) : Sought .reach name rest :=
  ⟨hname.ne_nil, hname.ne_here, hname.ne_parent, nofun, hname.length_le⟩

/-- Names lead to the directory at their location: no link is met. -/
theorem followWith_names {names : List Name} {es : Entries}
    (hnames : ∀ name ∈ names, Path.IsName name)
    (hdir : files.root.at? (loc ++ names) = some (.dir es)) :
    followWith jump files .reach loc names = .ok (.entry (loc ++ names)) := by
  induction names generalizing loc with
  | nil => rw [followWith, List.append_nil]
  | cons name rest ih =>
    obtain ⟨hname, hrest⟩ := List.forall_mem_cons.1 hnames
    have hsplit : loc ++ name :: rest = (loc ++ [name]) ++ rest := by simp
    rw [hsplit] at hdir ⊢
    have hsome : (files.root.at? (loc ++ [name])).isSome :=
      Node.isSome_at?_of_append (Option.isSome_iff_exists.2 ⟨_, hdir⟩)
    obtain ⟨es', hloc, hfind⟩ := Node.exists_dir_of_at?_concat hsome
    obtain ⟨node, hnode⟩ := Option.isSome_iff_exists.1 hsome
    rw [hnode] at hfind
    have hlink : ∀ target, node ≠ .link target := by
      rintro target rfl
      rw [Node.at?_append, hnode] at hdir
      cases rest <;> cases hdir
    rw [followWith_cons_of_entry (.of_isName hname) hloc hfind hlink]
    exact ih hrest hdir

/-- A canonical path leads to the directory at its location. -/
theorem follow_ofLocation (links : Nat) {es : Entries} (hnames : ∀ name ∈ loc, Path.IsName name)
    (hdir : files.root.at? loc = some (.dir es)) :
    follow files .reach links [] (Path.components (Path.ofLocation loc)) = .ok (.entry loc) := by
  have hwith : ∀ jump, followWith jump files .reach [] (Path.components (Path.ofLocation loc)) =
      .ok (.entry loc) := by
    intro jump
    cases loc with
    | nil =>
      show followWith jump files .reach [] [[]] = _
      rw [followWith, hdir]
      rfl
    | cons name rest =>
      rw [Path.components_ofLocation_cons hnames]
      exact followWith_names hnames (show files.root.at? ([] ++ name :: rest) = _ from hdir)
  cases links <;> exact hwith _

/-- **A canonical path leads to its location.** -/
theorem find_ofLocation {es : Entries} (hnames : ∀ name ∈ loc, Path.IsName name)
    (hdir : files.root.at? loc = some (.dir es))
    (hlength : (Path.ofLocation loc).length ≤ maxPath) :
    files.find (Path.ofLocation loc) = .ok loc := by
  have hne : Path.ofLocation loc ≠ [] := by
    cases loc <;> nofun
  exact find_eq_ok_iff.2 (locate_eq_ok_iff.2 ⟨Path.zero_not_mem_ofLocation hnames, hne, hlength,
    follow_ofLocation maxLinks hnames hdir⟩)

/-! ### A name behind a path -/

/-- A component that is not empty, as a test. -/
def nonEmpty (name : Name) : Bool := decide (name ≠ [])

/-- Behind a slash the components begin anew; those in front of it lose an empty one at the end. -/
theorem componentsFrom_append_slash (name : Name) (p q : Path) :
    Path.componentsFrom name (p ++ Path.slash :: q) =
      (Path.componentsFrom name p).filter nonEmpty ++ Path.componentsFrom [] q := by
  fun_induction Path.componentsFrom name p with
  | case1 name =>
    rw [List.nil_append, Path.componentsFrom, if_pos rfl]
    by_cases h : name = [] <;> simp [h, nonEmpty]
  | case2 rest ih => rw [List.cons_append, Path.componentsFrom, if_pos rfl, if_pos rfl, ih]
  | case3 name rest hname ih =>
    rw [List.cons_append, Path.componentsFrom, if_pos rfl, if_neg hname, ih,
      List.filter_cons_of_pos (show nonEmpty name = true from decide_eq_true hname),
      List.cons_append]
  | case4 name b rest hb ih => rw [List.cons_append, Path.componentsFrom, if_neg hb, ih]

/-- Only the last component can be empty. -/
theorem exists_componentsFrom_eq (name : Name) (p : Path) :
    ∃ tail, (tail = [] ∨ tail = [[]]) ∧ Path.componentsFrom name p =
      (Path.componentsFrom name p).filter nonEmpty ++ tail := by
  fun_induction Path.componentsFrom name p with
  | case1 name =>
    by_cases h : name = []
    · exact ⟨[[]], Or.inr rfl, by simp [h, nonEmpty]⟩
    · exact ⟨[], Or.inl rfl, by simp [h, nonEmpty]⟩
  | case2 rest ih => exact ih
  | case3 name rest hname ih =>
    obtain ⟨tail, htail, heq⟩ := ih
    refine ⟨tail, htail, ?_⟩
    rw [List.filter_cons_of_pos (show nonEmpty name = true from decide_eq_true hname),
      List.cons_append, ← heq]
  | case4 name b rest hb ih => exact ih

/-- A name behind a path is one more component; an empty one at the end makes room for it. -/
theorem exists_components_resolve {dir : Path} {name : Name} (hdir : dir ≠ [])
    (hname : Path.IsName name) :
    ∃ comps tail, (tail = [] ∨ tail = [[]]) ∧ Path.components dir = comps ++ tail ∧
      Path.components (Path.withSlash dir ++ name) = comps ++ [name] := by
  obtain ⟨tail, htail, heq⟩ := exists_componentsFrom_eq [] dir
  have hsingle : Path.componentsFrom [] name = [name] := by
    have happend := Path.componentsFrom_append hname.slash_not_mem [] []
    rw [List.append_nil, List.nil_append] at happend
    exact happend
  refine ⟨_, tail, htail, heq, ?_⟩
  rw [Path.components, Path.withSlash]
  split
  · next hslash =>
    obtain ⟨front, rfl⟩ := List.getLast?_eq_some_iff.1 (hslash.resolve_left hdir)
    rw [List.append_assoc, List.singleton_append, componentsFrom_append_slash,
      componentsFrom_append_slash, hsingle, List.filter_append, List.filter_filter]
    simp only [Bool.and_self]
    rw [show (Path.componentsFrom [] []).filter nonEmpty = [] from rfl, List.append_nil]
  · rw [List.append_assoc, List.singleton_append, componentsFrom_append_slash, hsingle]

/-- A path that leads to a directory, followed by a name in it, leads to the entry. -/
theorem followWith_concat {loc' : Location} {name : Name} {es : Entries} {node : Node}
    {tail : List Name} (htail : tail = [] ∨ tail = [[]]) (hname : Path.IsName name)
    (hdir : files.root.at? loc' = some (.dir es)) (hfind : es.find? name = some node)
    (hlink : ∀ target, node ≠ .link target)
    (hjump : ∀ {loc comps}, jump loc (comps ++ tail) = .ok (.entry loc') →
      jump loc (comps ++ [name]) = .ok (.entry (loc' ++ [name])))
    {comps : List Name}
    (h : followWith jump files .reach loc (comps ++ tail) = .ok (.entry loc')) :
    followWith jump files .reach loc (comps ++ [name]) = .ok (.entry (loc' ++ [name])) := by
  induction comps generalizing loc with
  | nil =>
    have hloc : loc' = loc := by
      rcases htail with rfl | rfl
      · exact (Place.entry.inj (Except.ok.inj h)).symm
      · obtain ⟨_, -, hstep⟩ := followWith_cons_eq_ok_iff.1 h
        cases hstep with
        | here _ h => exact (Place.entry.inj (Except.ok.inj h)).symm
        | parent hparent => cases hparent
        | link hempty => exact absurd rfl hempty.ne_nil
        | entry hempty => exact absurd rfl hempty.ne_nil
        | vacant hempty => exact absurd rfl hempty.ne_nil
    subst hloc
    rw [List.nil_append, followWith_cons_of_entry (.of_isName hname) hdir hfind hlink, followWith]
  | cons comp rest ih =>
    rw [List.cons_append] at h ⊢
    obtain ⟨es', hdir', hstep⟩ := followWith_cons_eq_ok_iff.1 h
    refine followWith_cons_eq_ok_iff.2 ⟨es', hdir', ?_⟩
    cases hstep with
    | here hcomp h => exact .here hcomp (ih h)
    | parent hcomp h => exact .parent hcomp (ih h)
    | link hcomp hfind' h =>
      rw [← List.append_assoc] at h
      refine .link { hcomp with not_directory := nofun } hfind' ?_
      rw [← List.append_assoc]
      exact hjump h
    | entry hcomp hfind' hlink' h =>
      exact .entry { hcomp with not_directory := nofun } hfind' hlink' (ih h)
    | vacant _ _ _ hplace => cases hplace

theorem follow_concat {loc' : Location} {name : Name} {es : Entries} {node : Node}
    {tail comps : List Name} (htail : tail = [] ∨ tail = [[]]) (hname : Path.IsName name)
    (hdir : files.root.at? loc' = some (.dir es)) (hfind : es.find? name = some node)
    (hlink : ∀ target, node ≠ .link target) (links : Nat)
    (h : follow files .reach links loc (comps ++ tail) = .ok (.entry loc')) :
    follow files .reach links loc (comps ++ [name]) = .ok (.entry (loc' ++ [name])) := by
  induction links generalizing loc comps with
  | zero => exact followWith_concat htail hname hdir hfind hlink (by rintro _ _ ⟨⟩) h
  | succ links ih => exact followWith_concat htail hname hdir hfind hlink ih h

theorem zero_not_mem_withSlash {dir : Path} (h : 0 ∉ dir) : 0 ∉ Path.withSlash dir := by
  rw [Path.withSlash]
  split
  · exact h
  · intro hmem
    rcases List.mem_append.1 hmem with hmem | hmem
    · exact h hmem
    · exact absurd (List.mem_singleton.1 hmem) (by decide)

/-- A name behind the path of a directory leads to the entry of that name, if it is no link. -/
theorem find_resolve {dir : Path} {name : Name} {es : Entries} {node : Node}
    (hfound : files.find dir = .ok loc) (hdir : files.root.at? loc = some (.dir es))
    (hname : Path.IsName name) (hfind : es.find? name = some node)
    (hlink : ∀ target, node ≠ .link target) (hlength : (Path.resolve dir name).length ≤ maxPath) :
    files.find (Path.resolve dir name) = .ok (loc ++ [name]) := by
  have hrelative := Path.isAbsolute_of_slash_not_mem hname.slash_not_mem
  rw [Path.resolve, hrelative, if_neg Bool.false_ne_true] at hlength ⊢
  obtain ⟨hzero, hne, -, hfollow⟩ := locate_eq_ok_iff.1 (find_eq_ok_iff.1 hfound)
  obtain ⟨comps, tail, htail, hcomps, hcomps'⟩ := exists_components_resolve hne hname
  rw [hcomps] at hfollow
  refine find_eq_ok_iff.2 (locate_eq_ok_iff.2 ⟨fun hmem ↦ ?_,
    List.append_ne_nil_of_right_ne_nil _ hname.ne_nil, hlength, ?_⟩)
  · exact (List.mem_append.1 hmem).elim (zero_not_mem_withSlash hzero) hname.zero_not_mem
  · rw [hcomps']
    exact follow_concat htail hname hdir hfind hlink maxLinks hfollow

/-- The path names an entry, which may be a link: its last name is listed in the directory that the
path in front of it leads to. -/
def Names (files : Files) (p : Path) : Prop :=
  ∃ dir es name, p = Path.resolve dir name ∧ files.entries dir = .ok es ∧ name ∈ es.names

/-- **What a path names exists**, and the path leads to it unless it is a link. -/
theorem Names.exists_entry (hnamed : files.WellNamed) (h : files.Names p) :
    ∃ loc node, files.root.at? loc = some node ∧
      ((∀ target, node ≠ .link target) → p.length ≤ maxPath → files.find p = .ok loc) := by
  obtain ⟨dir, es, name, rfl, hes, hmem⟩ := h
  obtain ⟨loc, hfound, hdir⟩ := entries_eq_ok_iff.1 hes
  obtain ⟨node, hfind⟩ := Option.isSome_iff_exists.1 (Entries.mem_names_iff.1 hmem)
  have hnode : files.root.at? (loc ++ [name]) = some node :=
    (Node.at?_concat_of_dir hdir name).trans hfind
  have hname : Path.IsName name :=
    hnamed.names (Option.isSome_iff_exists.2 ⟨_, hnode⟩) name (List.mem_append_right _ (by simp))
  exact ⟨_, node, hnode, find_resolve hfound hdir hname hfind⟩

end LineShell.Files
