import LineShell.Proofs.Application.Windows
import LineShell.Proofs.Files.Follow
import LineShell.Proofs.Files.Preorder

/-!
# What `find` shows

`find` descends as it prints: what it shows of an entry comes before what is below it, and before
the entries behind it. So what it prints are the places of all that is below the root, in preorder,
those of regular files whose names match; links are entries that nothing is below
(`searchEntries_eq`). That these are all of them, and none of them twice, is known of the preorder
(`Node.mem_descendants_iff`, `Node.pairwise_precedes`).

Two paths are kept on the way, the one that is shown and the one that is opened. The former is cut
back to its last name at every level; since a name is not empty and has no slash, only the slashes
at the end of the root are lost (`shownAt_cons`). The latter leads to the place as long as it is not
too long (`find_pathTo`).
-/

namespace LineShell

namespace Application

open Act

/-! ### What is shown of a place -/

/-- A text without the slashes at its end. -/
def withoutSlashes (t : Text) : Text := (t.reverse.dropWhile (· == '/')).reverse

/-- What is shown of a place below the directory that is shown as `root`. -/
def shownAt (root : Text) (loc : Location) : Text :=
  withoutSlashes root ++ loc.flatMap fun name ↦ '/' :: Path.toText name

/-- The path to a place below the directory at a path. -/
def pathTo (dir : Path) (loc : Location) : Path := loc.foldl Path.resolve dir

variable {g : Glob} {root t : Text} {name : Name} {loc : Location}

theorem slash_not_mem_toText (h : Path.IsName name) : '/' ∉ Path.toText name := by
  intro hmem
  obtain ⟨u, hu, hread⟩ := List.mem_map.1 hmem
  cases u with
  | none => exact absurd (show Utf8.replacement = '/' from hread) (by decide +kernel)
  | some c =>
    obtain rfl : c = '/' := hread
    have hbyte : Utf8.encodeChar '/' = [Path.slash] := by decide
    exact h.slash_not_mem ((Utf8.mem_of_mem_unitsFrom hbyte name).1 hu)

theorem toText_ne_nil (h : Path.IsName name) : Path.toText name ≠ [] :=
  fun hnil ↦ Utf8.units_ne_nil h.ne_nil (List.map_eq_nil_iff.1 hnil)

theorem withoutSlashes_append (front : Text) (ht : t ≠ []) (hslash : '/' ∉ t) :
    withoutSlashes (front ++ t) = front ++ t := by
  obtain ⟨init, c, rfl⟩ := (List.eq_nil_or_concat t).resolve_left ht
  rw [List.concat_eq_append] at hslash ⊢
  have hc : c ≠ '/' := fun heq ↦ hslash (heq ▸ List.mem_append_right init (by simp))
  simp [withoutSlashes, hc]

theorem shownBelow_eq (shown : Text) (name : Name) :
    shownBelow shown (Path.toText name) = shownAt shown [name] := by
  simp [shownBelow, shownAt, withoutSlashes]

/-- **Below the root no slash is lost.** -/
theorem shownAt_cons (shown : Text) (h : Path.IsName name) (loc : Location) :
    shownAt (shownAt shown [name]) loc = shownAt shown (name :: loc) := by
  have hkept : withoutSlashes (shownAt shown [name]) = shownAt shown [name] := by
    have hsplit : shownAt shown [name] = (withoutSlashes shown ++ ['/']) ++ Path.toText name := by
      simp [shownAt]
    rw [hsplit]
    exact withoutSlashes_append _ (toText_ne_nil h) (slash_not_mem_toText h)
  rw [shownAt, hkept, shownAt, shownAt, List.flatMap_cons, List.flatMap_cons, List.flatMap_nil,
    List.append_nil, List.append_assoc]

/-! ### What is found -/

/-- A regular file whose name matches. -/
def isWanted (g : Glob) : Location × Node → Bool
  | (loc, .file _) => loc.getLast?.any fun name ↦ g.matchesName (Path.toText name)
  | _ => false

/-- The places below a node of the regular files whose names match, in preorder. -/
def found (g : Glob) (n : Node) : List Location := (n.descendants.filter (isWanted g)).map Prod.fst

theorem found_dir_cons (g : Glob) (name : Name) {node : Node} (h : node.Distinct)
    (rest : Entries) :
    found g (.dir (.cons name node rest)) =
      (if isWanted g ([name], node) then [[name]] else []) ++
        (found g node).map (name :: ·) ++ found g (.dir rest) := by
  have hunder : ∀ entry ∈ node.descendants,
      isWanted g (Node.under name entry) = isWanted g entry := by
    rintro ⟨loc, x⟩ hmem
    obtain ⟨hne, -⟩ := (Node.mem_descendants_iff node h loc x).1 hmem
    cases x <;> simp only [isWanted, Node.under, List.getLast?_cons_of_ne_nil hne]
  have hfilter : ((node.descendants.map (Node.under name)).filter (isWanted g)).map Prod.fst =
      (found g node).map (name :: ·) := by
    have hcongr : node.descendants.filter (isWanted g ∘ Node.under name) =
        node.descendants.filter (isWanted g) := List.filter_congr hunder
    rw [List.filter_map, hcongr, found, List.map_map, List.map_map]
    rfl
  rw [found, Node.descendants_dir_cons, List.filter_cons, List.filter_append]
  split
  · rw [List.map_cons, List.map_append, hfilter]
    rfl
  · rw [List.map_append, hfilter]
    rfl

/-- **What is found are all the files that match.** -/
theorem mem_found_iff {n : Node} (h : n.Distinct) :
    loc ∈ found g n ↔ ∃ content name, n.at? loc = some (.file content) ∧
      loc.getLast? = some name ∧ g.matchesName (Path.toText name) = true := by
  constructor
  · intro hmem
    obtain ⟨⟨loc, x⟩, hentry, rfl⟩ := List.mem_map.1 hmem
    obtain ⟨hlisted, hwanted⟩ := List.mem_filter.1 hentry
    obtain ⟨-, hat⟩ := (Node.mem_descendants_iff n h loc x).1 hlisted
    cases x with
    | file content =>
      obtain ⟨name, hlast, hmatches⟩ := (Option.any_eq_true _ _).1 hwanted
      exact ⟨content, name, hat, hlast, hmatches⟩
    | link target => cases hwanted
    | dir es => cases hwanted
  · rintro ⟨content, name, hat, hlast, hmatches⟩
    have hne : loc ≠ [] := by
      rintro rfl
      cases hlast
    refine List.mem_map.2 ⟨(loc, .file content), List.mem_filter.2 ⟨?_, ?_⟩, rfl⟩
    · exact (Node.mem_descendants_iff n h loc _).2 ⟨hne, hat⟩
    · exact (Option.any_eq_true _ _).2 ⟨name, hlast, hmatches⟩

/-! ### The search -/

mutual

/-- An entry is shown if it is wanted, and then what is found below it. -/
theorem searchNode_eq (g : Glob) (path : Path) (shown : Text) (name : Name) (node : Node)
    (hname : Path.IsName name) (hdistinct : node.Distinct)
    (hnames : ∀ loc, (node.at? loc).isSome → ∀ name ∈ loc, Path.IsName name)
    (hpaths : ∀ loc es, node.at? loc = some (.dir es) →
      (pathTo path (name :: loc)).length ≤ Files.maxPath) :
    searchNode g (Path.resolve path name) (shownAt shown [name])
        (g.matchesName (Path.toText name)) node =
      forM (((if isWanted g ([name], node) then [[name]] else []) ++
        (found g node).map (name :: ·)).map (shownAt shown)) (writeLine findName) := by
  cases node with
  | file content =>
    have hwanted : isWanted g ([name], .file content) = g.matchesName (Path.toText name) := rfl
    have hnone : found g (.file content) = [] := rfl
    rw [searchNode, hwanted, hnone]
    split <;> simp
  | link target => rfl
  | dir entries =>
    have hlength : ¬ Files.maxPath < (Path.resolve path name).length :=
      Nat.not_lt.2 (hpaths [] entries rfl)
    have hbelow := searchEntries_eq g (Path.resolve path name) (shownAt shown [name]) entries
      hdistinct hnames fun loc es _ hdir ↦ hpaths loc es hdir
    have hshown : ((found g (.dir entries)).map (name :: ·)).map (shownAt shown) =
        (found g (.dir entries)).map (shownAt (shownAt shown [name])) := by
      rw [List.map_map]
      exact List.map_congr_left fun loc _ ↦ (shownAt_cons shown hname loc).symm
    rw [searchNode, if_neg hlength, hbelow, ← hshown]
    rfl

/-- **The search shows the places of what is found**, in the order of the enumeration. -/
theorem searchEntries_eq (g : Glob) (path : Path) (shown : Text) (es : Entries)
    (hdistinct : Node.Distinct (.dir es))
    (hnames : ∀ loc, (Node.at? loc (.dir es)).isSome → ∀ name ∈ loc, Path.IsName name)
    (hpaths : ∀ loc es', loc ≠ [] → Node.at? loc (.dir es) = some (.dir es') →
      (pathTo path loc).length ≤ Files.maxPath) :
    searchEntries g path shown es =
      forM ((found g (.dir es)).map (shownAt shown)) (writeLine findName) := by
  cases es with
  | nil => rfl
  | cons name node rest =>
    have hfirst : ∀ loc, Node.at? (name :: loc) (.dir (.cons name node rest)) = node.at? loc :=
      Node.at?_dir_cons_self name node rest
    have hsiblings : ∀ {loc x}, loc ≠ [] → Node.at? loc (.dir rest) = some x →
        Node.at? loc (.dir (.cons name node rest)) = some x :=
      fun hne hat ↦ hdistinct.at?_of_siblings hne hat
    have hname : Path.IsName name :=
      hnames [name] (by rw [hfirst]; rfl) name List.mem_cons_self
    have hnode := searchNode_eq g path shown name node hname hdistinct.of_first
      (fun loc hsome ↦ (List.forall_mem_cons.1
        (hnames (name :: loc) (by rw [hfirst]; exact hsome))).2)
      (fun loc es hdir ↦ hpaths (name :: loc) es (List.cons_ne_nil _ _) ((hfirst loc).trans hdir))
    have hrest := searchEntries_eq g path shown rest hdistinct.of_siblings
      (fun loc hsome ↦ by
        by_cases hne : loc = []
        · subst hne
          exact nofun
        · obtain ⟨x, hx⟩ := Option.isSome_iff_exists.1 hsome
          exact hnames loc (by rw [hsiblings hne hx]; rfl))
      fun loc es hne hdir ↦ hpaths loc es hne (hsiblings hne hdir)
    rw [found_dir_cons g name hdistinct.of_first rest, @List.map_append _ _ _ (_ ++ _),
      List.forM_append, ← hnode, ← hrest, ← shownBelow_eq]
    rfl

end

/-! ### The path that is opened -/

/-- A path to a place below a directory is at least as long as the path to the directory. -/
theorem length_le_pathTo (dir : Path) (hnames : ∀ name ∈ loc, Path.IsName name) :
    dir.length ≤ (pathTo dir loc).length := by
  induction loc generalizing dir with
  | nil => exact Nat.le_refl _
  | cons name more ih =>
    obtain ⟨hname, hmore⟩ := List.forall_mem_cons.1 hnames
    have hlonger : dir.length ≤ (Path.resolve dir name).length := by
      rw [Path.resolve, Path.isAbsolute_of_slash_not_mem hname.slash_not_mem,
        if_neg Bool.false_ne_true, Path.withSlash]
      split <;> simp only [List.length_append] <;> omega
    exact Nat.le_trans hlonger (ih (Path.resolve dir name) hmore)

/-- **The path leads to the place**, if it is not too long and what is there is no link. -/
theorem find_pathTo {files : Files} {dir : Path} {base : Location} {es : Entries} {x : Node}
    (hfound : files.find dir = .ok base) (hdir : files.root.at? base = some (.dir es))
    (hnames : ∀ name ∈ loc, Path.IsName name) (hat : Node.at? loc (.dir es) = some x)
    (hlink : ∀ target, x ≠ .link target) (hlength : (pathTo dir loc).length ≤ Files.maxPath) :
    files.find (pathTo dir loc) = .ok (base ++ loc) := by
  induction loc generalizing dir base es with
  | nil => rw [List.append_nil]; exact hfound
  | cons name more ih =>
    obtain ⟨hname, hmore⟩ := List.forall_mem_cons.1 hnames
    obtain ⟨child, hchild, hbelow⟩ := Option.bind_eq_some_iff.1 hat
    have hplace : files.root.at? (base ++ [name]) = some child :=
      (Node.at?_concat_of_dir hdir name).trans hchild
    have hnolink : ∀ target, child ≠ .link target := by
      rintro target rfl
      cases more with
      | nil => exact hlink target (Option.some.inj hbelow).symm
      | cons next more => cases hbelow
    have hstep := Files.find_resolve hfound hdir hname hchild hnolink
      (Nat.le_trans (length_le_pathTo _ hmore) hlength)
    cases more with
    | nil => exact hstep
    | cons next more =>
      cases child with
      | file content => cases hbelow
      | link target => cases hbelow
      | dir es' =>
        rw [List.append_cons]
        exact ih hstep hplace hmore hbelow hlength

/-! ### The search of a root -/

/-- The directories below the one at a path can be read. -/
def Readable (files : Files) (dir : Path) (es : Entries) : Prop :=
  ∀ loc es', Node.at? loc (.dir es) = some (.dir es') →
    ∃ entries, files.entries (pathTo dir loc) = .ok entries

/-- The places are those of all regular files below a node whose names match, each of them once, in
the order of an enumeration in depth. -/
structure Finds (g : Glob) (n : Node) (locs : List Location) : Prop where
  mem_iff : ∀ loc, loc ∈ locs ↔ ∃ content name, n.at? loc = some (.file content) ∧
    loc.getLast? = some name ∧ g.matchesName (Path.toText name) = true
  nodup : locs.Nodup
  ordered : locs.Pairwise n.Precedes

theorem finds_found (g : Glob) {n : Node} (h : n.Distinct) : Finds g n (found g n) := by
  have hordered : (found g n).Pairwise n.Precedes :=
    (Node.pairwise_precedes n h).sublist (List.filter_sublist.map Prod.fst)
  refine ⟨fun loc ↦ mem_found_iff h, ?_, hordered⟩
  refine hordered.imp fun hprecedes heq ↦ ?_
  rw [heq] at hprecedes
  exact hprecedes.irrefl h

/-- A sink that accepts holds the lines that are written one by one. -/
theorem run_forM_writeLine {w : World} {s : Sink} (hsink : w.output = .sink s)
    (haccepts : s.refuses = false) (app : Text) (lines : List Text) :
    (forM lines (writeLine app)).run.run w =
      (.ok (), w.withSink (s.append (Text.unlines lines).encode)) := by
  induction lines generalizing w s with
  | nil =>
    rw [Text.unlines, List.flatMap_nil, Text.encode, List.flatMap_nil, Sink.append_nil,
      World.withSink, ← hsink]
    rfl
  | cons line rest ih =>
    have hfirst : (writeLine app line).run.run w =
        (.ok (), w.withSink (s.append (Text.encode (line ++ [Text.newline])))) := by
      rw [writeLine, run_write, hsink]
      simp only [Sink.write_of_accepts haccepts, World.withSink]
    rw [List.forM_cons, run_bind_of_ok hfirst,
      ih (w := w.withSink _) (s := s.append _) rfl haccepts, Sink.append_append,
      ← Text.encode_append]
    rfl

/-- A root that is no directory is refused, and then a pattern that is none. -/
theorem run_searchRoot (w : World) (root pattern : Text) :
    (searchRoot root "-name".toList pattern).run.run w =
      match w.files.entries (w.env.resolve root), Glob.read pattern with
      | .error _, _ => (.error (.path findName (.cannotSearch root)), w)
      | .ok _, .error f => (.error (.pattern findName (.glob f)), w)
      | .ok es, .ok g => (searchEntries g (w.env.resolve root) root es).run.run w := by
  rw [searchRoot, if_neg (fun h ↦ h rfl)]
  dsimp only
  rw [run_get_bind]
  cases w.files.entries (w.env.resolve root) with
  | error e => rfl
  | ok es => cases Glob.read pattern <;> rfl

/-- **`find` lists exactly the files that match.** Below a root whose directories can all be read it
writes one line for every regular file with a name that matches, in the order of an enumeration in
depth: the root without the slashes at its end and the names on the way. What is shown is what is
opened: the path that the search takes leads to the file. A flag, a root or a pattern that is wrong
is refused before anything is written. Without a root the search is that of `.`. -/
theorem find_lists_exactly_the_matching_files (w : World) (hfiles : w.files.WellFormed)
    (root pattern : Text) :
    (∀ g es, w.files.entries (w.env.resolve root) = .ok es → Glob.read pattern = .ok g →
      Readable w.files (w.env.resolve root) es →
      Finds g (.dir es) (found g (.dir es)) ∧
      (find.run [root, "-name".toList, pattern]).run.run w =
        (forM ((found g (.dir es)).map (shownAt root)) (writeLine findName)).run.run w ∧
      (∀ s, w.output = .sink s → s.refuses = false →
        (find.run [root, "-name".toList, pattern]).run.run w = (.ok (), w.withSink (s.append
          (Text.unlines ((found g (.dir es)).map (shownAt root))).encode))) ∧
      ∀ loc content, Node.at? loc (.dir es) = some (.file content) →
        (pathTo (w.env.resolve root) loc).length ≤ Files.maxPath →
        w.files.read (pathTo (w.env.resolve root) loc) = .ok (.file content)) ∧
    (∀ flag, flag ≠ "-name".toList → (find.run [root, flag, pattern]).run.run w =
      (.error (.argument findName (.invalidArgument flag)), w)) ∧
    (∀ e, w.files.entries (w.env.resolve root) = .error e →
      (find.run [root, "-name".toList, pattern]).run.run w =
        (.error (.path findName (.cannotSearch root)), w)) ∧
    (∀ es f, w.files.entries (w.env.resolve root) = .ok es → Glob.read pattern = .error f →
      (find.run [root, "-name".toList, pattern]).run.run w =
        (.error (.pattern findName (.glob f)), w)) ∧
    ∀ flag, find.run [flag, pattern] = find.run [['.'], flag, pattern] := by
  refine ⟨fun g es hes hg hreadable ↦ ?_, fun flag hflag ↦ ?_, fun e he ↦ ?_,
    fun es f hes hf ↦ ?_, fun flag ↦ rfl⟩
  · obtain ⟨base, hbase, hdir⟩ := Files.entries_eq_ok_iff.1 hes
    have hbelow : ∀ {loc x}, Node.at? loc (.dir es) = some x →
        w.files.root.at? (base ++ loc) = some x := by
      intro loc x hat
      rw [Node.at?_append, hdir]
      exact hat
    have hdistinct : Node.Distinct (.dir es) := fun loc es' hat ↦ hfiles.distinct (hbelow hat)
    have hnames : ∀ loc, (Node.at? loc (.dir es)).isSome → ∀ name ∈ loc, Path.IsName name := by
      intro loc hsome name hmem
      obtain ⟨x, hx⟩ := Option.isSome_iff_exists.1 hsome
      exact hfiles.names (Option.isSome_iff_exists.2 ⟨x, hbelow hx⟩) name
        (List.mem_append_right base hmem)
    have hpaths : ∀ loc es', loc ≠ [] → Node.at? loc (.dir es) = some (.dir es') →
        (pathTo (w.env.resolve root) loc).length ≤ Files.maxPath := by
      intro loc es' _ hat
      obtain ⟨entries, hentries⟩ := hreadable loc es' hat
      obtain ⟨place, hplace, -⟩ := Files.entries_eq_ok_iff.1 hentries
      exact (Files.locate_eq_ok_iff.1 (Files.find_eq_ok_iff.1 hplace)).2.2.1
    have hrun : (find.run [root, "-name".toList, pattern]).run.run w =
        (forM ((found g (.dir es)).map (shownAt root)) (writeLine findName)).run.run w := by
      rw [← searchEntries_eq g _ root es hdistinct hnames hpaths]
      exact (run_searchRoot w root pattern).trans (by rw [hes, hg])
    refine ⟨finds_found g hdistinct, hrun, fun s hsink haccepts ↦ ?_,
      fun loc content hat hlength ↦ ?_⟩
    · rw [hrun, run_forM_writeLine hsink haccepts]
    · have hsome : (Node.at? loc (.dir es)).isSome := Option.isSome_iff_exists.2 ⟨_, hat⟩
      have hplace := find_pathTo hbase hdir (hnames loc hsome) hat nofun hlength
      rw [Files.read, hplace]
      simp only [hbelow hat, Option.elim_some]
  · show (searchRoot root flag pattern).run.run w = _
    rw [searchRoot, if_pos hflag]
    rfl
  · exact (run_searchRoot w root pattern).trans (by rw [he])
  · exact (run_searchRoot w root pattern).trans (by rw [hes, hf])

/-- A directory with a link to itself in it, an empty directory, a name that is no text, and a root
with slashes at its end. -/
theorem find_lists_exactly_the_matching_files_linked :
    let name (t : String) : Name := Path.ofText t.toList
    let es : Entries :=
      .cons (name "a.c") (.file [])
      (.cons (name "b.c") (.dir
        (.cons [0xFF, 0x2E, 0x63] (.file [])
        (.cons (name "x") (.file [])
        (.cons (name "e") (.dir .nil) .nil))))
      (.cons (name "l.c") (.link (name "."))
      (.cons (name "z.c") (.file []) .nil)))
    let files : Files := ⟨.dir (.cons (name "d") (.dir es) .nil)⟩
    let w : World := ⟨{ workingDir := [Path.slash] }, files, none, .sink .fresh⟩
    let root := "d//".toList
    let g : Glob := ⟨[.anySequence, .char '.', .char 'c']⟩
    let lines := ["d/a.c", "d/b.c/\uFFFD.c", "d/z.c"].map String.toList
    w.files.WellFormed ∧ w.files.entries (w.env.resolve root) = .ok es ∧
    Glob.read "*.c".toList = .ok g ∧ Readable w.files (w.env.resolve root) es ∧
    Finds g (.dir es) (found g (.dir es)) ∧
    (find.run [root, "-name".toList, "*.c".toList]).run.run w =
      (.ok (), w.withSink (Sink.fresh.append (Text.unlines lines).encode)) := by
  intro name es files w root g lines
  have hfiles : w.files.WellFormed := Files.wellFormed_of_root (by decide)
  have hes : w.files.entries (w.env.resolve root) = .ok es := by rfl
  have hg : Glob.read "*.c".toList = .ok g := by rfl
  have hdistinct : Node.Distinct (.dir es) :=
    fun loc es' hat ↦ hfiles.distinct (show files.root.at? (name "d" :: loc) = _ from hat)
  have hall : (Node.dir es).descendants.all (fun entry ↦ entry.2.casesOn (motive_1 := fun _ ↦ Bool)
      (fun _ ↦ true) (fun _ ↦ true)
      fun _ ↦ (w.files.entries (pathTo (w.env.resolve root) entry.1)).isOk) = true := by
    decide +kernel
  have hreadable : Readable w.files (w.env.resolve root) es := by
    intro loc es' hat
    by_cases hloc : loc = []
    · exact ⟨es, hloc ▸ hes⟩
    · have hmem := (Node.mem_descendants_iff _ hdistinct loc _).2 ⟨hloc, hat⟩
      have hok : (w.files.entries (pathTo (w.env.resolve root) loc)).isOk = true :=
        List.all_eq_true.1 hall _ hmem
      cases hentries : w.files.entries (pathTo (w.env.resolve root) loc) with
      | ok entries => exact ⟨entries, rfl⟩
      | error e =>
        rw [hentries] at hok
        cases hok
  obtain ⟨hfinds, -⟩ := find_lists_exactly_the_matching_files w hfiles root "*.c".toList
  obtain ⟨hplaces, -, hwritten, -⟩ := hfinds g es hes hg hreadable
  have hlines : (found g (.dir es)).map (shownAt root) = lines := by decide +kernel
  have hrun := hwritten .fresh rfl rfl
  rw [hlines] at hrun
  exact ⟨hfiles, hes, hg, hreadable, hplaces, hrun⟩

end Application

end LineShell
