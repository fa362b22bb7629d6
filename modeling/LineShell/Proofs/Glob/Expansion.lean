import LineShell.Proofs.Files.Follow
import LineShell.Proofs.Glob.Matching
import LineShell.Proofs.Text.Decoding
import Mathlib.Data.List.Nodup

/-!
# What an argument with stars stands for

An argument is walked segment by segment, and where a segment has a star the walk forks: one branch
for each entry whose name comes from the segment. `Glob.Walk` says which lists of names are walks,
with no list of branches and no order; `Glob.walks` lists them. The two agree
(`Glob.mem_walks_iff`), the list is in the lexicographic order of the enumeration of the directories
(`Glob.pairwise_before_walks`), and the paths that are shown are the walks, joined
(`Glob.walk_eq`). So the expansion is sound, complete and without repetition
(`Glob.expand_eq_walks`).

The program carries the place that it reached and the path that it shows side by side. Seen from the
directory where the walk started, the shown path is the place (`Glob.resolve_shownAs`); this is why
a path whose last name was matched names an entry that exists.
-/

namespace LineShell

namespace Glob

/-! ### Walks -/

/-- The segments of an argument: what stands between its slashes, empty ones left out. -/
def segmentsOf (token : Text) : List Text := (Text.pieces '/' token).filter (! ·.isEmpty)

/-- The directory where the walk starts: the root for an argument that begins with a slash. -/
def startOf (dir : Path) (token : Text) : Path :=
  if token.head? = some '/' then [Path.slash] else dir

/-- The path that shows the names of a walk, relative or absolute like the argument. -/
def shownAs (token : Text) (names : List Text) : Text :=
  if token.head? = some '/' then '/' :: Text.join ['/'] names else Text.join ['/'] names

/-- The place that a walk over the names reaches. -/
def reached (start : Path) (names : List Text) : Path :=
  names.foldl (fun dir name ↦ Path.resolve dir (Path.ofText name)) start

/-- Walking the segments from a directory can lead over the names. A segment without a star is its
own name, whether or not there is an entry of that name. A segment with a star leads to the entries
of the directory whose names come from it; names that are no text are passed over. -/
inductive Walk (files : Files) : List Text → Path → List Text → Prop where
  | nil {dir : Path} : Walk files [] dir []
  | kept {segment : Text} {rest : List Text} {dir : Path} {names : List Text}
      (hstar : star ∉ segment)
      (hrest : Walk files rest (Path.resolve dir (Path.ofText segment)) names) :
      Walk files (segment :: rest) dir (segment :: names)
  | matched {segment name : Text} {rest : List Text} {dir : Path} {names : List Text}
      {es : Entries} (hstar : star ∈ segment) (hes : files.entries dir = .ok es)
      (hname : Path.ofText name ∈ es.names) (hfills : Fills segment name)
      (hrest : Walk files rest (Path.resolve dir (Path.ofText name)) names) :
      Walk files (segment :: rest) dir (name :: names)

/-- One walk comes before another: behind what they have in common, the directory lists the name
that the one goes on with in front of the name that the other goes on with. -/
def Before (files : Files) (start : Path) (names names' : List Text) : Prop :=
  ∃ front a b back back' es, names = front ++ a :: back ∧ names' = front ++ b :: back' ∧
    files.entries (reached start front) = .ok es ∧
    [Path.ofText a, Path.ofText b].Sublist es.names

variable {files : Files} {dir : Path} {segment name token : Text} {segments names names' : List Text}

theorem Before.cons
    (h : Before files (Path.resolve dir (Path.ofText name)) names names') :
    Before files dir (name :: names) (name :: names') := by
  obtain ⟨front, a, b, back, back', es, rfl, rfl, hes, hlisted⟩ := h
  exact ⟨name :: front, a, b, back, back', es, rfl, rfl, hes, hlisted⟩

/-- In a well-formed tree no walk comes before itself. -/
theorem Before.irrefl (hfiles : files.WellFormed) : ¬ Before files dir names names := by
  rintro ⟨front, a, b, back, back', es, heq, heq', hes, hlisted⟩
  obtain ⟨loc, -, hdir⟩ := Files.entries_eq_ok_iff.1 hes
  have hab : a = b := (List.cons.inj (List.append_cancel_left (heq.symm.trans heq'))).1
  subst hab
  exact List.nodup_iff_sublist.1 (hfiles.distinct hdir) _ hlisted

/-! ### Listing the walks -/

/-- All walks over the segments, in the order in which they are found. -/
def walks (files : Files) : List Text → Path → List (List Text)
  | [], _ => [[]]
  | segment :: rest, dir =>
    if star ∈ segment then
      (matchingNames files dir segment).flatMap fun name ↦
        (walks files rest (Path.resolve dir (Path.ofText name))).map (name :: ·)
    else (walks files rest (Path.resolve dir (Path.ofText segment))).map (segment :: ·)

/-- The names that a segment matches are the entries whose names come from it. -/
theorem mem_matchingNames_iff (hstars : ¬ [star, star] <:+: segment) :
    name ∈ matchingNames files dir segment ↔
      ∃ es, files.entries dir = .ok es ∧ Path.ofText name ∈ es.names ∧ Fills segment name := by
  obtain ⟨g, hg, hmatches⟩ := exists_ofSegment?_eq_some hstars
  rw [matchingNames, hg]
  cases files.entries dir with
  | error e => exact ⟨fun h ↦ absurd h List.not_mem_nil, fun ⟨_, h, _⟩ ↦ nomatch h⟩
  | ok es =>
    have hdecoded : name ∈ es.names.filterMap Utf8.decode? ↔ Path.ofText name ∈ es.names := by
      simp only [List.mem_filterMap, Utf8.decode?_eq_some_iff]
      constructor
      · rintro ⟨bytes, hmem, rfl⟩
        exact hmem
      · exact fun h ↦ ⟨_, h, rfl⟩
    dsimp only
    rw [List.mem_filter, hmatches, hdecoded]
    exact ⟨fun h ↦ ⟨es, rfl, h⟩, fun ⟨_, hes, h⟩ ↦ Except.ok.inj hes ▸ h⟩

/-- They keep the order of the directory. -/
theorem pairwise_matchingNames (files : Files) (dir : Path) (segment : Text) :
    (matchingNames files dir segment).Pairwise fun a b ↦ ∃ es, files.entries dir = .ok es ∧
      [Path.ofText a, Path.ofText b].Sublist es.names := by
  rw [matchingNames]
  split
  · next g es _ hes =>
    have hnames : es.names.Pairwise fun x y ↦ [x, y].Sublist es.names :=
      List.pairwise_iff_forall_sublist.2 id
    refine List.Pairwise.filter _ (hnames.filterMap _ fun x y hxy a ha b hb ↦ ?_)
    have hx : Path.ofText a = x := Utf8.encode_of_decode? ha
    have hy : Path.ofText b = y := Utf8.encode_of_decode? hb
    exact ⟨es, hes, hx ▸ hy ▸ hxy⟩
  · exact .nil

/-- **Every walk is listed, and nothing else.** -/
theorem mem_walks_iff (hstars : ∀ segment ∈ segments, ¬ [star, star] <:+: segment) :
    names ∈ walks files segments dir ↔ Walk files segments dir names := by
  induction segments generalizing dir names with
  | nil =>
    rw [walks, List.mem_singleton]
    constructor
    · rintro rfl
      exact .nil
    · intro h
      cases h
      rfl
  | cons segment rest ih =>
    obtain ⟨hsegment, hrest⟩ := List.forall_mem_cons.1 hstars
    have hih : ∀ {dir names}, names ∈ walks files rest dir ↔ Walk files rest dir names := ih hrest
    rw [walks]
    by_cases hstar : star ∈ segment
    · simp only [if_pos hstar, List.mem_flatMap, List.mem_map, mem_matchingNames_iff hsegment, hih]
      constructor
      · rintro ⟨name, ⟨es, hes, hname, hfills⟩, names, hwalk, rfl⟩
        exact .matched hstar hes hname hfills hwalk
      · intro h
        cases h with
        | kept hkept _ => exact absurd hstar hkept
        | matched _ hes hname hfills hwalk => exact ⟨_, ⟨_, hes, hname, hfills⟩, _, hwalk, rfl⟩
    · simp only [if_neg hstar, List.mem_map, hih]
      constructor
      · rintro ⟨names, hwalk, rfl⟩
        exact .kept hstar hwalk
      · intro h
        cases h with
        | kept _ hwalk => exact ⟨_, hwalk, rfl⟩
        | matched hmatched _ _ _ _ => exact absurd hmatched hstar

/-- **The walks are listed in the lexicographic order of the directories.** -/
theorem pairwise_before_walks (files : Files) (segments : List Text) (dir : Path) :
    (walks files segments dir).Pairwise (Before files dir) := by
  induction segments generalizing dir with
  | nil => exact List.pairwise_singleton _ _
  | cons segment rest ih =>
    have hbehind : ∀ name, ((walks files rest (Path.resolve dir (Path.ofText name))).map
        (name :: ·)).Pairwise (Before files dir) :=
      fun name ↦ List.pairwise_map.2 ((ih _).imp Before.cons)
    rw [walks]
    split
    · refine List.pairwise_flatMap.2 ⟨fun name _ ↦ hbehind name, ?_⟩
      refine (pairwise_matchingNames files dir segment).imp ?_
      rintro a b ⟨es, hes, hlisted⟩ _ hx _ hy
      obtain ⟨back, -, rfl⟩ := List.mem_map.1 hx
      obtain ⟨back', -, rfl⟩ := List.mem_map.1 hy
      exact ⟨[], a, b, back, back', es, rfl, rfl, hes, hlisted⟩
    · exact hbehind segment

theorem nodup_walks (hfiles : files.WellFormed) (segments : List Text) (dir : Path) :
    (walks files segments dir).Nodup := by
  refine (pairwise_before_walks files segments dir).imp ?_
  rintro names _ h rfl
  exact Before.irrefl hfiles h

/-! ### What is shown -/

/-- A text that a walk can lead over: not empty, and with no slash. -/
structure IsSegment (t : Text) : Prop where
  ne_nil : t ≠ []
  slash_not_mem : '/' ∉ t

theorem isSegment_of_mem_segmentsOf (h : segment ∈ segmentsOf token) : IsSegment segment := by
  obtain ⟨hpiece, hne⟩ := List.mem_filter.1 h
  exact ⟨by simpa using hne, Text.not_mem_of_mem_pieces hpiece⟩

/-- In a well-named tree a walk leads over segments. -/
theorem Walk.isSegment (hfiles : files.WellNamed) (hsegments : ∀ t ∈ segments, IsSegment t)
    (h : Walk files segments dir names) : ∀ name ∈ names, IsSegment name := by
  induction h with
  | nil => exact nofun
  | kept _ _ ih =>
    obtain ⟨hsegment, hrest⟩ := List.forall_mem_cons.1 hsegments
    exact List.forall_mem_cons.2 ⟨hsegment, ih hrest⟩
  | @matched _ name _ _ _ es _ hes hname _ _ ih =>
    refine List.forall_mem_cons.2 ⟨?_, ih (List.forall_mem_cons.1 hsegments).2⟩
    obtain ⟨loc, -, hdir⟩ := Files.entries_eq_ok_iff.1 hes
    have hsome : (files.root.at? (loc ++ [Path.ofText name])).isSome := by
      rw [Node.at?_concat_of_dir hdir]
      exact Entries.mem_names_iff.1 hname
    have hproper : Path.IsName (Path.ofText name) :=
      hfiles.names hsome _ (List.mem_append_right _ (List.mem_singleton.2 rfl))
    exact ⟨fun h ↦ hproper.ne_nil (Path.ofText_eq_nil_iff.2 h),
      fun h ↦ hproper.slash_not_mem (Path.slash_mem_ofText_iff.2 h)⟩

theorem join_cons (sep : Char) (t : Text) (rest : List Text) :
    Text.join [sep] (t :: rest) = t ++ rest.flatMap (sep :: ·) := by
  induction rest generalizing t with
  | nil => rw [Text.join, List.flatMap_nil, List.append_nil]
  | cons u rest ih =>
    rw [Text.join, ih u, List.flatMap_cons]
    · simp
    · exact List.cons_ne_nil u rest

/-- The segments of joined segments are these segments. -/
theorem segmentsOf_join (h : ∀ name ∈ names, IsSegment name) :
    segmentsOf (Text.join ['/'] names) = names := by
  have hpieces : ∀ t rest, (∀ name ∈ t :: rest, IsSegment name) →
      Text.pieces '/' (t ++ rest.flatMap ('/' :: ·)) = t :: rest := by
    intro t rest
    induction rest generalizing t with
    | nil =>
      intro hall
      rw [List.flatMap_nil, List.append_nil]
      exact Text.pieces_of_not_mem (hall t List.mem_cons_self).slash_not_mem
    | cons u rest ih =>
      intro hall
      obtain ⟨ht, hrest⟩ := List.forall_mem_cons.1 hall
      rw [List.flatMap_cons, List.cons_append, Text.pieces_append_cons ht.slash_not_mem, ih u hrest]
  cases names with
  | nil => rfl
  | cons t rest =>
    rw [segmentsOf, join_cons, hpieces t rest h, List.filter_eq_self]
    exact fun name hname ↦ by simpa using (h name hname).ne_nil

/-- The path that is shown tells the walk. -/
theorem shownAs_injective (h : ∀ name ∈ names, IsSegment name)
    (h' : ∀ name ∈ names', IsSegment name) (heq : shownAs token names = shownAs token names') :
    names = names' := by
  have hjoin : Text.join ['/'] names = Text.join ['/'] names' := by
    rw [shownAs, shownAs] at heq
    split at heq
    · exact (List.cons.inj heq).2
    · exact heq
  rw [← segmentsOf_join h, hjoin, segmentsOf_join h']

/-- Joining segment by segment puts a slash in front of each, once there is something that does not
end in one. -/
theorem foldl_joinShown (h : ∀ name ∈ names, IsSegment name) {shown : Text} (hne : shown ≠ [])
    (hlast : shown.getLast? ≠ some '/') :
    names.foldl joinShown shown = shown ++ names.flatMap ('/' :: ·) := by
  induction names generalizing shown with
  | nil => rw [List.foldl_nil, List.flatMap_nil, List.append_nil]
  | cons name rest ih =>
    obtain ⟨hname, hrest⟩ := List.forall_mem_cons.1 h
    have hnext : joinShown shown name = shown ++ '/' :: name := by
      rw [joinShown, if_neg hne, if_neg hlast]
    have hlast' : (shown ++ '/' :: name).getLast? ≠ some '/' := by
      rw [List.getLast?_append_of_ne_nil _ (List.cons_ne_nil _ _),
        List.getLast?_cons_of_ne_nil hname.ne_nil]
      exact fun hslash ↦ hname.slash_not_mem (List.mem_of_getLast? hslash)
    rw [List.foldl_cons, hnext, ih hrest (by simp) hlast', List.flatMap_cons, List.append_assoc]

/-- What is shown in the end, for an argument of the one shape or the other. -/
theorem foldl_joinShown_eq_shownAs (h : ∀ name ∈ names, IsSegment name) (token : Text) :
    names.foldl joinShown (if token.head? = some '/' then ['/'] else []) = shownAs token names := by
  cases names with
  | nil =>
    rw [List.foldl_nil, shownAs]
    rfl
  | cons name rest =>
    obtain ⟨hname, hrest⟩ := List.forall_mem_cons.1 h
    have hlast : name.getLast? ≠ some '/' :=
      fun hslash ↦ hname.slash_not_mem (List.mem_of_getLast? hslash)
    rw [List.foldl_cons, shownAs, join_cons]
    split
    · show rest.foldl joinShown ('/' :: name) = _
      rw [foldl_joinShown hrest (List.cons_ne_nil _ _) ?_, List.cons_append]
      rwa [List.getLast?_cons_of_ne_nil hname.ne_nil]
    · show rest.foldl joinShown name = _
      rw [foldl_joinShown hrest hname.ne_nil hlast]

/-- **The paths that are shown are the walks.** -/
theorem walk_eq (files : Files) (segments : List Text) (dir : Path) (shown : Text) :
    walk files segments dir shown =
      (walks files (segments.filter (! ·.isEmpty)) dir).map (·.foldl joinShown shown) := by
  induction segments generalizing dir shown with
  | nil => rfl
  | cons segment rest ih =>
    rw [walk]
    by_cases hempty : segment = []
    · rw [if_pos hempty, ih, hempty]
      rfl
    · have hkeep : (segment :: rest).filter (! ·.isEmpty) =
          segment :: rest.filter (! ·.isEmpty) :=
        List.filter_cons_of_pos (by simpa using hempty)
      rw [if_neg hempty, hkeep, walks]
      split
      · rw [List.map_flatMap]
        refine congrArg (List.flatMap · _) (funext fun name ↦ ?_)
        rw [ih, List.map_map]
        rfl
      · rw [ih, List.map_map]
        rfl

theorem expand_eq (files : Files) (dir : Path) (token : Text) :
    expand files dir token =
      let found := (walks files (segmentsOf token) (startOf dir token)).map
        (·.foldl joinShown (if token.head? = some '/' then ['/'] else []))
      if found = [] then [token] else found := by
  by_cases habsolute : token.head? = some '/'
  · obtain ⟨rest, rfl⟩ := List.head?_eq_some_iff.1 habsolute
    simp only [expand, walk_eq]
    rfl
  · rw [startOf, if_neg habsolute, if_neg habsolute, segmentsOf, ← walk_eq]
    rw [expand]
    rintro rest rfl
    exact habsolute rfl

/-- **An argument stands for its walks**, or for itself if there are none. -/
theorem expand_eq_walks (hfiles : files.WellNamed)
    (hstars : ∀ segment ∈ segmentsOf token, ¬ [star, star] <:+: segment) (dir : Path) :
    expand files dir token =
      if walks files (segmentsOf token) (startOf dir token) = [] then [token]
      else (walks files (segmentsOf token) (startOf dir token)).map (shownAs token) := by
  have hshown : ∀ names ∈ walks files (segmentsOf token) (startOf dir token),
      names.foldl joinShown (if token.head? = some '/' then ['/'] else []) =
        shownAs token names := by
    intro names hnames
    have hwalk := (mem_walks_iff hstars).1 hnames
    exact foldl_joinShown_eq_shownAs (hwalk.isSegment hfiles fun _ ↦ isSegment_of_mem_segmentsOf) _
  rw [expand_eq, List.map_congr_left hshown]
  simp only [List.map_eq_nil_iff]

/-! ### The place and the path that shows it -/

/-- Names behind a path that does not end in a slash. -/
theorem reached_eq {p : Path} (h : ∀ name ∈ names, IsSegment name) (hne : p ≠ [])
    (hlast : p.getLast? ≠ some Path.slash) :
    reached p names = p ++ Path.ofText (names.flatMap ('/' :: ·)) := by
  induction names generalizing p with
  | nil =>
    rw [List.flatMap_nil]
    exact (List.append_nil p).symm
  | cons name rest ih =>
    obtain ⟨hname, hrest⟩ := List.forall_mem_cons.1 h
    have hslash : Path.slash ∉ Path.ofText name :=
      fun hmem ↦ hname.slash_not_mem (Path.slash_mem_ofText_iff.1 hmem)
    have hbytes : Path.ofText name ≠ [] := fun hnil ↦ hname.ne_nil (Path.ofText_eq_nil_iff.1 hnil)
    have hnext : Path.resolve p (Path.ofText name) = p ++ Path.ofText ('/' :: name) := by
      rw [Path.resolve, Path.isAbsolute_of_slash_not_mem hslash, if_neg Bool.false_ne_true,
        Path.withSlash, if_neg (not_or.2 ⟨hne, hlast⟩), List.append_assoc]
      rfl
    have hlast' : (p ++ Path.ofText ('/' :: name)).getLast? ≠ some Path.slash := by
      have hcons : Path.ofText ('/' :: name) = Path.slash :: Path.ofText name := rfl
      rw [hcons, List.getLast?_append_of_ne_nil _ (List.cons_ne_nil _ _),
        List.getLast?_cons_of_ne_nil hbytes]
      exact fun hmem ↦ hslash (List.mem_of_getLast? hmem)
    show reached (Path.resolve p (Path.ofText name)) rest = _
    rw [hnext, ih hrest (List.append_ne_nil_of_left_ne_nil hne _) hlast', List.flatMap_cons,
      Path.ofText_append, List.append_assoc]

/-- **The place and the path that shows it stay in step**: seen from the directory where the walk
started, the one is the other. -/
theorem resolve_shownAs (h : ∀ name ∈ names, IsSegment name) (hne : names ≠ []) (dir : Path)
    (token : Text) :
    Path.resolve dir (Path.ofText (shownAs token names)) = reached (startOf dir token) names := by
  obtain ⟨name, rest, rfl⟩ := List.exists_cons_of_ne_nil hne
  obtain ⟨hname, hrest⟩ := List.forall_mem_cons.1 h
  have hslash : Path.slash ∉ Path.ofText name :=
    fun hmem ↦ hname.slash_not_mem (Path.slash_mem_ofText_iff.1 hmem)
  have hbytes : Path.ofText name ≠ [] := fun hnil ↦ hname.ne_nil (Path.ofText_eq_nil_iff.1 hnil)
  have hreached : ∀ start, reached start (name :: rest) =
      Path.withSlash start ++ Path.ofText (Text.join ['/'] (name :: rest)) := by
    intro start
    have hfirst : Path.resolve start (Path.ofText name) =
        Path.withSlash start ++ Path.ofText name := by
      rw [Path.resolve, Path.isAbsolute_of_slash_not_mem hslash, if_neg Bool.false_ne_true]
    have hlast : (Path.withSlash start ++ Path.ofText name).getLast? ≠ some Path.slash := by
      rw [List.getLast?_append_of_ne_nil _ hbytes]
      exact fun hmem ↦ hslash (List.mem_of_getLast? hmem)
    show reached (Path.resolve start (Path.ofText name)) rest = _
    rw [hfirst, reached_eq hrest (List.append_ne_nil_of_right_ne_nil _ hbytes) hlast, join_cons,
      Path.ofText_append, List.append_assoc]
  rw [hreached, shownAs, startOf, Path.resolve]
  split
  · rw [if_pos (Path.isAbsolute_ofText_iff.2 rfl)]
    rfl
  · have hrelative : ¬ Path.isAbsolute (Path.ofText (Text.join ['/'] (name :: rest))) = true := by
      rw [Path.isAbsolute_ofText_iff, join_cons, List.head?_append_of_ne_nil _ hname.ne_nil]
      exact fun hhead ↦ hname.slash_not_mem (List.mem_of_head? hhead)
    rw [if_neg hrelative]

/-- What is shown is relative or absolute as the argument is. -/
theorem isAbsolute_shownAs (h : ∀ name ∈ names, IsSegment name) (token : Text) :
    Path.isAbsolute (Path.ofText (shownAs token names)) = Path.isAbsolute (Path.ofText token) := by
  rw [Bool.eq_iff_iff, Path.isAbsolute_ofText_iff, Path.isAbsolute_ofText_iff, shownAs]
  split
  · next habsolute => exact iff_of_true rfl habsolute
  · next hrelative =>
    refine iff_of_false ?_ hrelative
    cases names with
    | nil => exact nofun
    | cons name rest =>
      have hname := h name List.mem_cons_self
      rw [join_cons, List.head?_append_of_ne_nil _ hname.ne_nil]
      exact fun hhead ↦ hname.slash_not_mem (List.mem_of_head? hhead)

/-- A walk whose last name was matched reaches an entry that exists. -/
theorem Walk.names_reached (h : Walk files segments dir names)
    (hlast : segments.getLast? = some segment) (hstar : star ∈ segment) :
    files.Names (reached dir names) := by
  induction h with
  | nil => cases hlast
  | @kept t rest dir names hkept hwalk ih =>
    cases rest with
    | nil =>
      obtain rfl : t = segment := Option.some.inj hlast
      exact absurd hstar hkept
    | cons t' rest => exact ih hlast
  | @matched t name rest dir names es hstar' hes hname _ hwalk ih =>
    cases rest with
    | nil =>
      cases hwalk
      exact ⟨dir, es, _, rfl, hes, hname⟩
    | cons t' rest => exact ih hlast

/-! ### The expansion -/

/-- **Expansion is sound, complete and without repetition.** In a well-formed tree, seen from any
directory, an argument whose segments have no two stars side by side stands for its walks: for all
of them, in the lexicographic order in which the directories list their names, each shown once; and
for itself if there is no walk. What is shown for a walk is relative or absolute like the argument,
it is the place that the walk reached, seen from the directory, and if the last segment has a star,
it names an entry that exists. -/
theorem expand_sound_and_complete (files : Files) (hfiles : files.WellFormed) (dir : Path)
    (token : Text) (hstars : ∀ segment ∈ segmentsOf token, ¬ [star, star] <:+: segment) :
    let IsWalk := Walk files (segmentsOf token) (startOf dir token)
    (∃ found : List (List Text),
      (∀ names, names ∈ found ↔ IsWalk names) ∧
      found.Pairwise (Before files (startOf dir token)) ∧
      ((∃ names, IsWalk names) → expand files dir token = found.map (shownAs token)) ∧
      ((¬ ∃ names, IsWalk names) → expand files dir token = [token])) ∧
    (expand files dir token).Nodup ∧
    ∀ names, IsWalk names →
      Path.isAbsolute (Path.ofText (shownAs token names)) =
        Path.isAbsolute (Path.ofText token) ∧
      (names ≠ [] → Path.resolve dir (Path.ofText (shownAs token names)) =
        reached (startOf dir token) names) ∧
      ∀ segment, (segmentsOf token).getLast? = some segment → star ∈ segment →
        files.Names (Path.resolve dir (Path.ofText (shownAs token names))) := by
  intro IsWalk
  have hmem : ∀ names, names ∈ walks files (segmentsOf token) (startOf dir token) ↔ IsWalk names :=
    fun names ↦ mem_walks_iff hstars
  have hsegment : ∀ names, IsWalk names → ∀ name ∈ names, IsSegment name :=
    fun names h ↦ h.isSegment hfiles.toWellNamed fun _ ↦ isSegment_of_mem_segmentsOf
  have hexpand := expand_eq_walks hfiles.toWellNamed hstars dir
  refine ⟨⟨_, hmem, pairwise_before_walks _ _ _, ?_, ?_⟩, ?_, fun names h ↦ ⟨?_, ?_, ?_⟩⟩
  · rintro ⟨names, h⟩
    rw [hexpand, if_neg (List.ne_nil_of_mem ((hmem names).2 h))]
  · intro hnone
    rw [hexpand, if_pos (List.eq_nil_iff_forall_not_mem.2 fun names h ↦
      hnone ⟨names, (hmem names).1 h⟩)]
  · rw [hexpand]
    split
    · exact List.nodup_singleton token
    · refine List.Nodup.map_on (fun names hnames names' hnames' heq ↦ ?_) (nodup_walks hfiles _ _)
      exact shownAs_injective (hsegment _ ((hmem _).1 hnames)) (hsegment _ ((hmem _).1 hnames')) heq
  · exact isAbsolute_shownAs (hsegment names h) token
  · exact fun hne ↦ resolve_shownAs (hsegment names h) hne dir token
  · intro segment hlast hstar
    have hne : names ≠ [] := by
      rintro rfl
      obtain ⟨front, hsegments⟩ := List.getLast?_eq_some_iff.1 hlast
      rw [show IsWalk = Walk files (segmentsOf token) _ from rfl, hsegments] at h
      cases front <;> cases h
    rw [resolve_shownAs (hsegment names h) hne dir token]
    exact h.names_reached hlast hstar

/-- A directory, a link to it, and one whose name is no text. -/
theorem expand_sound_and_complete_linked :
    let name (t : String) : Name := Path.ofText t.toList
    let files : Files := ⟨.dir
      (.cons (name "a") (.dir (.cons (name "x.c") (.file []) (.cons (name "y") (.file []) .nil)))
      (.cons (name "b") (.link (name "a"))
      (.cons (name "c") (.file [])
      (.cons [0xFF] (.dir (.cons (name "z.c") (.file []) .nil)) .nil))))⟩
    let token := "*//*.c".toList
    let dir := [Path.slash]
    files.WellFormed ∧ (∀ segment ∈ segmentsOf token, ¬ [star, star] <:+: segment) ∧
    expand files dir token = ["a/x.c".toList, "b/x.c".toList] ∧
    (expand files dir token).Nodup ∧
    ∃ found : List (List Text),
      (∀ names, names ∈ found ↔ Walk files (segmentsOf token) (startOf dir token) names) ∧
      found.Pairwise (Before files (startOf dir token)) := by
  intro name files token dir
  have hfiles : files.WellFormed := Files.wellFormed_of_root (by decide)
  have hstars : ∀ segment ∈ segmentsOf token, ¬ [star, star] <:+: segment := by decide
  obtain ⟨⟨found, hmem, hordered, -⟩, hnodup, -⟩ :=
    expand_sound_and_complete files hfiles dir token hstars
  exact ⟨hfiles, hstars, by decide +kernel, hnodup, found, hmem, hordered⟩

end Glob

end LineShell
