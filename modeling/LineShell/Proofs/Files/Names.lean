import LineShell.Proofs.Files.Frame
import LineShell.Proofs.Text.Decoding

/-!
# Names and well-formed trees

A path can only lead to an entry by a **name**: not every byte string is one, since `/` separates
names, `.` and `..` mean something else, and the operating system bounds the length. The tree of a
real file system has no other entries, nor two of one name in a directory, and no link in it has a
target that could not be written as a path. Nothing in the type of trees says so, and
`Files.WellFormed` does. It is a property of every location; `Node.wellFormed` decides it by one
pass over the tree.

The components of a path hold no slash, and the canonical path of a location has the names of the
location as its components.
-/

namespace LineShell

/-! ### Components -/

namespace Path

/-- A name that a directory entry can have. -/
structure IsName (name : Name) : Prop where
  ne_nil : name ≠ []
  slash_not_mem : slash ∉ name
  zero_not_mem : 0 ∉ name
  ne_here : name ≠ here
  ne_parent : name ≠ parent
  length_le : name.length ≤ Files.maxName

instance (name : Name) : Decidable (IsName name) :=
  decidable_of_iff
    (name ≠ [] ∧ slash ∉ name ∧ 0 ∉ name ∧ name ≠ here ∧ name ≠ parent ∧
      name.length ≤ Files.maxName)
    ⟨fun ⟨h₁, h₂, h₃, h₄, h₅, h₆⟩ ↦ ⟨h₁, h₂, h₃, h₄, h₅, h₆⟩,
      fun ⟨h₁, h₂, h₃, h₄, h₅, h₆⟩ ↦ ⟨h₁, h₂, h₃, h₄, h₅, h₆⟩⟩

variable {name c : Name} {p : Path} {b : UInt8}

/-- The components of a path are made of its bytes. -/
theorem mem_of_mem_componentsFrom (hc : c ∈ componentsFrom name p) (hb : b ∈ c) :
    b ∈ name ∨ b ∈ p := by
  fun_induction componentsFrom name p with
  | case1 name =>
    rw [List.mem_singleton] at hc
    exact Or.inl (hc ▸ hb)
  | case2 rest ih => exact Or.inr (List.mem_cons_of_mem _ ((ih hc).resolve_left List.not_mem_nil))
  | case3 name rest hname ih =>
    rcases List.mem_cons.1 hc with rfl | hc
    · exact Or.inl hb
    · exact Or.inr (List.mem_cons_of_mem _ ((ih hc).resolve_left List.not_mem_nil))
  | case4 name b' rest hb' ih =>
    rcases ih hc with hmem | hmem
    · rcases List.mem_append.1 hmem with hmem | hmem
      · exact Or.inl hmem
      · exact Or.inr (List.mem_cons.2 (Or.inl (List.mem_singleton.1 hmem)))
    · exact Or.inr (List.mem_cons_of_mem _ hmem)

theorem mem_of_mem_components (hc : c ∈ components p) (hb : b ∈ c) : b ∈ p :=
  (mem_of_mem_componentsFrom hc hb).resolve_left List.not_mem_nil

theorem slash_not_mem_of_mem_componentsFrom (hname : slash ∉ name)
    (hc : c ∈ componentsFrom name p) : slash ∉ c := by
  fun_induction componentsFrom name p with
  | case1 name =>
    rw [List.mem_singleton] at hc
    exact hc ▸ hname
  | case2 rest ih => exact ih List.not_mem_nil hc
  | case3 name rest _ ih =>
    rcases List.mem_cons.1 hc with rfl | hc
    · exact hname
    · exact ih List.not_mem_nil hc
  | case4 name b' rest hb' ih =>
    refine ih (fun hmem ↦ ?_) hc
    rcases List.mem_append.1 hmem with hmem | hmem
    · exact hname hmem
    · exact hb' (List.mem_singleton.1 hmem).symm

/-- A component holds no slash. -/
theorem slash_not_mem_of_mem_components (hc : c ∈ components p) : slash ∉ c :=
  slash_not_mem_of_mem_componentsFrom List.not_mem_nil hc

/-- Bytes other than a slash go to the name in progress. -/
theorem componentsFrom_append {more : Bytes} (hmore : slash ∉ more) (name : Name) (p : Path) :
    componentsFrom name (more ++ p) = componentsFrom (name ++ more) p := by
  induction more generalizing name with
  | nil => rw [List.nil_append, List.append_nil]
  | cons b rest ih =>
    obtain ⟨hb, hrest⟩ := not_or.1 fun hor ↦ hmore (List.mem_cons.2 hor)
    rw [List.cons_append, componentsFrom, if_neg (Ne.symm hb), ih hrest, List.append_assoc,
      List.singleton_append]

/-- A path that goes on with names behind slashes. -/
theorem componentsFrom_flatMap {names : List Name} (hname : name ≠ [])
    (hnames : ∀ n ∈ names, IsName n) :
    componentsFrom name (names.flatMap (slash :: ·)) = name :: names := by
  induction names generalizing name with
  | nil => rfl
  | cons n rest ih =>
    obtain ⟨hn, hrest⟩ := List.forall_mem_cons.1 hnames
    rw [List.flatMap_cons, List.cons_append, componentsFrom, if_pos rfl, if_neg hname,
      componentsFrom_append hn.slash_not_mem, List.nil_append, ih hn.ne_nil hrest]

theorem components_ofLocation_cons {n : Name} {names : List Name}
    (hnames : ∀ n' ∈ n :: names, IsName n') :
    components (ofLocation (n :: names)) = n :: names := by
  obtain ⟨hn, hrest⟩ := List.forall_mem_cons.1 hnames
  show componentsFrom [] (slash :: n ++ names.flatMap (slash :: ·)) = _
  rw [List.cons_append, componentsFrom, if_pos rfl, if_pos rfl,
    componentsFrom_append hn.slash_not_mem, List.nil_append, componentsFrom_flatMap hn.ne_nil hrest]

theorem zero_not_mem_ofLocation {loc : Location} (h : ∀ name ∈ loc, IsName name) :
    0 ∉ ofLocation loc := by
  cases loc with
  | nil => decide
  | cons n names =>
    intro hmem
    obtain ⟨name, hname, hzero⟩ := List.mem_flatMap.1 hmem
    rcases List.mem_cons.1 hzero with hslash | hzero
    · exact absurd hslash (by decide)
    · exact (h name hname).zero_not_mem hzero

/-- Only a slash is written with the byte of one. -/
theorem slash_mem_encodeChar {c : Char} (h : slash ∈ Utf8.encodeChar c) : c = '/' :=
  Char.toNat_inj.1 (Utf8.toNat_eq_of_mem_encodeChar h (by decide))

theorem slash_mem_ofText_iff {t : Text} : slash ∈ ofText t ↔ '/' ∈ t := by
  rw [ofText, Text.encode, List.mem_flatMap]
  constructor
  · rintro ⟨c, hc, hslash⟩
    exact slash_mem_encodeChar hslash ▸ hc
  · exact fun h ↦ ⟨'/', h, by decide⟩

theorem ofText_append (t u : Text) : ofText (t ++ u) = ofText t ++ ofText u :=
  Text.encode_append t u

theorem ofText_eq_nil_iff {t : Text} : ofText t = [] ↔ t = [] := Text.encode_eq_nil_iff

theorem isAbsolute_of_slash_not_mem (h : slash ∉ p) : isAbsolute p = false := by
  rw [isAbsolute, beq_eq_false_iff_ne]
  exact fun hhead ↦ h (List.mem_of_head? hhead)

/-- A text writes an absolute path if it begins with a slash. -/
theorem isAbsolute_ofText_iff {t : Text} : isAbsolute (ofText t) = true ↔ t.head? = some '/' := by
  cases t with
  | nil => decide
  | cons c rest =>
    have hchar : Utf8.encodeChar c ≠ [] := by
      intro h
      have hnil : ofText [c] = [] := by
        rw [ofText, Text.encode, List.flatMap_cons, h]
        rfl
      exact absurd (ofText_eq_nil_iff.1 hnil) (List.cons_ne_nil c [])
    obtain ⟨b, bytes, hbytes⟩ := List.exists_cons_of_ne_nil hchar
    have hpath : ofText (c :: rest) = b :: (bytes ++ ofText rest) := by
      rw [ofText, Text.encode, List.flatMap_cons, hbytes]
      rfl
    rw [hpath, isAbsolute, List.head?_cons, List.head?_cons, beq_iff_eq, Option.some_inj,
      Option.some_inj]
    constructor
    · rintro rfl
      exact slash_mem_encodeChar (hbytes ▸ List.mem_cons_self)
    · rintro rfl
      exact (List.cons.inj (hbytes.symm.trans (show Utf8.encodeChar '/' = [slash] by decide))).1

theorem isAbsolute_ofLocation (loc : Location) : isAbsolute (ofLocation loc) = true := by
  cases loc with
  | nil => rfl
  | cons n names => rfl

end Path

/-! ### Names of entries -/

namespace Entries

variable {name : Name} {es : Entries}

theorem names_cons (n : Name) (node : Node) (rest : Entries) :
    (cons n node rest).names = n :: rest.names := rfl

/-- The names are those that are found. -/
theorem mem_names_iff : name ∈ es.names ↔ (es.find? name).isSome := by
  induction es using Entries.rec (motive_1 := fun _ ↦ True) with
  | nil => exact ⟨fun h ↦ absurd h List.not_mem_nil, fun h ↦ absurd h Bool.false_ne_true⟩
  | cons n node rest _ ih =>
    rw [names_cons, List.mem_cons, ih, find?]
    by_cases h : n = name
    · rw [if_pos h]
      exact ⟨fun _ ↦ rfl, fun _ ↦ Or.inl h.symm⟩
    · rw [if_neg h]
      exact ⟨fun hor ↦ hor.resolve_left (Ne.symm h), Or.inr⟩
  | _ => trivial

end Entries

/-! ### Well-formed trees -/

namespace Files

/-- Every entry has a name, and links have targets that are paths. -/
structure WellNamed (files : Files) : Prop where
  names : ∀ {loc}, (files.root.at? loc).isSome → ∀ name ∈ loc, Path.IsName name
  targets : ∀ {loc target}, files.root.at? loc = some (.link target) → 0 ∉ target

/-- Every entry has a name that no other entry of its directory has. -/
structure WellFormed (files : Files) : Prop extends WellNamed files where
  distinct : ∀ {loc es}, files.root.at? loc = some (.dir es) → es.names.Nodup

variable {files files' : Files} {loc : Location}

/-- Changing a file, or making one under a name, leaves a tree well-named. -/
theorem WellNamed.of_changedAt (h : files.WellNamed) (hchanged : ChangedAt [loc] files files')
    (hloc : ∀ name ∈ loc, Path.IsName name) : files'.WellNamed where
  names {loc'} hsome := by
    cases hold : files.root.at? loc' with
    | some node => exact h.names (Option.isSome_iff_exists.2 ⟨_, hold⟩)
    | none =>
      obtain ⟨node, hnode⟩ := Option.isSome_iff_exists.1 hsome
      obtain ⟨hmem, -⟩ := hchanged.fresh hold hnode
      rwa [List.mem_singleton.1 hmem]
  targets {loc' target} hlink := by
    cases hold : files.root.at? loc' with
    | none =>
      obtain ⟨-, content, hfile⟩ := hchanged.fresh hold hlink
      cases hfile
    | some node =>
      cases node with
      | file content =>
        obtain ⟨content', hfile, -⟩ := hchanged.file hold
        cases hlink.symm.trans hfile
      | link target' =>
        cases hlink.symm.trans (hchanged.link hold)
        exact h.targets hold
      | dir es =>
        obtain ⟨es', hdir⟩ := hchanged.dir hold
        cases hlink.symm.trans hdir

theorem WellNamed.append (h : files.WellNamed) (loc : Location) (chunk : Bytes) :
    (files.append loc chunk).WellNamed := by
  cases hloc : files.root.at? loc with
  | none =>
    rw [Files.append, hloc]
    exact h
  | some node =>
    exact h.of_changedAt (changedAt_append files loc chunk)
      (h.names (Option.isSome_iff_exists.2 ⟨_, hloc⟩))

theorem WellNamed.appendAll (h : files.WellNamed) (loc : Location) (texts : List Text) :
    (files.appendAll loc texts).WellNamed := by
  induction texts generalizing files with
  | nil => exact h
  | cons t rest ih => exact ih (h.append loc t.encode)

end Files

/-! ### Deciding well-formedness -/

mutual

/-- Whether all below an entry is well-formed, the targets of links included. -/
def Node.wellFormed : Node → Bool
  | .file _ => true
  | .link target => decide (0 ∉ target)
  | .dir es => es.wellFormed

/-- Whether entries have distinct names and are well-formed. -/
def Entries.wellFormed : Entries → Bool
  | .nil => true
  | .cons name node rest =>
    decide (Path.IsName name) && decide (name ∉ rest.names) && node.wellFormed && rest.wellFormed

end

namespace Entries

variable {name : Name} {node : Node} {es : Entries}

/-- What the pass over a directory says of it. -/
theorem of_wellFormed (h : es.wellFormed = true) :
    es.names.Nodup ∧
      ∀ name node, es.find? name = some node → Path.IsName name ∧ node.wellFormed = true := by
  induction es using Entries.rec (motive_1 := fun _ ↦ True) with
  | nil => exact ⟨List.nodup_nil, nofun⟩
  | cons n child rest _ ih =>
    rw [wellFormed] at h
    simp only [Bool.and_eq_true, decide_eq_true_eq] at h
    obtain ⟨⟨⟨hname, hfresh⟩, hchild⟩, hrest⟩ := h
    obtain ⟨hnodup, hfound⟩ := ih hrest
    refine ⟨List.nodup_cons.2 ⟨hfresh, hnodup⟩, fun name node hfind ↦ ?_⟩
    rw [find?] at hfind
    split at hfind
    · next heq =>
      obtain rfl := Option.some.inj hfind
      exact ⟨heq ▸ hname, hchild⟩
    · exact hfound name node hfind
  | _ => trivial

end Entries

/-- What every entry of a directory has from the directory holds all the way to an entry. -/
theorem Node.along_of_at? {P : Node → Prop} {Q : Name → Prop}
    (hentry : ∀ {es : Entries} {name : Name} {child : Node}, P (.dir es) →
      es.find? name = some child → Q name ∧ P child)
    {n node : Node} {loc : Location} (h : P n) (hloc : n.at? loc = some node) :
    P node ∧ ∀ name ∈ loc, Q name := by
  induction loc generalizing n with
  | nil => exact ⟨Option.some.inj hloc ▸ h, nofun⟩
  | cons name rest ih =>
    cases n with
    | file content => cases hloc
    | link target => cases hloc
    | dir es =>
      obtain ⟨child, hfind, hchild⟩ := Option.bind_eq_some_iff.1 hloc
      obtain ⟨hname, hhere⟩ := hentry h hfind
      obtain ⟨hnode, hnames⟩ := ih hhere hchild
      exact ⟨hnode, List.forall_mem_cons.2 ⟨hname, hnames⟩⟩

theorem Node.wellFormed_of_at? {n node : Node} {loc : Location} (h : n.wellFormed = true)
    (hloc : n.at? loc = some node) :
    node.wellFormed = true ∧ ∀ name ∈ loc, Path.IsName name :=
  along_of_at? (P := (wellFormed · = true)) (fun hdir ↦ (Entries.of_wellFormed hdir).2 _ _) h hloc

/-- **The pass over the tree decides well-formedness.** -/
theorem Files.wellFormed_of_root {files : Files} (h : files.root.wellFormed = true) :
    files.WellFormed where
  names hsome := by
    obtain ⟨node, hnode⟩ := Option.isSome_iff_exists.1 hsome
    exact (Node.wellFormed_of_at? h hnode).2
  targets hlink := of_decide_eq_true (Node.wellFormed_of_at? h hlink).1
  distinct hdir := (Entries.of_wellFormed (Node.wellFormed_of_at? h hdir).1).1

end LineShell
