import LineShell.Proofs.Files.Names

/-!
# What is below a directory

`Node.descendants` lists everything below a directory, by the names that lead there. It lists what
can be reached through directories only, since nothing is below a link
(`Node.mem_descendants_iff`), and in preorder: an entry stands in front of what is below it, and of
two entries that part at some directory the one is listed first whose name comes first there
(`Node.pairwise_precedes`). If no directory has two entries of one name, that order is strict, so
nothing is listed twice.
-/

namespace LineShell

namespace Node

/-- No directory has two entries of one name. -/
def Distinct (n : Node) : Prop := ∀ loc es, n.at? loc = some (.dir es) → es.names.Nodup

/-- The first place comes before the second in the order of an enumeration in depth. -/
inductive Precedes (n : Node) : Location → Location → Prop where
  /-- A directory comes before what is below it. -/
  | above {loc more : Location} (hmore : more ≠ []) : Precedes n loc (loc ++ more)
  /-- The two part at a directory in which the name on the way to the first comes first. -/
  | beside {loc : Location} {es : Entries} {name name' : Name}
      (hdir : n.at? loc = some (.dir es)) (hnames : [name, name'].Sublist es.names)
      (more more' : Location) :
      Precedes n (loc ++ name :: more) (loc ++ name' :: more')

variable {n node x : Node} {name : Name} {loc loc' : Location} {es : Entries}

/-! ### One entry and the others -/

/-- A place below the entry of the given name. -/
def under (name : Name) (entry : Location × Node) : Location × Node := (name :: entry.1, entry.2)

theorem descendants_dir (es : Entries) : (dir es).descendants = es.descendantsFrom [] := rfl

mutual

theorem descendantsFrom_eq (loc : Location) (n : Node) :
    n.descendantsFrom loc = n.descendants.map fun entry ↦ (loc ++ entry.1, entry.2) := by
  cases n with
  | file content => rfl
  | link target => rfl
  | dir es => exact entries_descendantsFrom_eq loc es

theorem entries_descendantsFrom_eq (loc : Location) (es : Entries) :
    es.descendantsFrom loc = (dir es).descendants.map fun entry ↦ (loc ++ entry.1, entry.2) := by
  cases es with
  | nil => rfl
  | cons name node rest =>
    rw [Entries.descendantsFrom, descendantsFrom_eq (loc ++ [name]) node,
      entries_descendantsFrom_eq loc rest, descendants_dir (.cons name node rest),
      Entries.descendantsFrom, List.nil_append, descendantsFrom_eq [name] node, List.map_cons,
      List.map_append, List.map_map]
    simp [Function.comp_def, descendants_dir]

end

theorem descendants_dir_cons (name : Name) (node : Node) (rest : Entries) :
    (dir (.cons name node rest)).descendants =
      ([name], node) :: (node.descendants.map (under name) ++ (dir rest).descendants) := by
  rw [descendants, descendantsFrom, Entries.descendantsFrom, List.nil_append, descendantsFrom_eq]
  rfl

theorem at?_dir_cons_self (name : Name) (node : Node) (rest : Entries) (loc : Location) :
    at? (name :: loc) (dir (.cons name node rest)) = node.at? loc := by
  show ((Entries.cons name node rest).find? name).bind (at? loc) = _
  rw [Entries.find?, if_pos rfl]
  rfl

theorem at?_dir_cons_of_ne {first : Name} (h : first ≠ name) (node : Node) (rest : Entries)
    (loc : Location) :
    at? (first :: loc) (dir (.cons name node rest)) = at? (first :: loc) (dir rest) := by
  show ((Entries.cons name node rest).find? first).bind (at? loc) = _
  rw [Entries.find?, if_neg h.symm]
  rfl

theorem mem_names_of_at? (h : at? (name :: loc) (dir es) = some x) : name ∈ es.names := by
  obtain ⟨child, hfind, -⟩ := Option.bind_eq_some_iff.1 h
  exact Entries.mem_names_iff.2 (hfind ▸ rfl)

namespace Distinct

variable {siblings : Entries} (h : Distinct (.dir (.cons name node siblings)))

include h

theorem not_mem : name ∉ siblings.names := (List.nodup_cons.1 (h [] _ rfl)).1

theorem of_first : node.Distinct := fun loc es hdir ↦
  h (name :: loc) es ((at?_dir_cons_self name node siblings loc).trans hdir)

/-- A place below the other entries. -/
theorem at?_of_siblings {loc : Location} (hloc : loc ≠ [])
    (hsome : at? loc (dir siblings) = some x) : at? loc (dir (.cons name node siblings)) = some x := by
  obtain ⟨first, more, rfl⟩ := List.exists_cons_of_ne_nil hloc
  have hne : first ≠ name := fun heq ↦ h.not_mem (heq ▸ mem_names_of_at? hsome)
  rw [at?_dir_cons_of_ne hne, hsome]

theorem of_siblings : Distinct (.dir siblings) := by
  intro loc es hdir
  by_cases hloc : loc = []
  · subst hloc
    obtain rfl := Node.dir.inj (Option.some.inj hdir)
    exact (List.nodup_cons.1 (h [] _ rfl)).2
  · exact h loc es (h.at?_of_siblings hloc hdir)

end Distinct

/-! ### What is listed -/

mutual

/-- **What is listed is what can be reached through directories.** -/
theorem mem_descendants_iff (n : Node) (h : n.Distinct) (loc : Location) (x : Node) :
    (loc, x) ∈ n.descendants ↔ loc ≠ [] ∧ n.at? loc = some x := by
  cases n with
  | file content =>
    refine iff_of_false List.not_mem_nil fun ⟨hne, hat⟩ ↦ ?_
    obtain ⟨first, more, rfl⟩ := List.exists_cons_of_ne_nil hne
    cases hat
  | link target =>
    refine iff_of_false List.not_mem_nil fun ⟨hne, hat⟩ ↦ ?_
    obtain ⟨first, more, rfl⟩ := List.exists_cons_of_ne_nil hne
    cases hat
  | dir es => exact mem_descendants_dir_iff es h loc x

theorem mem_descendants_dir_iff (es : Entries) (h : Distinct (.dir es)) (loc : Location)
    (x : Node) : (loc, x) ∈ (dir es).descendants ↔ loc ≠ [] ∧ at? loc (dir es) = some x := by
  cases es with
  | nil =>
    refine iff_of_false List.not_mem_nil fun ⟨hne, hat⟩ ↦ ?_
    obtain ⟨first, more, rfl⟩ := List.exists_cons_of_ne_nil hne
    cases hat
  | cons name node rest =>
    rw [descendants_dir_cons, List.mem_cons, List.mem_append,
      mem_descendants_dir_iff rest h.of_siblings loc x]
    have hfirst : (loc, x) ∈ node.descendants.map (under name) ↔
        ∃ more, more ≠ [] ∧ loc = name :: more ∧ node.at? more = some x := by
      constructor
      · intro hmem
        obtain ⟨⟨more, y⟩, hmore, heq⟩ := List.mem_map.1 hmem
        obtain ⟨rfl, rfl⟩ := Prod.mk.inj heq
        obtain ⟨hne, hat⟩ := (mem_descendants_iff node h.of_first more y).1 hmore
        exact ⟨more, hne, rfl, hat⟩
      · rintro ⟨more, hne, rfl, hat⟩
        have hmem := (mem_descendants_iff node h.of_first more x).2 ⟨hne, hat⟩
        exact List.mem_map.2 ⟨(more, x), hmem, rfl⟩
    rw [hfirst]
    constructor
    · rintro (heq | ⟨more, -, rfl, hat⟩ | ⟨hne, hat⟩)
      · obtain ⟨rfl, rfl⟩ := Prod.mk.inj heq
        exact ⟨List.cons_ne_nil _ _, at?_dir_cons_self name x rest []⟩
      · exact ⟨List.cons_ne_nil _ _, (at?_dir_cons_self name node rest more).trans hat⟩
      · exact ⟨hne, h.at?_of_siblings hne hat⟩
    · rintro ⟨hne, hat⟩
      obtain ⟨first, more, rfl⟩ := List.exists_cons_of_ne_nil hne
      by_cases heq : first = name
      · subst heq
        rw [at?_dir_cons_self] at hat
        by_cases hmore : more = []
        · subst hmore
          exact .inl (by rw [← Option.some.inj hat])
        · exact .inr (.inl ⟨more, hmore, rfl, hat⟩)
      · rw [at?_dir_cons_of_ne heq] at hat
        exact .inr (.inr ⟨hne, hat⟩)

end

/-! ### In which order -/

/-- Places below two entries of one directory are in the order of their names. -/
theorem beside_of_names {name name' : Name} (h : [name, name'].Sublist es.names)
    (more more' : Location) : (dir es).Precedes (name :: more) (name' :: more') :=
  have hroot : at? [] (dir es) = some (.dir es) := rfl
  Precedes.beside hroot h more more'

theorem precedes_cons_of_ne (h : loc ≠ []) : n.Precedes [name] (name :: loc) :=
  have habove : n.Precedes [name] ([name] ++ loc) := .above h
  habove

theorem Precedes.cons {a b : Location} (h : node.Precedes a b) (rest : Entries) :
    (dir (.cons name node rest)).Precedes (name :: a) (name :: b) := by
  cases h with
  | above hmore => exact .above hmore
  | @beside loc es first first' hdir hnames more more' =>
    exact .beside ((at?_dir_cons_self name node rest loc).trans hdir) hnames more more'

theorem Precedes.of_siblings {rest : Entries} (h : Distinct (.dir (.cons name node rest)))
    {a b : Location} (hrest : (dir rest).Precedes a b) :
    (dir (.cons name node rest)).Precedes a b := by
  cases hrest with
  | above hmore => exact .above hmore
  | @beside loc es first first' hdir hnames more more' =>
    by_cases hloc : loc = []
    · subst hloc
      obtain rfl := Node.dir.inj (Option.some.inj hdir)
      exact beside_of_names (hnames.cons name) _ _
    · exact .beside (h.at?_of_siblings hloc hdir) hnames more more'

mutual

/-- **Everything is listed in the order of an enumeration in depth.** -/
theorem pairwise_precedes (n : Node) (h : n.Distinct) :
    (n.descendants.map Prod.fst).Pairwise n.Precedes := by
  cases n with
  | file content => exact .nil
  | link target => exact .nil
  | dir es => exact pairwise_precedes_dir es h

theorem pairwise_precedes_dir (es : Entries) (h : Distinct (.dir es)) :
    ((dir es).descendants.map Prod.fst).Pairwise (dir es).Precedes := by
  cases es with
  | nil => exact .nil
  | cons name node rest =>
    have hsiblings := (pairwise_precedes_dir rest h.of_siblings).imp (Precedes.of_siblings h)
    have hfirst : ((node.descendants.map (under name)).map Prod.fst).Pairwise
        (dir (.cons name node rest)).Precedes := by
      have hmap : (node.descendants.map (under name)).map Prod.fst =
          (node.descendants.map Prod.fst).map (name :: ·) := by
        rw [List.map_map, List.map_map]
        rfl
      rw [hmap, List.pairwise_map]
      exact (pairwise_precedes node h.of_first).imp fun hprecedes ↦ hprecedes.cons rest
    -- A place below the siblings is reached by a name behind the first one.
    have hbehind : ∀ b ∈ (dir rest).descendants.map Prod.fst,
        ∃ first more, b = first :: more ∧ first ∈ rest.names := by
      intro b hb
      obtain ⟨⟨b, x⟩, hmem, rfl⟩ := List.mem_map.1 hb
      obtain ⟨hne, hat⟩ := (mem_descendants_dir_iff rest h.of_siblings b x).1 hmem
      obtain ⟨first, more, rfl⟩ := List.exists_cons_of_ne_nil hne
      exact ⟨first, more, rfl, mem_names_of_at? hat⟩
    have hapart : ∀ more, ∀ b ∈ (dir rest).descendants.map Prod.fst,
        (dir (.cons name node rest)).Precedes (name :: more) b := by
      intro more b hb
      obtain ⟨first, more', rfl, hmem⟩ := hbehind b hb
      exact beside_of_names ((List.singleton_sublist.2 hmem).cons_cons name) _ _
    rw [descendants_dir_cons, List.map_cons, List.map_append, List.pairwise_cons,
      List.pairwise_append]
    refine ⟨fun b hb ↦ ?_, hfirst, hsiblings, fun a ha ↦ ?_⟩
    · rcases List.mem_append.1 hb with hb | hb
      · obtain ⟨entry, hentry, rfl⟩ := List.mem_map.1 hb
        obtain ⟨⟨more, x⟩, hmem, rfl⟩ := List.mem_map.1 hentry
        exact precedes_cons_of_ne ((mem_descendants_iff node h.of_first more x).1 hmem).1
      · exact hapart [] b hb
    · obtain ⟨entry, hentry, rfl⟩ := List.mem_map.1 ha
      obtain ⟨⟨more, x⟩, -, rfl⟩ := List.mem_map.1 hentry
      exact hapart more

end

/-- No place comes before itself. -/
theorem Precedes.irrefl (h : n.Distinct) {a : Location} : ¬ n.Precedes a a := by
  have hne : ∀ {b}, n.Precedes a b → a ≠ b := by
    rintro b (⟨hmore⟩ | ⟨hdir, hnames⟩) heq
    · exact hmore (List.append_right_eq_self.1 heq.symm)
    · obtain ⟨rfl, -⟩ := List.cons.inj (List.append_cancel_left heq)
      exact absurd (hnames.nodup (h _ _ hdir)) (by simp)
  exact fun hself ↦ hne hself rfl

end Node

end LineShell
