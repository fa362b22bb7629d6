import LineShell.Application.All
import LineShell.Proofs.Unicode.Lower
import Mathlib.Data.List.Induction

/-!
# Resolving command words

Whatever operations build a registry, it holds the applications that were registered since it was
last collected (`Registry.registered`), and a command word means the last of them that has its name
(`Registry.resolve_built`). The name is the lower-case form of the word; lower-casing a second time
changes nothing, so a word and its lower-case form mean the same.

The mark of a call whose failure is reported is taken off the lower-case form, once: of two marks
the second belongs to the name. Taking it off before lower-casing would come to the same, because it
has no case (`Text.lower_reportMark_cons`).
-/

namespace LineShell

/-! ### Command words -/

theorem Text.lower_reportMark_cons (t : Text) :
    lower (reportMark :: t) = reportMark :: lower t := by
  rw [lower_cons (by decide) (by decide), show lowerChar reportMark = [reportMark] by decide]
  rfl

theorem readCommandWord_reportMark_cons (word : Text) :
    readCommandWord (reportMark :: word) = (.report, word.lower) := by
  rw [readCommandWord, Text.lower_reportMark_cons]
  exact if_pos rfl

theorem readCommandWord_of_head?_ne {word : Text} (h : word.lower.head? ≠ some reportMark) :
    readCommandWord word = (.endLine, word.lower) := by
  rw [readCommandWord]
  cases hword : word.lower with
  | nil => rfl
  | cons c rest =>
    rw [hword] at h
    exact if_neg fun hc ↦ h (congrArg some hc)

/-- The name that a command word means: its lower-case form, without the mark in front of it. -/
def commandName (word : Text) : Text :=
  if word.lower.head? = some reportMark then word.lower.tail else word.lower

theorem readCommandWord_snd (word : Text) : (readCommandWord word).2 = commandName word := by
  rw [commandName]
  split
  next hmark =>
    obtain ⟨rest, hrest⟩ := List.head?_eq_some_iff.1 hmark
    rw [readCommandWord, hrest]
    rfl
  next hmark => rw [readCommandWord_of_head?_ne hmark]

theorem readCommandWord_fst_eq_report_iff (word : Text) :
    (readCommandWord word).1 = .report ↔ word.lower.head? = some reportMark := by
  refine ⟨fun hreport ↦ ?_, fun hmark ↦ ?_⟩
  · by_contra hmark
    rw [readCommandWord_of_head?_ne hmark] at hreport
    cases hreport
  · obtain ⟨rest, hrest⟩ := List.head?_eq_some_iff.1 hmark
    rw [readCommandWord, hrest]
    rfl

/-- A word and its lower-case form are read alike. -/
theorem readCommandWord_lower (word : Text) :
    readCommandWord word.lower = readCommandWord word := by
  rw [readCommandWord, Text.lower_lower, readCommandWord]

namespace Registry

variable {registry : Registry} {word name : Text} {policy : FailurePolicy} {app : Application}
  {apps : List Application} {e : ShellError}

/-! ### Resolving -/

theorem resolve_of_find? (hword : readCommandWord word = (policy, name))
    (happ : registry.find? name = some app) : registry.resolve word = .ok (app, policy) := by
  rw [resolve, hword]
  dsimp only
  rw [happ]

theorem resolve_of_find?_eq_none (hword : readCommandWord word = (policy, name))
    (hnone : registry.find? name = none) :
    registry.resolve word = .error (.unknownApplication name) := by
  rw [resolve, hword]
  dsimp only
  rw [hnone]

theorem resolve_eq_ok_iff : registry.resolve word = .ok (app, policy) ↔
    registry.find? (readCommandWord word).2 = some app ∧ policy = (readCommandWord word).1 := by
  rcases hword : readCommandWord word with ⟨policy', name⟩
  dsimp only
  cases hfind : registry.find? name with
  | none =>
    rw [resolve_of_find?_eq_none hword hfind]
    exact iff_of_false nofun nofun
  | some found =>
    rw [resolve_of_find? hword hfind]
    simp [eq_comm]

theorem resolve_eq_error_iff : registry.resolve word = .error e ↔
    e = .unknownApplication (readCommandWord word).2 ∧
      registry.find? (readCommandWord word).2 = none := by
  rcases hword : readCommandWord word with ⟨policy', name⟩
  dsimp only
  cases hfind : registry.find? name with
  | none =>
    rw [resolve_of_find?_eq_none hword hfind]
    simp [eq_comm]
  | some found =>
    rw [resolve_of_find? hword hfind]
    exact iff_of_false nofun nofun

/-- What is resolved is one of the applications. -/
theorem mem_of_resolve_eq_ok (h : registry.resolve word = .ok (app, policy)) :
    app ∈ registry.applications :=
  List.mem_of_find?_eq_some (resolve_eq_ok_iff.1 h).1

theorem policy_of_resolve_eq_ok (h : registry.resolve word = .ok (app, policy)) :
    policy = (readCommandWord word).1 :=
  (resolve_eq_ok_iff.1 h).2

/-- What is not resolved is unknown under the name that the word means. -/
theorem eq_of_resolve_eq_error (h : registry.resolve word = .error e) :
    e = .unknownApplication (readCommandWord word).2 :=
  (resolve_eq_error_iff.1 h).1

/-- Registering an application changes nothing for words that mean another name. -/
theorem resolve_register_of_ne (h : app.name ≠ commandName word) :
    (registry.register app).resolve word = registry.resolve word := by
  rw [← readCommandWord_snd] at h
  rcases hword : readCommandWord word with ⟨policy, name⟩
  rw [hword] at h
  rw [resolve, resolve, hword]
  dsimp only
  rw [find?_register_of_ne registry h]

/-! ### The last of a name -/

/-- The application is the last one of the list that has the name. -/
def LastNamed (apps : List Application) (name : Text) (app : Application) : Prop :=
  ∃ before after, apps = before ++ app :: after ∧ app.name = name ∧
    ∀ other ∈ after, other.name ≠ name

/-- With one more application, the last one of a name is that one or else as before. -/
theorem lastNamed_concat_iff {new : Application} : LastNamed (apps ++ [new]) name app ↔
    if new.name = name then app = new else LastNamed apps name app := by
  constructor
  · rintro ⟨before, after, heq, hname, hafter⟩
    obtain rfl | ⟨after, last, rfl⟩ := List.eq_nil_or_concat after
    · obtain ⟨-, happ⟩ := List.append_inj' heq rfl
      obtain rfl : new = app := List.singleton_inj.1 happ
      exact if_pos hname ▸ rfl
    · rw [List.concat_eq_append] at heq hafter
      rw [← List.cons_append, ← List.append_assoc] at heq
      obtain ⟨rfl, hlast⟩ := List.append_inj' heq rfl
      obtain rfl : new = last := List.singleton_inj.1 hlast
      rw [if_neg (hafter new (List.mem_append_right _ List.mem_cons_self))]
      exact ⟨before, after, rfl, hname, fun other hother ↦
        hafter other (List.mem_append_left _ hother)⟩
  · intro h
    split at h
    next hname =>
      obtain rfl := h
      exact ⟨apps, [], rfl, hname, nofun⟩
    next hne =>
      obtain ⟨before, after, rfl, hname, hafter⟩ := h
      refine ⟨before, after ++ [new], by rw [List.append_assoc, List.cons_append], hname, ?_⟩
      exact List.forall_mem_append.2 ⟨hafter, List.forall_mem_singleton.2 hne⟩

theorem ofList_concat (apps : List Application) (new : Application) :
    ofList (apps ++ [new]) = (ofList apps).register new := by
  rw [ofList, List.foldl_append]
  rfl

/-- **Registering keeps the last application of every name.** -/
theorem find?_ofList_eq_some_iff :
    (ofList apps).find? name = some app ↔ LastNamed apps name app := by
  induction apps using List.reverseRecOn with
  | nil =>
    refine iff_of_false nofun ?_
    rintro ⟨before, after, heq, -⟩
    simp at heq
  | append_singleton apps new ih =>
    rw [ofList_concat, lastNamed_concat_iff]
    split
    next hname =>
      subst hname
      rw [find?_register_self, Option.some_inj, eq_comm]
    next hne => rw [find?_register_of_ne _ hne, ih]

/-- Registering an application adds its name. -/
theorem mem_names_register_iff :
    name ∈ (registry.register app).names ↔ name ∈ registry.names ∨ app.name = name := by
  simp only [names, register, List.map_append, List.mem_append, List.mem_map, List.mem_filter,
    List.mem_singleton, bne_iff_ne, ne_eq]
  by_cases hname : app.name = name
  · exact iff_of_true (.inr ⟨app, rfl, hname⟩) (.inr hname)
  · simp only [exists_eq_left, hname, or_false]
    constructor
    · rintro ⟨other, ⟨hmem, -⟩, hother⟩
      exact ⟨other, hmem, hother⟩
    · rintro ⟨other, hmem, rfl⟩
      exact ⟨other, ⟨hmem, fun heq ↦ hname heq.symm⟩, rfl⟩

/-- Registering an application takes the one of its name away. -/
theorem nodup_names_register (h : registry.names.Nodup) :
    (registry.register app).names.Nodup := by
  rw [names, register, List.map_append]
  refine List.nodup_append.2 ⟨h.sublist (List.filter_sublist.map _), by simp, ?_⟩
  intro name hkept name' hnew
  obtain ⟨other, hother, rfl⟩ := List.mem_map.1 hkept
  obtain rfl := List.mem_singleton.1 hnew
  exact bne_iff_ne.1 (List.mem_filter.1 hother).2

theorem mem_names_ofList_iff :
    name ∈ (ofList apps).names ↔ ∃ app ∈ apps, app.name = name := by
  induction apps using List.reverseRecOn with
  | nil => exact iff_of_false List.not_mem_nil nofun
  | append_singleton apps new ih =>
    rw [ofList_concat, mem_names_register_iff, ih]
    simp only [List.mem_append, List.mem_singleton, or_and_right, exists_or, exists_eq_left]

theorem find?_ofList_eq_none_iff :
    (ofList apps).find? name = none ↔ ∀ app ∈ apps, app.name ≠ name := by
  have hmem : (ofList apps).find? name = none ↔ name ∉ (ofList apps).names := by
    simp [find?, names]
  rw [hmem, mem_names_ofList_iff]
  simp

/-- No name is there twice. -/
theorem nodup_names_ofList (apps : List Application) : (ofList apps).names.Nodup := by
  induction apps using List.reverseRecOn with
  | nil => exact List.nodup_nil
  | append_singleton apps new ih => exact ofList_concat apps new ▸ nodup_names_register ih

/-! ### Operations -/

/-- The applications that are registered behind an operation, oldest first. -/
def registeredBy (apps : List Application) : Operation → List Application
  | .collect collected => collected
  | .register app => apps ++ [app]
  | .extend app => apps ++ [app]

/-- The applications that operations register, oldest first: those since the last collecting. -/
def registered (ops : List Operation) : List Application := ops.foldl registeredBy []

theorem perform_ofList (apps : List Application) (op : Operation) :
    (ofList apps).perform op = ofList (registeredBy apps op) := by
  cases op with
  | collect collected => rfl
  | register app => exact (ofList_concat apps app).symm
  | extend app => exact (ofList_concat apps app).symm

/-- **A registry is that of the applications registered in it.** -/
theorem built_eq_ofList (ops : List Operation) : built ops = ofList (registered ops) := by
  suffices h : ∀ apps, ops.foldl perform (ofList apps) = ofList (ops.foldl registeredBy apps) from
    h []
  induction ops with
  | nil => exact fun _ ↦ rfl
  | cons op ops ih =>
    intro apps
    rw [List.foldl_cons, List.foldl_cons, perform_ofList, ih]

/-- **A command word means the last application registered under its name**, whatever operations
built the registry. If there is none, the error names it. A word and its lower-case form resolve
alike, registering an application of another name changes nothing, and every registered name is
there once. -/
theorem resolve_built (ops : List Operation) (word : Text) :
    (∀ app policy, (built ops).resolve word = .ok (app, policy) ↔
      LastNamed (registered ops) (commandName word) app ∧
        (policy = .report ↔ word.lower.head? = some reportMark)) ∧
    (∀ e, (built ops).resolve word = .error e ↔
      e = .unknownApplication (commandName word) ∧
        ∀ app ∈ registered ops, app.name ≠ commandName word) ∧
    (built ops).resolve word.lower = (built ops).resolve word ∧
    (∀ op app, op = .register app ∨ op = .extend app → app.name ≠ commandName word →
      (built (ops ++ [op])).resolve word = (built ops).resolve word) ∧
    (built ops).names.Nodup ∧
    ∀ name, name ∈ (built ops).names ↔ ∃ app ∈ registered ops, app.name = name := by
  refine ⟨fun app policy ↦ ?_, fun e ↦ ?_, ?_, ?_, ?_, fun name ↦ ?_⟩
  · rw [resolve_eq_ok_iff, readCommandWord_snd, built_eq_ofList, find?_ofList_eq_some_iff,
      ← readCommandWord_fst_eq_report_iff]
    cases policy <;> cases (readCommandWord word).1 <;> simp
  · rw [resolve_eq_error_iff, readCommandWord_snd, built_eq_ofList, find?_ofList_eq_none_iff]
  · rw [resolve, resolve, readCommandWord_lower]
  · intro op app hop hname
    have hgrown : built (ops ++ [op]) = (built ops).register app := by
      rw [built, List.foldl_append]
      obtain rfl | rfl := hop <;> rfl
    rw [hgrown, resolve_register_of_ne hname]
  · exact built_eq_ofList ops ▸ nodup_names_ofList _
  · rw [built_eq_ofList, mem_names_ofList_iff]

/-- Two applications of one name: behind a mark, the word has a capital sigma and a letter that
becomes two. -/
theorem resolve_built_greek :
    let name : Text := ['σ', 'i', '\u0307', 'a']
    let older := { Application.cat with name := name }
    let app := { Application.echo with name := name }
    let ops : List Operation :=
      [.register Application.echo, .collect [older, Application.cat], .extend app]
    let word : Text := reportMark :: ['Σ', 'İ', 'A']
    (built ops).resolve word = .ok (app, .report) ∧
    word.lower ≠ word ∧ (built ops).resolve word.lower = .ok (app, .report) ∧
    Application.pwd.name ≠ commandName word ∧
    (built (ops ++ [.register Application.pwd])).resolve word = .ok (app, .report) ∧
    (built ops).resolve "__Cat".toList = .error (.unknownApplication "_cat".toList) ∧
    (built ops).names.Nodup := by
  intro name older app ops word
  obtain ⟨hok, -, hlower, hother, hnodup, -⟩ := resolve_built ops word
  obtain ⟨-, herror, -⟩ := resolve_built ops "__Cat".toList
  have hword : word.lower = reportMark :: name := by
    rw [Text.lower_reportMark_cons]
    decide +kernel
  have hname : commandName word = name := by
    rw [commandName, hword]
    rfl
  have hresolve : (built ops).resolve word = .ok (app, .report) := by
    refine (hok app .report).2 ⟨⟨[older, Application.cat], [], rfl, hname.symm, nofun⟩, ?_⟩
    rw [hword]
    exact iff_of_true rfl rfl
  have hpwd : Application.pwd.name ≠ commandName word := by
    rw [hname]
    decide
  have hcat : commandName "__Cat".toList = "_cat".toList := by decide +kernel
  have hunknown : ∀ app ∈ registered ops, app.name ≠ "_cat".toList := by
    show ∀ other ∈ [older, Application.cat, app], other.name ≠ "_cat".toList
    simp only [List.forall_mem_cons]
    exact ⟨by decide, by decide, by decide, nofun⟩
  refine ⟨hresolve, ?_, hlower.trans hresolve, hpwd, (hother _ _ (.inl rfl) hpwd).trans hresolve,
    ?_, hnodup⟩
  · rw [hword]
    decide
  · rw [herror, hcat]
    exact ⟨rfl, hunknown⟩

end Registry

end LineShell
