import LineShell.Proofs.Shell.Redirections

/-!
# The working directory is real

The working directory of a shell is a path that was made canonical once. That it stays canonical
rests on what lines do to files: no entry is removed, and none becomes one of another kind
(`Files.ChangedAt`), so the directories on the way to it are there at all later times, and no link
takes the place of one (`Files.RealDirectory.of_changedAt`).

The environment is changed by one kind of call only, a `cd` that succeeds, and in one respect only
(`Performed.ChangesEnvironment`). The rest is an invariant along performed calls, and along the
requests of a session (`Shell.working_directory_is_real`).
-/

namespace LineShell

/-! ### Real directories -/

namespace Files

variable {files files' : Files} {p q : Path} {loc : Location}

/-- The path is the canonical path of a directory: the names in it, none of them `.` or `..`, lead
from the root through directories only, so through no link, and the last one is a directory too. -/
def RealDirectory (files : Files) (p : Path) : Prop :=
  ∃ loc, p = Path.ofLocation loc ∧ (∀ name ∈ loc, Path.IsName name) ∧
    ∀ front, front <+: loc → ∃ es, files.root.at? front = some (.dir es)

/-- What is above a directory is a directory. -/
theorem exists_dir_of_isPrefix {es : Entries} {front : Location}
    (hdir : files.root.at? loc = some (.dir es)) (hfront : front <+: loc) :
    ∃ es', files.root.at? front = some (.dir es') := by
  obtain ⟨rest, rfl⟩ := hfront
  cases rest with
  | nil =>
    rw [List.append_nil] at hdir
    exact ⟨es, hdir⟩
  | cons name rest =>
    have hsome : (files.root.at? (front ++ [name])).isSome := by
      have hwhole : (files.root.at? (front ++ [name] ++ rest)).isSome := by
        rw [List.append_assoc, List.singleton_append, hdir]
        rfl
      exact Node.isSome_at?_of_append hwhole
    obtain ⟨es', hes', -⟩ := Node.exists_dir_of_at?_concat hsome
    exact ⟨es', hes'⟩

/-- Making the path of a directory canonical gives the path of a real one. -/
theorem realDirectory_of_canonical (hnamed : files.WellNamed) (hdir : files.isDirectory q = true)
    (h : files.canonical q = .ok p) : files.RealDirectory p := by
  obtain ⟨loc, es, hfind, hes⟩ := isDirectory_iff.1 hdir
  rw [canonical, hfind] at h
  exact ⟨loc, (Except.ok.inj h).symm, hnamed.names (Option.isSome_iff_exists.2 ⟨_, hes⟩),
    fun _ hfront ↦ exists_dir_of_isPrefix hes hfront⟩

namespace RealDirectory

theorem isAbsolute (h : files.RealDirectory p) : Path.isAbsolute p = true := by
  obtain ⟨loc, rfl, -, -⟩ := h
  exact Path.isAbsolute_ofLocation loc

/-- A real directory is its own canonical path, if it is short enough to be followed. -/
theorem canonical_eq (h : files.RealDirectory p) (hlength : p.length ≤ maxPath) :
    files.isDirectory p = true ∧ files.canonical p = .ok p := by
  obtain ⟨loc, rfl, hnames, hdirs⟩ := h
  obtain ⟨es, hes⟩ := hdirs loc (List.prefix_refl loc)
  have hfind := find_ofLocation hnames hes hlength
  refine ⟨isDirectory_iff.2 ⟨loc, es, hfind, hes⟩, ?_⟩
  rw [canonical, hfind]
  rfl

/-- When files change, directories stay real. -/
theorem of_changedAt {locs : List Location} (h : files.RealDirectory p)
    (hchanged : ChangedAt locs files files') : files'.RealDirectory p := by
  obtain ⟨loc, rfl, hnames, hdirs⟩ := h
  refine ⟨loc, rfl, hnames, fun front hfront ↦ ?_⟩
  obtain ⟨es, hes⟩ := hdirs front hfront
  exact hchanged.dir hes

end RealDirectory

end Files

/-! ### What a call does to the environment -/

namespace Performed

variable {registry : Registry} {limit : Nat} {p : Performed registry limit} {w : World}

/-- All that the call changes of the environment is the working directory, which becomes the
canonical path of a directory, and only if the call runs `cd` and `cd` succeeds. -/
inductive ChangesEnvironment (p : Performed registry limit) : Prop where
  | none (env : p.after.env = p.before.env)
  | moved {w : World} {arguments : List Text}
      (opened : Eval.openedBy p.words p.ready.world = .ok w)
      (runs : p.Runs w Application.cd arguments)
      (succeeds : ((Application.cd.run arguments).run.run w).1 = .ok ())
      (env : p.before.env.MovedIn w.files p.after.env)

/-- **Only a `cd` that succeeds changes the environment.** -/
theorem changesEnvironment (happs : registry.Confined) : p.ChangesEnvironment := by
  rcases p.after_cases with ⟨e, -, hafter⟩ | ⟨w, hopened, hafter⟩
  · exact .none (congrArg Ground.env hafter)
  have henv : w.env = p.before.env := (Eval.openedBy_eq_ok hopened).1
  rcases hafter with hafter | ⟨app, arguments, hruns⟩
  · exact .none ((congrArg Ground.env hafter).trans henv)
  have hended : p.after.env = ((app.run arguments).run.run w).2.env :=
    congrArg Ground.env hruns.after_eq
  rcases happs.moves app hruns.mem arguments w with hkept | ⟨rfl, hok, hmoved⟩
  · exact .none (hended.trans (hkept.trans henv))
  · refine .moved hopened hruns hok ?_
    rw [hended, ← henv]
    exact hmoved

/-- The working directory apart, a call leaves the environment as it is. -/
theorem ChangesEnvironment.env_eq (h : p.ChangesEnvironment) :
    p.after.env = { p.before.env with workingDir := p.after.env.workingDir } := by
  cases h with
  | none env => rw [env]
  | moved _ _ _ env =>
    obtain ⟨path, dir, -, -, henv⟩ := env
    rw [henv]

/-! ### What a call does to names -/

/-- The file of `>` has a name. -/
theorem wellNamed_opened (h : p.before.files.WellNamed)
    (hopened : Eval.openedBy p.words p.ready.world = .ok w) : w.files.WellNamed := by
  have hfiles := p.opened?_of_ok hopened
  cases hcreated : p.opened? with
  | none =>
    rw [hcreated] at hfiles
    rw [hfiles.1]
    exact h
  | some created =>
    obtain ⟨target, -, hcreate⟩ := p.create_of_opened? hcreated
    rw [hcreated] at hfiles
    rw [hfiles.1]
    exact h.create hcreate

/-- Behind the redirections, the application writes to one file at most. -/
theorem changedAt_opened (happs : registry.Confined)
    (hopened : Eval.openedBy p.words p.ready.world = .ok w) :
    ∃ loc texts, p.after.files = w.files.appendAll loc texts := by
  have hfiles := p.opened?_of_ok hopened
  cases p.changesTarget happs with
  | none opened files =>
    rw [opened] at hfiles
    exact ⟨[], [], files.trans hfiles.1.symm⟩
  | @target _ made loc texts opened _ _ files _ =>
    rw [opened] at hfiles
    exact ⟨loc, texts, by rw [files, hfiles.1]⟩

end Performed

/-! ### The invariant -/

/-- Every entry has a name, and the working directory is real. -/
structure Ground.Real (g : Ground) : Prop where
  named : g.files.WellNamed
  real : g.files.RealDirectory g.env.workingDir

/-- **A call leaves the working directory real.** -/
theorem Performed.real_after {registry : Registry} {limit : Nat} (p : Performed registry limit)
    (happs : registry.Confined) (h : p.before.Real) : p.after.Real where
  named := by
    cases p.changesTarget happs with
    | none _ files =>
      rw [files]
      exact h.named
    | target _ _ create files _ =>
      rw [files]
      exact (h.named.create create).appendAll _ _
  real := by
    cases p.changesEnvironment happs with
    | none env =>
      rw [env]
      exact h.real.of_changedAt (p.changesTarget happs).changedAt
    | @moved w _ opened _ _ env =>
      -- Where `cd` looked, the file of `>` is made already, but nothing written to it.
      obtain ⟨path, dir, hdir, hcanonical, henv⟩ := env
      obtain ⟨loc, texts, hfiles⟩ := changedAt_opened happs opened
      rw [henv, hfiles]
      exact (Files.realDirectory_of_canonical (wellNamed_opened h.named opened) hdir
        hcanonical).of_changedAt (Files.changedAt_appendAll _ loc texts)

/-- The working directory apart, calls leave the environment as it is. -/
theorem Leads.env_eq {registry : Registry} {limit : Nat} {ps : List (Performed registry limit)}
    {g g' : Ground} (h : Leads g ps g') (hps : ∀ p ∈ ps, p.ChangesEnvironment) :
    g'.env = { g.env with workingDir := g'.env.workingDir } := by
  have hsame := h.preserves
    (P := fun ground ↦ ground.env = { g.env with workingDir := ground.env.workingDir })
    (fun p hp hbefore ↦ ?_) rfl
  · exact hsame.2
  · rw [(hps p hp).env_eq, hbefore]

namespace Shell

/-- A shell that starts in a directory starts in a real one. -/
theorem real_of_starting {sh : Shell} {dir : Path} (hnamed : sh.files.WellNamed)
    (hdir : sh.files.isDirectory dir = true)
    (hstart : sh.env.workingDir = (Environment.starting sh.files dir).workingDir) :
    sh.ground.Real where
  named := hnamed
  real := by
    obtain ⟨loc, es, hfind, -⟩ := Files.isDirectory_iff.1 hdir
    have hcanonical : sh.files.canonical dir = .ok (Path.ofLocation loc) := by
      rw [Files.canonical, hfind]
      rfl
    have hworking : sh.env.workingDir = Path.ofLocation loc := by
      rw [hstart, Environment.starting, hcanonical]
    show sh.files.RealDirectory sh.env.workingDir
    rw [hworking]
    exact Files.realDirectory_of_canonical hnamed hdir hcanonical

/-- **The working directory is always real.** A session starts in an existing directory, with any
home, and does what it likes. Then before every further line, before every call that the line
performs, and behind the line, whether it succeeds or fails, the working directory is the canonical
path of a directory. A call changes it only if it runs `cd` and `cd` succeeds; so one that fails
leaves it as it was, wherever it stands. No line changes the home directory or the history, so the
home directory is the one the session started with. -/
theorem working_directory_is_real (sh : Shell) (hregistry : sh.registry = .standard)
    (hnamed : sh.files.WellNamed) (dir : Path) (hdir : sh.files.isDirectory dir = true)
    (hstart : sh.env.workingDir = (Environment.starting sh.files dir).workingDir)
    (requests : List Request) (hrequests : ∀ request ∈ requests, request.OfSession)
    (line : Text) (input : Option Source) (output : Sink) :
    let now := sh.after requests
    let ran := now.run line input output
    now.files.RealDirectory now.env.workingDir ∧
    Path.isAbsolute now.env.workingDir = true ∧
    (now.env.workingDir.length ≤ Files.maxPath →
      now.files.isDirectory now.env.workingDir = true ∧
      now.files.canonical now.env.workingDir = .ok now.env.workingDir) ∧
    (∃ ps, now.PerformedBy line ran ps ∧ ∀ p ∈ ps,
      p.before.files.RealDirectory p.before.env.workingDir ∧ p.ChangesEnvironment) ∧
    ran.shell.files.RealDirectory ran.shell.env.workingDir ∧
    ran.shell.env = { now.env with workingDir := ran.shell.env.workingDir } ∧
    now.env.home = sh.env.home ∧ now.env.homeBase = sh.env.homeBase := by
  intro now ran
  have happs : sh.registry.Confined := hregistry ▸ Registry.standard_confined
  have hnow : now.registry.Confined :=
    after_preserves (P := fun sh ↦ sh.registry.Confined)
      (fun sh request _ h ↦ (registry_next sh request).1 ▸ h) happs
  have hreal : now.ground.Real :=
    ground_after Performed.real_after (fun h _ ↦ ⟨h.named, h.real⟩) happs hrequests
      (real_of_starting hnamed hdir hstart)
  have hhome : now.env.home = sh.env.home ∧ now.env.homeBase = sh.env.homeBase :=
    ground_after (P := fun g ↦ g.env.home = sh.env.home ∧ g.env.homeBase = sh.env.homeBase)
      (fun p happs h ↦ by rw [(p.changesEnvironment happs).env_eq]; exact h)
      (fun h _ ↦ h) happs hrequests ⟨rfl, rfl⟩
  obtain ⟨ps, hps⟩ := now.exists_performedBy hnow line input output
  have hchanges : ∀ p ∈ ps, p.ChangesEnvironment := fun p _ ↦ p.changesEnvironment hnow
  obtain ⟨hbefore, hafter⟩ := hps.leads.preserves (fun p _ ↦ p.real_after hnow) hreal
  exact ⟨hreal.real, hreal.real.isAbsolute, hreal.real.canonical_eq,
    ⟨ps, hps, fun p hp ↦ ⟨(hbefore p hp).real, hchanges p hp⟩⟩, hafter.real,
    hps.leads.env_eq hchanges, hhome⟩

/-- A session that starts behind a link, with a home to be tidied up, and a line that goes on in
back-quotes and in a pipe before it fails. -/
theorem working_directory_is_real_linked :
    let path (shown : String) : Path := Path.ofText shown.toList
    let files := ((Files.empty.makeDirectory (path "/d")).makeDirectory (path "/d/e")).makeLink
      (path "/l") (path "d")
    let sh : Shell := { env := { workingDir := path "/d", home := some (path "/l/e/..") }, files }
    let requests : List Request :=
      [.eval "cd e; cd nope".toList .fresh,
        .change (fun env ↦ { env with history := env.history ++ ["cd".toList] }) id,
        .run "cd".toList none .fresh]
    let line := "echo `cd e >x`; _cd nope | cd ../../l/e; cd x".toList
    sh.registry = .standard ∧ sh.files.WellNamed ∧ sh.files.isDirectory (path "/l/./") = true ∧
    sh.env.workingDir = (Environment.starting sh.files (path "/l/./")).workingDir ∧
    (∀ request ∈ requests, request.OfSession) ∧
    (sh.after requests).env.workingDir = path "/d" ∧
    ((sh.after requests).run line none .fresh).result =
      .error (.path Application.cdName (.notDirectory "x".toList)) ∧
    ((sh.after requests).run line none .fresh).shell.env.workingDir = path "/d/e" ∧
    ((sh.after requests).run line none .fresh).shell.files.RealDirectory
      ((sh.after requests).run line none .fresh).shell.env.workingDir := by
  intro path files sh requests line
  have hregistry : sh.registry = .standard := rfl
  have hnamed : sh.files.WellNamed := (Files.wellFormed_of_root (by decide)).toWellNamed
  have hdir : sh.files.isDirectory (path "/l/./") = true := by decide +kernel
  have hstart : sh.env.workingDir = (Environment.starting sh.files (path "/l/./")).workingDir := by
    decide +kernel
  have hrequests : ∀ request ∈ requests, request.OfSession := by
    intro request hmem
    simp only [requests, List.mem_cons, List.not_mem_nil, or_false] at hmem
    rcases hmem with rfl | rfl | rfl
    · exact .eval _ _
    · exact .record (· ++ ["cd".toList])
    · exact .run _ _ _
  obtain ⟨-, -, -, -, hreal, -⟩ := working_directory_is_real sh hregistry hnamed (path "/l/./") hdir
    hstart requests hrequests line none .fresh
  exact ⟨hregistry, hnamed, hdir, hstart, hrequests, by decide +kernel, by decide +kernel,
    by decide +kernel, hreal⟩

end Shell

end LineShell
