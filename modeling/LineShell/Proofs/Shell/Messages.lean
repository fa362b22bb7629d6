import LineShell.Proofs.Text.Unbroken
import LineShell.Shell.Evaluation

/-!
# Messages of one line

The message of an error begins with the name of the component that failed
(`ShellError.message_eq`). Behind it stand fixed words, numbers, and texts that come from outside:
what a message **quotes** is a name, a path or an argument, as it is. The complaint of a usage
quotes arguments too, but is put on one line, and the report of a regular expression draws the
pattern on lines of its own.

So there are two ways in which a message gets a line break: it is the report of a regular
expression, or it quotes a text with a line break (`ShellError.unbroken_message_iff`).
-/

namespace LineShell

open Text

theorem Delimiter.unbroken_mark (d : Delimiter) : Unbroken [d.mark] := by
  cases d <;> decide

theorem Marker.unbroken_direction (marker : Marker) : marker.direction.Unbroken := by
  cases marker <;> exact unbroken_literal (by decide)

theorem OsError.unbroken_message (e : OsError) : e.message.Unbroken := by
  cases e <;> exact unbroken_literal (by decide)

theorem StreamFault.unbroken_message (f : StreamFault) : f.message.Unbroken := by
  cases f with
  | os e => exact e.unbroken_message
  | _ => exact unbroken_literal (by decide)

theorem GlobFault.unbroken_message (f : GlobFault) : f.message.Unbroken := by
  have hkind : f.kind.message.Unbroken := by
    cases f.kind <;> exact unbroken_literal (by decide)
  unfold message
  simp only [unbroken_append]
  exact ⟨⟨⟨unbroken_literal (by decide), unbroken_ofNat _⟩, unbroken_literal (by decide)⟩, hkind⟩

/-- The report of a regular expression has several lines. -/
theorem Regex.Fault.not_unbroken_report (pattern : Text) (f : Regex.Fault) :
    ¬ (f.report pattern).Unbroken := by
  unfold report
  simp only [List.append_assoc, unbroken_append]
  exact fun h ↦ absurd h.1 (by decide)

/-- What a complaint about arguments quotes as it is. -/
def ArgumentFault.quoted : ArgumentFault → List Text
  | invalidArgument argument => [argument]
  | other message => [message]
  | _ => []

theorem ArgumentFault.unbroken_message_iff (f : ArgumentFault) :
    f.message.Unbroken ↔ ∀ t ∈ f.quoted, t.Unbroken := by
  cases f with
  | usage f =>
    have hwords : ∀ word ∈ f.message.words, word.Unbroken := fun _ ↦ unbroken_of_mem_words
    exact iff_of_true ((unbroken_join_iff (by decide)).2 hwords) nofun
  | invalidArgument argument =>
    have hfixed : Unbroken "invalid argument ".toList := unbroken_literal (by decide)
    show Unbroken (_ ++ argument) ↔ ∀ t ∈ [argument], t.Unbroken
    rw [unbroken_append, List.forall_mem_singleton, and_iff_right hfixed]
  | other text => exact (List.forall_mem_singleton (p := Unbroken)).symm
  | _ => exact iff_of_true (unbroken_literal (by decide)) nofun

/-- The path that is complained about. -/
def PathFault.quoted : PathFault → Text
  | os path _ => path
  | isDirectory path => path
  | notDirectory path => path
  | cannotSearch path => path

theorem PathFault.unbroken_message_iff (f : PathFault) :
    f.message.Unbroken ↔ f.quoted.Unbroken := by
  cases f with
  | os path e =>
    have hfixed : Unbroken ": ".toList := unbroken_literal (by decide)
    show Unbroken (path ++ _ ++ e.message) ↔ path.Unbroken
    simp only [unbroken_append, e.unbroken_message, hfixed, and_true]
  | isDirectory path => exact unbroken_append.trans (and_iff_left (unbroken_literal (by decide)))
  | notDirectory path => exact unbroken_append.trans (and_iff_left (unbroken_literal (by decide)))
  | cannotSearch path => exact unbroken_append.trans (and_iff_right (unbroken_literal (by decide)))

namespace ShellError

/-- The name that parsing fails in. -/
def parserName : Text := "parser".toList

/-- The name that substitutions fail in. -/
def substitutionName : Text := "substitution".toList

theorem unbroken_parserName : parserName.Unbroken := unbroken_literal (by decide)

theorem unbroken_redirectionName : redirectionName.Unbroken := unbroken_literal (by decide)

/-- The name of the component that failed. -/
def component : ShellError → Text
  | unterminated _ => parserName
  | argument app _ => app
  | unknownApplication name => name
  | redirection _ => redirectionName
  | path app _ => app
  | pattern app _ => app
  | stream app _ => app
  | depth _ => substitutionName

/-- **A message begins with the name of the component that failed.** -/
theorem message_eq (e : ShellError) :
    ∃ detail, e.message = e.component ++ ": ".toList ++ detail := by
  -- A fixed beginning is cut behind the colon.
  have hcut : ∀ {front name more : Text} (rest : Text), front = name ++ ": ".toList ++ more →
      ∃ detail, front ++ rest = name ++ ": ".toList ++ detail := by
    rintro _ name more rest rfl
    exact ⟨more ++ rest, List.append_assoc _ _ _⟩
  cases e with
  | unterminated d =>
    have hfront : "parser: unterminated ".toList =
        parserName ++ ": ".toList ++ "unterminated ".toList := by decide
    show ∃ detail, _ ++ [d.mark] ++ _ = _
    rw [List.append_assoc]
    exact hcut _ hfront
  | unknownApplication name =>
    have hrest : ": unknown application".toList = ": ".toList ++ "unknown application".toList := by
      decide
    refine ⟨"unknown application".toList, ?_⟩
    show name ++ _ = name ++ _ ++ _
    rw [hrest, List.append_assoc]
  | redirection marker =>
    have hfront : "redirection: too many files for ".toList =
        redirectionName ++ ": ".toList ++ "too many files for ".toList := by decide
    show ∃ detail, _ ++ marker.direction ++ _ = _
    rw [List.append_assoc]
    exact hcut _ hfront
  | depth limit =>
    have hfront : "substitution: nesting deeper than ".toList =
        substitutionName ++ ": ".toList ++ "nesting deeper than ".toList := by decide
    show ∃ detail, _ ++ Text.ofNat limit ++ _ = _
    rw [List.append_assoc]
    exact hcut _ hfront
  | _ => exact ⟨_, rfl⟩

/-- The refusal of a regular expression. -/
def IsRegexRefusal : ShellError → Prop
  | pattern _ (.regex _ _) => True
  | _ => False

/-- The texts that the message quotes as they are. -/
def quoted : ShellError → List Text
  | argument _ f => f.quoted
  | unknownApplication name => [name]
  | path _ f => [f.quoted]
  | _ => []

/-- **Where a message gets a line break from.** -/
theorem unbroken_message_iff (e : ShellError) :
    e.message.Unbroken ↔
      e.component.Unbroken ∧ ¬ e.IsRegexRefusal ∧ ∀ t ∈ e.quoted, t.Unbroken := by
  have hcolon : Unbroken ": ".toList := unbroken_literal (by decide)
  have hbehind : ∀ {app : Text} (detail : Text),
      Unbroken (app ++ ": ".toList ++ detail) ↔ app.Unbroken ∧ detail.Unbroken := by
    simp only [unbroken_append, hcolon, and_true, implies_true]
  cases e with
  | unterminated d =>
    have hmessage : (unterminated d).message.Unbroken :=
      unbroken_append.2 ⟨unbroken_append.2 ⟨unbroken_literal (by decide), d.unbroken_mark⟩,
        unbroken_literal (by decide)⟩
    exact iff_of_true hmessage ⟨unbroken_parserName, id, List.forall_mem_nil _⟩
  | argument app f =>
    rw [quoted, ← f.unbroken_message_iff]
    exact (hbehind _).trans (and_congr_right fun _ ↦ (and_iff_right id).symm)
  | unknownApplication name =>
    rw [quoted, List.forall_mem_singleton]
    refine unbroken_append.trans ?_
    exact ⟨fun h ↦ ⟨h.1, id, h.1⟩, fun h ↦ ⟨h.1, unbroken_literal (by decide)⟩⟩
  | redirection marker =>
    have hmessage : (redirection marker).message.Unbroken :=
      unbroken_append.2 ⟨unbroken_append.2 ⟨unbroken_literal (by decide),
        marker.unbroken_direction⟩, unbroken_literal (by decide)⟩
    exact iff_of_true hmessage ⟨unbroken_redirectionName, id, List.forall_mem_nil _⟩
  | path app f =>
    rw [quoted, List.forall_mem_singleton, ← f.unbroken_message_iff]
    exact (hbehind _).trans (and_congr_right fun _ ↦ (and_iff_right id).symm)
  | pattern app f =>
    refine (hbehind _).trans (and_congr_right fun _ ↦ ?_)
    cases f with
    | regex text f =>
      exact iff_of_false (f.not_unbroken_report text) fun h ↦ h.1 trivial
    | glob f => exact iff_of_true f.unbroken_message ⟨id, List.forall_mem_nil _⟩
  | stream app f =>
    refine (hbehind _).trans (and_congr_right fun _ ↦ ?_)
    exact iff_of_true f.unbroken_message ⟨id, List.forall_mem_nil _⟩
  | depth limit =>
    have hmessage : (depth limit).message.Unbroken := by
      have hfront : Unbroken "substitution: nesting deeper than ".toList :=
        unbroken_literal (by decide)
      have hback : Unbroken " levels".toList := unbroken_literal (by decide)
      exact unbroken_append.2 ⟨unbroken_append.2 ⟨hfront, unbroken_ofNat limit⟩, hback⟩
    have hname : substitutionName.Unbroken := unbroken_literal (by decide)
    exact iff_of_true hmessage ⟨hname, id, List.forall_mem_nil _⟩

end ShellError

end LineShell
