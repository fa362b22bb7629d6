import LineShell.Proofs.Line.Command
import LineShell.Proofs.Text.Unbroken
import LineShell.Shell.CommandLine

/-!
# Reading an outline back

An outline has one line for every node of a tree, in preorder: a tab for every level, and then what
the node is. Calls stand there as they were written, so what looks like another part of an outline
may be the text of a call. All the same an outline tells the tree, if no text has a line feed in it.

Two things carry this. A line of an outline tells its row: it ends at its line feed, and its tabs
end where the title begins, since no title begins with a tab (`Row.line_append_inj`). And rows in
preorder tell the tree: a title says whether two subtrees follow, so they are peeled off one after
the other (`rowsOnto_inj`). The depths of the rows are not even needed for that.
-/

namespace LineShell

namespace Tree

variable {t t' : Tree} {l l' : Label} {r r' : Row} {rest rest' : Text} {depth : Nat}
variable {more more' rows rows' : List Row}

/-! ### Lines tell rows -/

/-- The first character of a title. -/
def Label.initial : Label → Char
  | call _ => 'C'
  | pipe => 'P'
  | seq => 'S'

theorem Label.head?_title (l : Label) : l.title.head? = some l.initial := by cases l <;> rfl

/-- A title tells the node. -/
theorem Label.title_inj (h : l.title = l'.title) : l = l' := by
  have hinitial : l.initial = l'.initial :=
    Option.some.inj (by rw [← head?_title, ← head?_title, h])
  cases l <;> cases l'
  case call.call text text' => exact congrArg call (List.append_cancel_left h)
  case pipe.pipe => rfl
  case seq.seq => rfl
  all_goals simp [initial] at hinitial

theorem Label.head?_title_ne (l : Label) : l.title.head? ≠ some '\t' := by
  rw [head?_title]
  cases l <;> simp [initial]

/-- Only in the text of a call can a title have a line feed. -/
theorem Label.unbroken_title (h : ∀ text, l = call text → text.Unbroken) : l.title.Unbroken := by
  cases l with
  | call text => exact Text.unbroken_append.2 ⟨by decide, h text rfl⟩
  | pipe => decide
  | seq => decide

/-- Tabs end where something else begins. -/
theorem replicate_append_inj {c : Char} {n n' : Nat} {u u' : Text} (hu : u.head? ≠ some c)
    (hu' : u'.head? ≠ some c) (h : List.replicate n c ++ u = List.replicate n' c ++ u') :
    n = n' ∧ u = u' := by
  induction n generalizing n' with
  | zero =>
    cases n' with
    | zero => exact ⟨rfl, h⟩
    | succ n' => exact absurd (congrArg List.head? h) hu
  | succ n ih =>
    cases n' with
    | zero => exact absurd (congrArg List.head? h).symm hu'
    | succ n' => exact (ih (List.cons.inj h).2).imp_left (congrArg (· + 1))

/-- An unbroken text ends at the first line feed behind it. -/
theorem unbroken_append_inj {u u' : Text} (hu : u.Unbroken) (hu' : u'.Unbroken)
    (h : u ++ Text.newline :: rest = u' ++ Text.newline :: rest') : u = u' ∧ rest = rest' := by
  have hpieces := congrArg (Text.pieces Text.newline) h
  rw [Text.pieces_append_cons hu, Text.pieces_append_cons hu'] at hpieces
  obtain rfl := (List.cons.inj hpieces).1
  exact ⟨rfl, (List.cons.inj (List.append_cancel_left h)).2⟩

/-- **A line of an outline tells its row**, and where the next line begins. -/
theorem Row.line_append_inj (hr : r.label.title.Unbroken) (hr' : r'.label.title.Unbroken)
    (h : r.line ++ rest = r'.line ++ rest') : r = r' ∧ rest = rest' := by
  have htabs : ∀ n : Nat, Text.Unbroken (List.replicate n '\t') := fun n hmem ↦
    absurd (List.eq_of_mem_replicate hmem) (by decide)
  have hline : ∀ (r : Row) (rest : Text), r.line ++ rest =
      (List.replicate r.depth '\t' ++ r.label.title) ++ Text.newline :: rest := fun r rest ↦
    List.append_assoc _ _ _
  rw [hline, hline] at h
  obtain ⟨hrow, hrest⟩ := unbroken_append_inj (Text.unbroken_append.2 ⟨htabs _, hr⟩)
    (Text.unbroken_append.2 ⟨htabs _, hr'⟩) h
  obtain ⟨hdepth, htitle⟩ :=
    replicate_append_inj r.label.head?_title_ne r'.label.head?_title_ne hrow
  obtain ⟨depth, l⟩ := r
  obtain ⟨depth', l'⟩ := r'
  obtain rfl : depth = depth' := hdepth
  obtain rfl : l = l' := Label.title_inj htitle
  exact ⟨rfl, hrest⟩

theorem Row.line_ne_nil (r : Row) : r.line ≠ [] :=
  List.append_ne_nil_of_right_ne_nil _ (List.cons_ne_nil _ _)

/-- Lines tell rows. -/
theorem flatMap_line_inj (hrows : ∀ r ∈ rows, r.label.title.Unbroken)
    (hrows' : ∀ r ∈ rows', r.label.title.Unbroken)
    (h : rows.flatMap Row.line = rows'.flatMap Row.line) : rows = rows' := by
  induction rows generalizing rows' with
  | nil =>
    cases rows' with
    | nil => rfl
    | cons r' rows' => exact absurd (List.append_eq_nil_iff.1 h.symm).1 r'.line_ne_nil
  | cons r rows ih =>
    cases rows' with
    | nil => exact absurd (List.append_eq_nil_iff.1 h).1 r.line_ne_nil
    | cons r' rows' =>
      obtain ⟨hr, hmore⟩ := List.forall_mem_cons.1 hrows
      obtain ⟨hr', hmore'⟩ := List.forall_mem_cons.1 hrows'
      rw [List.flatMap_cons, List.flatMap_cons] at h
      obtain ⟨rfl, hrest⟩ := Row.line_append_inj hr hr' h
      rw [ih hmore hmore' hrest]

/-! ### Rows tell trees -/

/-- **Rows in preorder tell the tree**, and where what is behind it begins. -/
theorem rowsOnto_inj (h : rowsOnto depth t more = rowsOnto depth t' more') :
    t = t' ∧ more = more' := by
  induction t generalizing depth t' more more' with
  | call text =>
    cases t' with
    | call text' =>
      obtain ⟨hrow, hmore⟩ := List.cons.inj h
      exact ⟨congrArg call (Label.call.inj (Row.mk.inj hrow).2), hmore⟩
    | pipe _ _ => cases (Row.mk.inj (List.cons.inj h).1).2
    | seq _ _ => cases (Row.mk.inj (List.cons.inj h).1).2
  | pipe left right ihl ihr =>
    cases t' with
    | call _ => cases (Row.mk.inj (List.cons.inj h).1).2
    | pipe left' right' =>
      obtain ⟨rfl, hright⟩ := ihl (List.cons.inj h).2
      obtain ⟨rfl, hmore⟩ := ihr hright
      exact ⟨rfl, hmore⟩
    | seq _ _ => cases (Row.mk.inj (List.cons.inj h).1).2
  | seq left right ihl ihr =>
    cases t' with
    | call _ => cases (Row.mk.inj (List.cons.inj h).1).2
    | pipe _ _ => cases (Row.mk.inj (List.cons.inj h).1).2
    | seq left' right' =>
      obtain ⟨rfl, hright⟩ := ihl (List.cons.inj h).2
      obtain ⟨rfl, hmore⟩ := ihr hright
      exact ⟨rfl, hmore⟩

/-! ### Outlines tell trees -/

/-- No call of the tree has a line feed in its text. -/
def Unbroken (t : Tree) : Prop := ∀ text ∈ t.calls, text.Unbroken

instance (t : Tree) : Decidable t.Unbroken :=
  inferInstanceAs (Decidable (∀ text ∈ t.calls, text.Unbroken))

theorem Unbroken.title_of_mem_rowsOnto (ht : t.Unbroken) (hr : r ∈ rowsOnto depth t more)
    (hmore : ∀ r ∈ more, r.label.title.Unbroken) : r.label.title.Unbroken := by
  induction t generalizing depth more r with
  | call text =>
    rcases List.mem_cons.1 hr with rfl | hr
    · refine Label.unbroken_title ?_
      rintro text' ⟨⟩
      exact ht text List.mem_cons_self
    · exact hmore r hr
  | pipe left right ihl ihr | seq left right ihl ihr =>
    obtain ⟨hleft, hright⟩ := List.forall_mem_append.1 ht
    have hbehind : ∀ r ∈ rowsOnto (depth + 1) right more, r.label.title.Unbroken :=
      fun r hr ↦ ihr hright hr hmore
    rcases List.mem_cons.1 hr with rfl | hr
    · exact Label.unbroken_title (by rintro text ⟨⟩)
    · exact ihl hleft hr hbehind

/-- What a line without a line feed is read as has none either. -/
theorem unbroken_of_parse {line : Text} (hline : line.Unbroken) (h : parse line = .ok t) :
    t.Unbroken := by
  obtain ⟨-, rfl⟩ := parse_eq_ok_iff_render.1 h
  exact fun text htext ↦ hline.of_subset fun c ↦ mem_render_of_mem_calls htext

theorem outline_inj (ht : t.Unbroken) (ht' : t'.Unbroken) (h : t.outline = t'.outline) :
    t = t' := by
  have hrows : ∀ {t : Tree}, t.Unbroken → ∀ r ∈ t.rows, r.label.title.Unbroken :=
    fun ht r hr ↦ ht.title_of_mem_rowsOnto hr (List.forall_mem_nil _)
  exact (rowsOnto_inj (flatMap_line_inj (hrows ht) (hrows ht') h)).1

end Tree

namespace CommandLine

variable {t : Tree} {line : Text}

/-- The arguments, the first one being the name of the program, ask for the outline of a line. -/
def AsksForOutline (arguments : List Text) (line : Text) : Prop :=
  taskOf (arguments.head?.getD usualName) (arguments.drop 1) = .outline line

/-- The outline of any line can be asked for. -/
theorem asksForOutline (name line : Text) :
    AsksForOutline [name, "-t".toList, "-c".toList, line] line := rfl

/-- What is printed of an accepted line is its outline. -/
theorem bytes_run_outline {arguments : List Text} (h : AsksForOutline arguments line)
    (hparse : Tree.parse line = .ok t) (sh : Shell) (input : Bytes) :
    (run arguments sh input).output.bytes = t.outline.encode := by
  rw [run, show taskOf _ _ = _ from h, perform]
  simp only [hparse]
  rfl

/-- **An outline loses nothing.** Two trees with the same outline are the same, if no text of a call
has a line feed in it. So two lines without a line feed that are accepted are the same, if the same
is printed when the program is asked for their outlines. -/
theorem outline_tells_tree_and_line :
    (∀ t t' : Tree, t.Unbroken → t'.Unbroken → t.outline = t'.outline → t = t') ∧
    ∀ (line line' : Text) (t t' : Tree), line.Unbroken → line'.Unbroken →
      Tree.parse line = .ok t → Tree.parse line' = .ok t' →
      ∀ (arguments arguments' : List Text) (sh sh' : Shell) (input input' : Bytes),
        AsksForOutline arguments line → AsksForOutline arguments' line' →
        (run arguments sh input).output.bytes = (run arguments' sh' input').output.bytes →
        line = line' := by
  refine ⟨fun t t' ↦ Tree.outline_inj, ?_⟩
  intro line line' t t' hline hline' hparse hparse' arguments arguments' sh sh' input input' hasks
    hasks' hbytes
  rw [bytes_run_outline hasks hparse, bytes_run_outline hasks' hparse', Text.encode_inj] at hbytes
  obtain rfl : t = t' :=
    Tree.outline_inj (Tree.unbroken_of_parse hline hparse) (Tree.unbroken_of_parse hline' hparse')
      hbytes
  rw [← (Tree.parse_eq_ok_iff_render.1 hparse).2, (Tree.parse_eq_ok_iff_render.1 hparse').2]

/-- A call whose text is that of a pipe in an outline, and a pipe. -/
theorem outline_tells_tree_and_line_awkward :
    let line : Text := "a;'\tPipe Node'".toList
    let line' : Text := "a;\t'Pipe'|Node".toList
    let printed (line : Text) := (run ["minish".toList, "-t".toList, "-c".toList, line]
      { env := { workingDir := [Path.slash] }, files := .empty } []).output.bytes
    line.Unbroken ∧ line'.Unbroken ∧
    Tree.parse line = .ok (.seq (.call "a".toList) (.call "'\tPipe Node'".toList)) ∧
    Tree.parse line' =
      .ok (.seq (.call "a".toList) (.pipe (.call "\t'Pipe'".toList) (.call "Node".toList))) ∧
    printed line ≠ printed line' := by
  intro line line' printed
  have hline : line.Unbroken := by decide
  have hline' : line'.Unbroken := by decide
  have hparse :
      Tree.parse line = .ok (.seq (.call "a".toList) (.call "'\tPipe Node'".toList)) := by
    decide
  have hparse' : Tree.parse line' =
      .ok (.seq (.call "a".toList) (.pipe (.call "\t'Pipe'".toList) (.call "Node".toList))) := by
    decide
  refine ⟨hline, hline', hparse, hparse', fun heq ↦ absurd ?_ (by decide : line ≠ line')⟩
  exact outline_tells_tree_and_line.2 line line' _ _ hline hline' hparse hparse' _ _ _ _ _ _
    (asksForOutline _ line) (asksForOutline _ line') heq

/-- With line feeds in the texts an outline can be that of two trees. -/
example :
    (Tree.pipe (.call "a\n\tCall node: b".toList) (.call "c".toList)).outline =
      (Tree.pipe (.call "a".toList) (.call "b\n\tCall node: c".toList)).outline := by
  decide

end CommandLine

end LineShell
