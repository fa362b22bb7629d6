import LineShell.Proofs.Stream.Sink
import LineShell.Proofs.Text.Decoding
import LineShell.Stream.Pipe
import Mathlib.Algebra.GroupWithZero.Nat

/-!
# What goes through a pipe

All bytes that are written to a pipe come out of it, once and in their order. How they were cut into
chunks does not matter, nor what is done with other pipes in between.

A pipe holds certain bytes (`Pipes.Holds`). Every step adds to them what it writes to the pipe, and
leaves none if it takes them (`Pipes.Holds.step`); so behind any steps, what was taken and what is
still there are together what was written (`Pipes.Holds.after`).

A reader is known by what it has not read yet (`Pipes.Reader.rest`), since its position may only
come to the end of the bytes, not go past it.
-/

namespace LineShell

namespace Pipes

variable {ps : Pipes} {number : Nat} {bytes : Bytes}

/-- The pipe with the number was opened, and it holds the bytes. -/
def Holds (ps : Pipes) (number : Nat) (bytes : Bytes) : Prop := ps.buffers[number]? = some ⟨bytes⟩

/-! ### One step -/

theorem holds_opened (ps : Pipes) : ps.opened.2.2.Holds ps.buffers.length [] :=
  List.getElem?_concat_length

namespace Holds

theorem bytes_eq (h : ps.Holds number bytes) : ps.bytes ⟨number⟩ = bytes := by
  rw [Pipes.bytes, h]

theorem contents_eq (h : ps.Holds number bytes) :
    ps.contents ⟨number⟩ = Utf8.decodeLossy bytes := by
  rw [contents, h]
  rfl

theorem set {ps : Pipes} (h : ps.Holds number bytes) (b : Buffer) :
    Holds ⟨ps.buffers.set number b⟩ number b.bytes := by
  obtain ⟨hlt, -⟩ := List.getElem?_eq_some_iff.1 h
  exact List.getElem?_set_self hlt

/-- A pipe accepts a chunk whole and puts it behind what it holds. -/
theorem write (h : ps.Holds number bytes) (chunk : Bytes) :
    (ps.write ⟨number⟩ chunk).1 = chunk.length ∧
      (ps.write ⟨number⟩ chunk).2.Holds number (bytes ++ chunk) := by
  rw [Pipes.write, h]
  exact ⟨rfl, h.set _⟩

/-- All that a pipe holds is taken. -/
theorem take (h : ps.Holds number bytes) :
    (ps.take ⟨number⟩).1 = bytes ∧ (ps.take ⟨number⟩).2.Holds number [] := by
  rw [Pipes.take, h]
  exact ⟨rfl, h.set _⟩

theorem opened (h : ps.Holds number bytes) : ps.opened.2.2.Holds number bytes := by
  obtain ⟨hlt, -⟩ := List.getElem?_eq_some_iff.1 h
  exact (List.getElem?_append_left hlt).trans h

/-- Writing to another pipe changes nothing. -/
theorem write_of_ne (h : ps.Holds number bytes) {writer : Writer} (hne : writer.number ≠ number)
    (chunk : Bytes) : (ps.write writer chunk).2.Holds number bytes := by
  rw [Pipes.write]
  cases ps.buffers[writer.number]? with
  | none => exact h
  | some b => exact (List.getElem?_set_ne hne).trans h

/-- Taking from another pipe changes nothing. -/
theorem take_of_ne (h : ps.Holds number bytes) {handle : Handle} (hne : handle.number ≠ number) :
    (ps.take handle).2.Holds number bytes := by
  rw [Pipes.take]
  cases ps.buffers[handle.number]? with
  | none => exact h
  | some b => exact (List.getElem?_set_ne hne).trans h

end Holds

/-! ### Steps -/

/-- What a step writes to the pipe. -/
def Step.chunk (writer : Writer) : Step → Bytes
  | .writing w chunk => if w = writer then chunk else []
  | _ => []

/-- All that steps write to the pipe, in order. -/
def written (writer : Writer) (steps : List Step) : Bytes := steps.flatMap (Step.chunk writer)

/-- What a step takes from the pipe. -/
def taking (ps : Pipes) (handle : Handle) (step : Step) : Bytes :=
  if step = .taking handle then (ps.take handle).1 else []

/-- All that steps take from the pipe, in order. -/
def taken (ps : Pipes) (handle : Handle) : List Step → Bytes
  | [] => []
  | step :: steps => ps.taking handle step ++ (ps.step step).taken handle steps

/-- **A step neither loses nor repeats anything**: what it takes and what it leaves are together
what was there and what it writes. -/
theorem Holds.step (h : ps.Holds number bytes) (step : Step) :
    ∃ left, (ps.step step).Holds number left ∧
      ps.taking ⟨number⟩ step ++ left = bytes ++ step.chunk ⟨number⟩ := by
  cases step with
  | opening => exact ⟨bytes, h.opened, (List.append_nil bytes).symm⟩
  | writing writer chunk =>
    by_cases hw : writer = ⟨number⟩
    · subst hw
      exact ⟨bytes ++ chunk, (h.write chunk).2, by simp [taking, Step.chunk]⟩
    · have hne : writer.number ≠ number := fun heq ↦ hw (heq ▸ rfl)
      exact ⟨bytes, h.write_of_ne hne chunk, by simp [taking, Step.chunk, hw]⟩
  | taking handle =>
    by_cases hh : handle = ⟨number⟩
    · subst hh
      exact ⟨[], h.take.2, by simp [Pipes.taking, Step.chunk, h.take.1]⟩
    · have hne : handle.number ≠ number := fun heq ↦ hh (heq ▸ rfl)
      exact ⟨bytes, h.take_of_ne hne, by simp [Pipes.taking, Step.chunk, hh]⟩

/-- **Steps neither lose nor repeat nor reorder anything.** -/
theorem Holds.after (h : ps.Holds number bytes) (steps : List Step) :
    ∃ left, (ps.after steps).Holds number left ∧
      ps.taken ⟨number⟩ steps ++ left = bytes ++ written ⟨number⟩ steps := by
  induction steps generalizing ps bytes with
  | nil => exact ⟨bytes, h, (List.append_nil bytes).symm⟩
  | cons step steps ih =>
    obtain ⟨between, hbetween, hstep⟩ := h.step step
    obtain ⟨left, hleft, hsteps⟩ := ih hbetween
    refine ⟨left, hleft, ?_⟩
    calc ps.taken ⟨number⟩ (step :: steps) ++ left
        = ps.taking ⟨number⟩ step ++ (between ++ written ⟨number⟩ steps) := by
          rw [taken, List.append_assoc, hsteps]
      _ = bytes ++ written ⟨number⟩ (step :: steps) := by
          rw [← List.append_assoc, hstep, written, written, List.flatMap_cons, List.append_assoc]

theorem taken_eq_nil {handle : Handle} {steps : List Step} (h : .taking handle ∉ steps)
    (ps : Pipes) : ps.taken handle steps = [] := by
  induction steps generalizing ps with
  | nil => rfl
  | cons step steps ih =>
    obtain ⟨hstep, hsteps⟩ := not_or.1 fun hor ↦ h (List.mem_cons.2 hor)
    rw [taken, taking, if_neg (Ne.symm hstep), ih hsteps, List.nil_append]

/-- What is not taken gathers in the pipe. -/
theorem Holds.after_untaken (h : ps.Holds number bytes) {steps : List Step}
    (huntaken : .taking ⟨number⟩ ∉ steps) :
    (ps.after steps).Holds number (bytes ++ written ⟨number⟩ steps) := by
  obtain ⟨left, hleft, hall⟩ := h.after steps
  rw [taken_eq_nil huntaken, List.nil_append] at hall
  exact hall ▸ hleft

theorem written_map_writing (writer : Writer) (chunks : List Bytes) :
    written writer (chunks.map (.writing writer)) = chunks.flatten := by
  simp [written, List.flatMap_map, Step.chunk, List.flatMap_id']

/-! ### Reading -/

namespace Reader

/-- What was not read yet. -/
def rest (r : Reader) : Bytes := r.bytes.drop r.position

theorem rest_read (r : Reader) (size : Nat) : (r.read size).2.rest = r.rest.drop size := by
  show r.bytes.drop (r.position + (r.rest.take size).length) = r.rest.drop size
  rw [← List.drop_drop, ← rest, List.length_take]
  rcases Nat.le_total size r.rest.length with h | h
  · rw [Nat.min_eq_left h]
  · rw [Nat.min_eq_right h, List.drop_length, List.drop_eq_nil_of_le h]

theorem source_read (r : Reader) (size : Nat) :
    r.source.read size = (.ok (r.read size).1, (r.read size).2.source) := by
  show (Except.ok (r.rest.take size), Source.bytes (r.rest.drop size)) =
    (.ok (r.rest.take size), .bytes (r.read size).2.rest)
  rw [rest_read]

/-- What comes is the front of what was not read, as far as there is space for it. -/
theorem flatten_readAll (r : Reader) (sizes : List Nat) :
    (r.readAll sizes).1.flatten = r.rest.take sizes.sum := by
  induction sizes generalizing r with
  | nil => rfl
  | cons size sizes ih =>
    show r.rest.take size ++ ((r.read size).2.readAll sizes).1.flatten = _
    rw [ih, rest_read, List.sum_cons, List.take_add]

theorem length_readAll (r : Reader) (sizes : List Nat) :
    (r.readAll sizes).1.length = sizes.length := by
  induction sizes generalizing r with
  | nil => rfl
  | cons size sizes ih => exact congrArg (· + 1) (ih (r.read size).2)

/-- A single reading gets as many bytes as there is space for, or all that are left. -/
theorem exists_getElem?_readAll (r : Reader) {sizes : List Nat} {k size : Nat}
    (h : sizes[k]? = some size) :
    ∃ came, (r.readAll sizes).1[k]? = some came ∧
      came.length = min size (r.rest.length - (sizes.take k).sum) := by
  induction sizes generalizing r k with
  | nil => simp at h
  | cons first sizes ih =>
    cases k with
    | zero =>
      obtain rfl := Option.some.inj h
      exact ⟨r.rest.take first, rfl, List.length_take⟩
    | succ k =>
      obtain ⟨came, hcame, hlength⟩ := ih (r.read first).2 h
      refine ⟨came, hcame, ?_⟩
      rw [hlength, rest_read, List.length_drop, List.take_succ_cons, List.sum_cons,
        Nat.sub_sub]

end Reader

/-! ### From one end to the other -/

theorem foldlM_write_fresh (chunks : List Bytes) :
    chunks.foldlM Sink.write .fresh = .ok (Sink.fresh.append chunks.flatten) := by
  suffices h : ∀ s : Sink, s.refuses = false →
      chunks.foldlM Sink.write s = .ok (s.append chunks.flatten) from h .fresh rfl
  induction chunks with
  | nil => exact fun s _ ↦ congrArg Except.ok s.append_nil.symm
  | cons chunk chunks ih =>
    intro s hs
    rw [List.foldlM_cons, Sink.write_of_accepts hs]
    exact (ih (s.append chunk) hs).trans (by rw [Sink.append_append, List.flatten_cons])

/-- **A pipe neither loses nor repeats nor reorders bytes**, whatever is done with other pipes. A
pipe is opened, and steps follow. Every chunk is accepted whole. What was taken out of the pipe and
what it holds are together what was written to it; what it holds is shown as the text of these bytes
together, however they were cut. If nothing was taken before, taking gives all that was written and
leaves nothing to either party; a reader of it gets what it asks for up to the end, and nothing
behind it. The input and the output of a call are such a reader and such a pipe. -/
theorem written_bytes_arrive (ps : Pipes) :
    let writer := ps.opened.1
    let handle := ps.opened.2.1
    let fresh := ps.opened.2.2
    (∀ chunks : List Bytes, written writer (chunks.map (.writing writer)) = chunks.flatten) ∧
    (∀ steps : List Step,
      let now := fresh.after steps
      (∀ chunk, (now.write writer chunk).1 = chunk.length) ∧
      fresh.taken handle steps ++ now.bytes handle = written writer steps ∧
      now.contents writer = Utf8.decodeLossy (now.bytes handle) ∧
      (.taking handle ∉ steps →
        let bytes := written writer steps
        now.bytes handle = bytes ∧
        now.contents writer = Utf8.decodeLossy bytes ∧
        (∀ (t : Text) (rest : Bytes), bytes = t.encode ++ rest →
          now.contents writer = t ++ Utf8.decodeLossy rest) ∧
        (∀ steps', .taking handle ∉ steps' → written writer steps' = bytes →
          (fresh.after steps').contents writer = now.contents writer) ∧
        (now.take handle).1 = bytes ∧
        (now.take handle).2.bytes handle = [] ∧ (now.take handle).2.contents writer = [] ∧
        ∀ sizes : List Nat,
          let reads := (Reader.readAll ⟨(now.take handle).1, 0⟩ sizes).1
          reads.length = sizes.length ∧
          reads.flatten = bytes.take (min sizes.sum bytes.length) ∧
          ∀ k size, sizes[k]? = some size → ∃ came, reads[k]? = some came ∧
            came.length = min size (bytes.length - (sizes.take k).sum))) ∧
    (∀ chunks : List Bytes,
      chunks.foldlM Sink.write .fresh = .ok (Sink.fresh.append chunks.flatten)) ∧
    ∀ (r : Reader) (size : Nat),
      r.source.read size = (.ok (r.read size).1, (r.read size).2.source) := by
  intro writer handle fresh
  have hfresh : fresh.Holds ps.buffers.length [] := holds_opened ps
  refine ⟨written_map_writing writer, ?_, foldlM_write_fresh, Reader.source_read⟩
  intro steps now
  obtain ⟨left, hleft, hall⟩ := hfresh.after steps
  have hbytes : now.bytes handle = left := hleft.bytes_eq
  have hcontents : now.contents writer = Utf8.decodeLossy left := hleft.contents_eq
  refine ⟨fun chunk ↦ (hleft.write chunk).1, hbytes ▸ hall, hbytes ▸ hcontents, ?_⟩
  intro huntaken bytes
  have hheld : now.Holds ps.buffers.length bytes := hfresh.after_untaken huntaken
  have hshown : now.contents writer = Utf8.decodeLossy bytes := hheld.contents_eq
  obtain ⟨htaken, hnone⟩ := hheld.take
  refine ⟨hheld.bytes_eq, hshown, fun t rest ht ↦ ?_, fun steps' huntaken' hsame ↦ ?_, htaken,
    hnone.bytes_eq, hnone.contents_eq, ?_⟩
  · rw [hshown, ht, Utf8.decodeLossy_encode_append]
  · have hheld' : (fresh.after steps').Holds ps.buffers.length (written writer steps') :=
      hfresh.after_untaken huntaken'
    exact (hsame ▸ hheld').contents_eq.trans hshown.symm
  · intro sizes reads
    have hrest : (Reader.mk (now.take handle).1 0).rest = bytes := htaken
    refine ⟨Reader.length_readAll _ sizes, ?_, fun k size hk ↦ ?_⟩
    · rw [Reader.flatten_readAll, hrest, ← List.take_eq_take_min]
    · obtain ⟨came, hcame, hlength⟩ := Reader.exists_getElem?_readAll ⟨(now.take handle).1, 0⟩ hk
      exact ⟨came, hcame, hrest ▸ hlength⟩

/-- A character that is cut in two, or not, an empty chunk, and a pipe that was there before. -/
theorem written_bytes_arrive_cut :
    let ps : Pipes := ⟨[⟨[0x7A]⟩]⟩
    let writer := ps.opened.1
    let handle := ps.opened.2.1
    let fresh := ps.opened.2.2
    let early : List Step := [.writing writer [0xC3], .opening, .writing ⟨0⟩ [0x79]]
    let steps := early ++ [.writing writer [], .taking ⟨0⟩, .writing writer [0xA9, 0xFF]]
    let whole : List Step := [.writing writer [0xC3, 0xA9], .writing writer [0xFF]]
    let now := fresh.after steps
    let reads := (Reader.readAll ⟨(now.take handle).1, 0⟩ [1, 0, 5, 2]).1
    .taking handle ∉ early ∧ .taking handle ∉ steps ∧ [1, 0, 5, 2][2]? = some 5 ∧
    (fresh.after early).contents writer = ['\uFFFD'] ∧
    now.bytes handle = [0xC3, 0xA9, 0xFF] ∧ now.contents writer = ['é', '\uFFFD'] ∧
    .taking handle ∉ whole ∧ written writer whole = written writer steps ∧
    (fresh.after whole).contents writer = now.contents writer ∧
    (now.take handle).2.bytes handle = [] ∧ reads.flatten = [0xC3, 0xA9, 0xFF] ∧
    ∃ came, reads[2]? = some came ∧ came.length = 2 := by
  intro ps writer handle fresh early steps whole now reads
  have hearly : .taking handle ∉ early := by decide
  have hsteps : .taking handle ∉ steps := by decide
  have hsize : [1, 0, 5, 2][2]? = some 5 := rfl
  obtain ⟨-, hall, -, -⟩ := written_bytes_arrive ps
  obtain ⟨-, -, -, hbegun⟩ := hall early
  obtain ⟨-, hcut, -⟩ := hbegun hearly
  obtain ⟨-, -, -, hheld⟩ := hall steps
  obtain ⟨hbytes, -, hshown, hsame, -, hnone, -, hreads⟩ := hheld hsteps
  obtain ⟨-, hjoined, hsingle⟩ := hreads [1, 0, 5, 2]
  have hwritten : written writer steps = [0xC3, 0xA9, 0xFF] := by decide
  have hwhole : .taking handle ∉ whole := by decide
  have hcuts : written writer whole = written writer steps := by decide
  obtain ⟨came, hcame, hlength⟩ := hsingle 2 5 hsize
  refine ⟨hearly, hsteps, hsize, hcut, hbytes.trans hwritten, ?_, hwhole, hcuts,
    hsame whole hwhole hcuts, hnone, ?_, came, hcame, ?_⟩
  · exact hshown ['é'] [0xFF] hwritten
  · exact hjoined.trans (by rw [hwritten]; rfl)
  · exact hlength.trans (by rw [hwritten]; rfl)

end Pipes

end LineShell
