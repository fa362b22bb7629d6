import LineShell.Stream.Sink

/-!
# Pipes

A **pipe** is a buffer that two parties share. One has the end that is written to, and can look at
what was written as a text; the other has a handle on the bytes and can take them out. Neither holds
the buffer: both know the pipe by its number among those that were opened. What was taken out of a
pipe is read from its front by a **reader**, which keeps the bytes and a position in them.
-/

namespace LineShell

/-- The buffers of the pipes that were opened, in the order of their numbers. -/
structure Pipes where
  buffers : List Buffer := []
  deriving DecidableEq, Repr

namespace Pipes

/-- The end of a pipe that is written to. -/
structure Writer where
  number : Nat
  deriving DecidableEq, Repr

/-- A handle on the bytes of a pipe. -/
structure Handle where
  number : Nat
  deriving DecidableEq, Repr

/-- Opens a pipe. -/
def opened (ps : Pipes) : Writer × Handle × Pipes :=
  (⟨ps.buffers.length⟩, ⟨ps.buffers.length⟩, ⟨ps.buffers ++ [⟨[]⟩]⟩)

/-- Writes a chunk; gives the number of bytes accepted. Without a pipe none are. -/
def write (ps : Pipes) (writer : Writer) (chunk : Bytes) : Nat × Pipes :=
  match ps.buffers[writer.number]? with
  | some b =>
    let (accepted, b) := b.write chunk
    (accepted, ⟨ps.buffers.set writer.number b⟩)
  | none => (0, ps)

/-- What a pipe holds, as text. -/
def contents (ps : Pipes) (writer : Writer) : Text :=
  match ps.buffers[writer.number]? with
  | some b => b.contents
  | none => []

/-- What a pipe holds. -/
def bytes (ps : Pipes) (handle : Handle) : Bytes :=
  match ps.buffers[handle.number]? with
  | some b => b.bytes
  | none => []

/-- Takes everything out of a pipe. -/
def take (ps : Pipes) (handle : Handle) : Bytes × Pipes :=
  match ps.buffers[handle.number]? with
  | some b =>
    let (taken, b) := b.take
    (taken, ⟨ps.buffers.set handle.number b⟩)
  | none => ([], ps)

/-- What is done with pipes. -/
inductive Step where
  | opening
  | writing (writer : Writer) (chunk : Bytes)
  | taking (handle : Handle)
  deriving DecidableEq, Repr

/-- The pipes behind a step. -/
def step (ps : Pipes) : Step → Pipes
  | .opening => ps.opened.2.2
  | .writing writer chunk => (ps.write writer chunk).2
  | .taking handle => (ps.take handle).2

/-- The pipes behind steps, one after the other. -/
def after (ps : Pipes) (steps : List Step) : Pipes := steps.foldl step ps

/-! ### Reading -/

/-- Reads bytes from the front. -/
structure Reader where
  bytes : Bytes
  /-- How many bytes were read. -/
  position : Nat := 0
  deriving DecidableEq, Repr

namespace Reader

/-- Reads into a place of the given size; gives the bytes that came. -/
def read (r : Reader) (size : Nat) : Bytes × Reader :=
  let came := (r.bytes.drop r.position).take size
  (came, { r with position := r.position + came.length })

/-- Reads into places of the given sizes, one after the other. -/
def readAll (r : Reader) : List Nat → List Bytes × Reader
  | [] => ([], r)
  | size :: sizes =>
    let (came, r) := r.read size
    let (more, r) := r.readAll sizes
    (came :: more, r)

/-- The source with the bytes that were not read. -/
def source (r : Reader) : Source := .bytes (r.bytes.drop r.position)

end Reader

end Pipes

end LineShell
