import LineShell.Stream.Source

/-!
# Buffers and sinks

A **buffer** keeps what is written to it until it is taken; it accepts every chunk whole. A **sink**
is a buffer that may refuse what is written: this is how a closed output behaves. Writing nothing
always succeeds.
-/

namespace LineShell

/-- Bytes that were written and not yet taken. -/
structure Buffer where
  bytes : Bytes := []
  deriving DecidableEq, Repr

namespace Buffer

/-- Writes a chunk behind what is there; gives the number of bytes accepted. -/
def write (b : Buffer) (chunk : Bytes) : Nat × Buffer := (chunk.length, ⟨b.bytes ++ chunk⟩)

/-- What was written, as text. -/
def contents (b : Buffer) : Text := Utf8.decodeLossy b.bytes

/-- Takes everything out. -/
def take (b : Buffer) : Bytes × Buffer := (b.bytes, ⟨[]⟩)

end Buffer

/-- Where a line writes its output or its errors. -/
structure Sink where
  buffer : Buffer := {}
  refuses : Bool := false
  deriving DecidableEq, Repr

namespace Sink

/-- A sink that accepts everything, with nothing in it yet. -/
def fresh : Sink := {}

/-- Writes a chunk, or fails without writing any of it. -/
def write (s : Sink) (chunk : Bytes) : Except StreamFault Sink :=
  if s.refuses && !chunk.isEmpty then .error .writeRefused
  else .ok { s with buffer := (s.buffer.write chunk).2 }

/-- The bytes that were written. -/
def bytes (s : Sink) : Bytes := s.buffer.bytes

end Sink

end LineShell
