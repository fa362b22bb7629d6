import LineShell.Stream.Sink

/-!
# What a sink holds

A sink that accepts what is written to it holds it behind what it held; one that refuses stays as it
is.
-/

namespace LineShell.Sink

/-- The sink with more in it. -/
def append (s : Sink) (bytes : Bytes) : Sink := { s with buffer := ⟨s.buffer.bytes ++ bytes⟩ }

@[simp]
theorem append_nil (s : Sink) : s.append [] = s := by simp [append]

@[simp]
theorem append_append (s : Sink) (a b : Bytes) : (s.append a).append b = s.append (a ++ b) := by
  simp [append]

theorem append_eq_self_iff {s : Sink} {bytes : Bytes} : s.append bytes = s ↔ bytes = [] := by
  refine ⟨fun h ↦ ?_, fun h ↦ h ▸ s.append_nil⟩
  have hbytes : s.buffer.bytes ++ bytes = s.buffer.bytes := congrArg Sink.bytes h
  exact List.append_right_eq_self.1 hbytes

theorem write_of_accepts {s : Sink} (h : s.refuses = false) (bytes : Bytes) :
    s.write bytes = .ok (s.append bytes) := by
  simp [write, append, Buffer.write, h]

theorem write_of_refuses {s : Sink} (h : s.refuses = true) {bytes : Bytes} (hne : bytes ≠ []) :
    s.write bytes = .error .writeRefused := by
  simp [write, h, hne]

end LineShell.Sink
