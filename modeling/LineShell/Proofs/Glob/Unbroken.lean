import LineShell.Glob.Expansion
import LineShell.Proofs.Files.Unbroken

/-!
# Expansion in an unbroken tree

What an argument stands for is made of its segments and of names of the files. So in an unbroken
tree unbroken arguments stand for unbroken texts (`Glob.unbroken_of_mem_expandArguments`).
-/

namespace LineShell.Glob

variable {files : Files} {dir : Path} {t shown token : Text}

theorem unbroken_joinShown (hshown : shown.Unbroken) (ht : t.Unbroken) :
    (joinShown shown t).Unbroken := by
  rw [joinShown]
  split
  · exact ht
  split
  · exact Text.unbroken_append.2 ⟨hshown, ht⟩
  · exact Text.unbroken_append.2 ⟨hshown, Text.unbroken_cons.2 ⟨by decide, ht⟩⟩

/-- What a segment matches is the name of an entry. -/
theorem unbroken_of_mem_matchingNames (hfiles : files.Unbroken) {segment : Text}
    (ht : t ∈ matchingNames files dir segment) : t.Unbroken := by
  rw [matchingNames] at ht
  split at ht
  · next g entries _ hentries =>
    obtain ⟨name, hname, hread⟩ := List.mem_filterMap.1 (List.mem_filter.1 ht).1
    have hunbroken : Path.Unbroken name := (hfiles.entries hentries).of_mem_names hname
    rw [← Utf8.decode?_eq_some_iff.1 hread] at hunbroken
    exact Path.unbroken_of_ofText hunbroken
  · cases ht

theorem unbroken_of_mem_walk (hfiles : files.Unbroken) {segments : List Text}
    (hsegments : ∀ segment ∈ segments, segment.Unbroken) (hshown : shown.Unbroken)
    (ht : t ∈ walk files segments dir shown) : t.Unbroken := by
  induction segments generalizing dir shown with
  | nil => exact List.mem_singleton.1 ht ▸ hshown
  | cons segment rest ih =>
    obtain ⟨hsegment, hrest⟩ := List.forall_mem_cons.1 hsegments
    rw [walk] at ht
    split at ht
    · exact ih hrest hshown ht
    split at ht
    · obtain ⟨name, hname, ht⟩ := List.mem_flatMap.1 ht
      have hunbroken : name.Unbroken := unbroken_of_mem_matchingNames hfiles hname
      exact ih hrest (unbroken_joinShown hshown hunbroken) ht
    · exact ih hrest (unbroken_joinShown hshown hsegment) ht

theorem unbroken_of_mem_expand (hfiles : files.Unbroken) (htoken : token.Unbroken)
    (ht : t ∈ expand files dir token) : t.Unbroken := by
  have hfound : ∀ {dir shown text}, Text.Unbroken shown → Text.Unbroken text →
      ∀ t ∈ walk files (Text.pieces '/' text) dir shown, t.Unbroken :=
    fun hshown htext _ ht ↦
      unbroken_of_mem_walk hfiles (fun _ ↦ htext.of_mem_pieces) hshown ht
  unfold expand at ht
  dsimp only at ht
  split at ht
  · split at ht
    · exact List.mem_singleton.1 ht ▸ htoken
    · exact hfound (by decide) (Text.unbroken_cons.1 htoken).2 t ht
  · split at ht
    · exact List.mem_singleton.1 ht ▸ htoken
    · exact hfound Text.unbroken_nil htoken t ht

/-- **Expansion adds no line break.** -/
theorem unbroken_of_mem_expandArguments (hfiles : files.Unbroken) {kept : Option Nat}
    {args : List Text} (hargs : ∀ arg ∈ args, arg.Unbroken)
    (ht : t ∈ expandArguments files dir kept args) : t.Unbroken := by
  obtain ⟨⟨arg, i⟩, hmem, ht⟩ := List.mem_flatMap.1 ht
  have harg : arg.Unbroken := hargs arg (List.fst_mem_of_mem_zipIdx hmem)
  dsimp only at ht
  split at ht
  · exact List.mem_singleton.1 ht ▸ harg
  · exact unbroken_of_mem_expand hfiles harg ht

end LineShell.Glob
