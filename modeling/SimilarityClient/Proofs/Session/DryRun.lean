import SimilarityClient.Proofs.Client.Body
import SimilarityClient.Proofs.Collection.Selection
import SimilarityClient.Proofs.Session.Course

/-! # Dry runs

A dry run lists the files that the real run sends, in the order of the parts
of the request. Without a selection the listing command prints the same paths.
-/

namespace SimilarityClient

namespace Session

variable {files : List SourceFile}

end Session

namespace Comparison

variable (c : Comparison)

/-- A request has one part for every file, in order and numbered from one, with the base name of
its path and its bytes. -/
structure Carries (files : List SourceFile) (r : Request) : Prop where
  named : ∀ f ∈ files, f = SourceFile.ofPath f.path
  parts : Client.Carries c.world.tree c.world.boundary files r

variable {c} {k : Config} {files : List SourceFile} {r : Request}

theorem Prepares.unique {k' : Config} {files' : List SourceFile} (h : c.Prepares k files)
    (h' : c.Prepares k' files') : k = k' ∧ files = files' := by
  obtain ⟨found, hf, hs⟩ := h.collected
  obtain ⟨found', hf', hs'⟩ := h'.collected
  cases hf.symm.trans hf'
  exact ⟨Except.ok.inj (h.configured.symm.trans h'.configured), Except.ok.inj (hs.symm.trans hs')⟩

end Comparison

end SimilarityClient
