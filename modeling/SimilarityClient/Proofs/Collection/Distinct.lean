import SimilarityClient.Proofs.Collection.Arrangement
import SimilarityClient.Proofs.FileTree.Place

/-! # Distinct files

Paths are compared as they are written down. Without links two collected paths
lead to one file exactly if they have the same place, which cannot be told from
their components if one of them steps up, or if they begin in different ways.
-/

namespace SimilarityClient

namespace Collection

variable {tree : FileTree} {paths : List Path} {extensions : List String}
  {files : List SourceFile} {f g : SourceFile}

theorem isFile_of_mem_collect (h : tree.WellFormed)
    (hc : collect tree paths extensions = .ok files) (hf : f ∈ files) :
    tree.isFile f.path = true := by
  obtain ⟨all, ho, rfl⟩ := collect_eq_ok_iff.1 hc
  exact (finds_of_ofPaths h ho).1.dropRepeats_sort.isFile f hf

theorem pairwise_lt_of_collect (h : tree.WellFormed)
    (hc : collect tree paths extensions = .ok files) :
    files.Pairwise fun f g => compare f.path g.path = .lt := by
  obtain ⟨all, ho, rfl⟩ := collect_eq_ok_iff.1 hc
  exact SourceFile.pairwise_lt_dropRepeats (finds_of_ofPaths h ho).2

theorem locate_of_isFile (hu : tree.Unlinked) {p : Path} (hf : tree.isFile p = true) :
    tree.locate p = .ok (p.place tree.current) := by
  rcases FileTree.isFile_iff.1 hf with ⟨content, hs⟩ | hs <;>
  · obtain ⟨loc, hl, -⟩ := FileTree.stat_eq_ok_iff.1 hs
    rw [hu.place_eq hl, hl]

/-- Without links all that is collected are regular files at their places. No two of them have the
same components, and two are the same file exactly if they have the same place. Those that begin
alike and take no step up are different files. -/
theorem collect_apart (tree : FileTree) (h : tree.WellFormed) (hu : tree.Unlinked)
    (paths : List Path) (extensions : List String) (files : List SourceFile)
    (hc : collect tree paths extensions = .ok files) :
    (∀ f ∈ files, tree.isFile f.path = true ∧
      tree.locate f.path = .ok (f.path.place tree.current)) ∧
    files.Pairwise fun f g => f.path.components ≠ g.path.components ∧
      (tree.locate f.path = tree.locate g.path ↔
        f.path.place tree.current = g.path.place tree.current) ∧
      (f.path.BeginAlike g.path → tree.locate f.path ≠ tree.locate g.path) := by
  have hl : ∀ f ∈ files, tree.isFile f.path = true ∧
      tree.locate f.path = .ok (f.path.place tree.current) := fun f hf =>
    ⟨isFile_of_mem_collect h hc hf, locate_of_isFile hu (isFile_of_mem_collect h hc hf)⟩
  refine ⟨hl, (pairwise_lt_of_collect h hc).imp_of_mem ?_⟩
  intro f g hf hg hlt
  have hne : f.path.components ≠ g.path.components := by
    rw [ne_eq, ← Path.compare_eq_iff, hlt]
    simp
  have hp : tree.locate f.path = tree.locate g.path ↔
      f.path.place tree.current = g.path.place tree.current := by
    rw [(hl f hf).2, (hl g hg).2, Except.ok.injEq]
  exact ⟨hne, hp, fun ha he => hne (ha.components_eq (hp.1 he))⟩

theorem collect_apart_sample :
    let tree : FileTree := ⟨[(["work"], .directory), (["work", "a.py"], .file []),
      (["work", "b.py"], .file [])], ["work"]⟩
    tree.WellFormed ∧ tree.Unlinked ∧
    ∃ files, collect tree [⟨"b.py"⟩, ⟨"."⟩, ⟨".//a.py"⟩] ["py"] = .ok files ∧
      ∀ f ∈ files, tree.locate f.path = .ok (f.path.place tree.current) := by
  intro tree
  have h : tree.WellFormed := by decide +kernel
  have hu : tree.Unlinked := by decide
  obtain ⟨files, hc⟩ : ∃ files, collect tree [⟨"b.py"⟩, ⟨"."⟩, ⟨".//a.py"⟩] ["py"] = .ok files :=
    (exists_collect_iff h).2 (by decide +kernel)
  have ha := collect_apart tree h hu [⟨"b.py"⟩, ⟨"."⟩, ⟨".//a.py"⟩] ["py"] files hc
  exact ⟨h, hu, files, hc, fun f hf => (ha.1 f hf).2⟩

theorem collect_pair (ho : ofPaths tree (Extension.normalize extensions) paths = .ok [f, g])
    (hl : f.le g = true) (hs : f.same g = false) :
    collect tree paths extensions = .ok [f, g] := by
  refine collect_eq_ok_iff.2 ⟨_, ho, ?_⟩
  rw [SourceFile.sort, List.mergeSort_of_pairwise (by simpa using hl), SourceFile.dropRepeats,
    SourceFile.dropRepeatsOf, hs]
  rfl

/-- One file is collected twice: by way of its directory and by its name, by way of a step up, and
from the root and from the working directory. -/
theorem collect_twice :
    let tree : FileTree := ⟨[(["work"], .directory), (["work", "a.py"], .file []),
      (["work", "d"], .directory)], ["work"]⟩
    tree.WellFormed ∧ tree.Unlinked ∧
    ∀ paths ∈ ([[⟨"."⟩, ⟨"a.py"⟩], [⟨"a.py"⟩, ⟨"d/../a.py"⟩], [⟨"/work/a.py"⟩, ⟨"a.py"⟩]] :
        List (List Path)),
      ∃ f g, collect tree paths [".py"] = .ok [f, g] ∧
        tree.locate f.path = .ok ["work", "a.py"] ∧ tree.locate g.path = .ok ["work", "a.py"] := by
  intro tree
  refine ⟨by decide +kernel, by decide, ?_⟩
  simp only [List.mem_cons, List.not_mem_nil, or_false, forall_eq_or_imp, forall_eq]
  refine ⟨⟨.ofPath ⟨"./a.py"⟩, .ofPath ⟨"a.py"⟩, ?_⟩, ⟨.ofPath ⟨"a.py"⟩, .ofPath ⟨"d/../a.py"⟩, ?_⟩,
    .ofPath ⟨"/work/a.py"⟩, .ofPath ⟨"a.py"⟩, ?_⟩ <;>
  exact ⟨collect_pair (by decide +kernel) (by decide +kernel) (by decide +kernel),
    by decide +kernel, by decide +kernel⟩

end Collection

end SimilarityClient
