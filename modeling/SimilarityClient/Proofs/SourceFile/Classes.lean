import SimilarityClient.Proofs.Path.Alike
import SimilarityClient.Proofs.SourceFile.First

/-! # Classes of source files

Files are equal in their order exactly if their paths have the same components.
Of each class of equal files, a stable sort that drops repetitions leaves the one
that came first.
-/

namespace SimilarityClient

namespace SourceFile

variable {f g : SourceFile} {files sorted : List SourceFile} {p q : Path}

/-- The files in order, equal ones in the order in which they came. -/
structure IsStableSort (files sorted : List SourceFile) : Prop where
  perm : sorted.Perm files
  ordered : sorted.Pairwise fun f g => le f g = true
  stable : ∀ f, sorted.filter (compare f · == .eq) = files.filter (compare f · == .eq)

/-- Strictly increasing files, of every class the one that comes first and no other. -/
structure Represents (files left : List SourceFile) : Prop where
  increasing : left.Pairwise fun f g => compare f g = .lt
  firsts : ∀ cs, left.filter (hasComponents cs) = (first? cs files).toList

theorem isStableSort_sort (files : List SourceFile) : IsStableSort files (sort files) := by
  refine ⟨List.mergeSort_perm files le, pairwise_le_sort files, fun f => ?_⟩
  apply filter_sort_of_le
  intro g _ k _ hg hk
  rw [beq_iff_eq] at hg hk
  have hc : compare g k = .eq := Std.TransCmp.eq_trans (Std.OrientedCmp.eq_symm hg) hk
  rw [le, hc]
  rfl

theorem named_ofPath (h : p.fileName?.isSome = true) : Named (ofPath p) := by
  obtain ⟨name, hp⟩ := Option.isSome_iff_exists.1 h
  rw [Named, ofPath, hp]
  exact Path.fileName?_eq_some_iff.1 hp

theorem IsStableSort.first?_eq (h : IsStableSort files sorted) (hn : ∀ f ∈ files, Named f)
    (cs : List Component) : first? cs sorted = first? cs files := by
  by_cases hc : ∃ f ∈ files, f.path.components = cs
  · obtain ⟨f, hf, rfl⟩ := hc
    have he : ∀ g ∈ files, hasComponents f.path.components g = (compare f g == .eq) := by
      intro g hg
      rw [Bool.eq_iff_iff, hasComponents_iff, beq_iff_eq, (hn f hf).compare_eq_iff (hn g hg),
        eq_comm]
    rw [first?, first?, ← List.head?_filter, ← List.head?_filter, List.filter_congr he,
      List.filter_congr fun g hg => he g (h.perm.mem_iff.1 hg), h.stable f]
  · have hm : ∀ f ∈ files, f.path.components ≠ cs := fun f hf he => hc ⟨f, hf, he⟩
    rw [first?_eq_none_iff.2 hm, first?_eq_none_iff]
    exact fun f hf => hm f (h.perm.mem_iff.1 hf)

theorem IsStableSort.represents (h : IsStableSort files sorted) (hn : ∀ f ∈ files, Named f) :
    Represents files (dropRepeats sorted) := by
  have hn' : ∀ f ∈ sorted, Named f := fun f hf => hn f (h.perm.mem_iff.1 hf)
  have hlt := pairwise_lt_of_sorted hn' h.ordered
  constructor
  · refine hlt.imp_of_mem ?_
    intro f g hf hg hfg
    rw [(hn' f (mem_of_mem_dropRepeats hf)).compare_eq (hn' g (mem_of_mem_dropRepeats hg)), hfg]
  · intro cs
    apply eq_of_increasing path (hlt.filter _)
    · cases first? cs files <;> simp
    · intro f
      rw [List.mem_filter, mem_dropRepeats_iff hn' h.ordered, h.first?_eq hn, hasComponents_iff,
        Option.mem_toList]
      constructor
      · rintro ⟨hf, rfl⟩
        exact hf
      · intro hf
        have hc := (mem_of_first? hf).2
        exact ⟨hc.symm ▸ hf, hc⟩

/-- The order of files is that of the components of their paths: it compares files as equal
exactly if their paths are alike, it is reflexive, antisymmetric up to that, transitive and
total, and a stable sort leaves the first of equal files once repetitions are dropped. -/
theorem sort_dropRepeats_represents :
    (∀ p q : Path, p.fileName?.isSome = true → q.fileName?.isSome = true →
      (compare (ofPath p) (ofPath q) = .eq ↔ p.components = q.components) ∧
      (p.components = q.components ↔ p.Alike q) ∧
      (p.components = q.components → (ofPath p).name = (ofPath q).name)) ∧
    (∀ f g k : SourceFile, le f f = true ∧
      (le f g = true → le g f = true → compare f g = .eq) ∧
      (le f g = true → le g k = true → le f k = true) ∧
      (le f g = true ∨ le g f = true) ∧
      (same f g = true ↔ compare f g = .eq)) ∧
    ∀ paths : List Path, (∀ p ∈ paths, p.fileName?.isSome = true) →
      IsStableSort (paths.map ofPath) (sort (paths.map ofPath)) ∧
      ∀ sorted, IsStableSort (paths.map ofPath) sorted →
        Represents (paths.map ofPath) (dropRepeats sorted) := by
  refine ⟨?_, ?_, ?_⟩
  · intro p q hp hq
    have hf := named_ofPath hp
    have hg := named_ofPath hq
    exact ⟨hf.compare_eq_iff hg, Path.components_eq_iff, hf.name_eq hg⟩
  · intro f g k
    refine ⟨?_, ?_, le_trans f g k, ?_, same_iff_compare⟩
    · exact Std.ReflCmp.isLE_rfl
    · exact Std.OrientedCmp.isLE_antisymm
    · rw [← Bool.or_eq_true]
      exact le_total f g
  · intro paths hp
    refine ⟨isStableSort_sort _, fun sorted hs => hs.represents ?_⟩
    intro f hf
    obtain ⟨p, hm, rfl⟩ := List.mem_map.1 hf
    exact named_ofPath (hp p hm)

/-- A path written down in three ways, and one that a leading dot sets apart. -/
theorem sort_dropRepeats_represents_dots :
    let files := [⟨"b.py"⟩, ⟨"a//b.py"⟩, ⟨"./b.py"⟩, ⟨"a/./b.py/"⟩, ⟨"a/b.py"⟩].map ofPath
    compare (ofPath ⟨"a//b.py"⟩) (ofPath ⟨"a/./b.py/"⟩) = .eq ∧
      compare (ofPath ⟨"b.py"⟩) (ofPath ⟨"./b.py"⟩) ≠ .eq ∧
      (dropRepeats (sort files)).filter (hasComponents [.name "a", .name "b.py"]) =
        [ofPath ⟨"a//b.py"⟩] := by
  intro files
  obtain ⟨hc, -, hr⟩ := sort_dropRepeats_represents
  obtain ⟨hs, hd⟩ := hr [⟨"b.py"⟩, ⟨"a//b.py"⟩, ⟨"./b.py"⟩, ⟨"a/./b.py/"⟩, ⟨"a/b.py"⟩]
    (by decide +kernel)
  refine ⟨(hc _ _ (by decide +kernel) (by decide +kernel)).1.2 (by decide +kernel), ?_, ?_⟩
  · rw [ne_eq, (hc _ _ (by decide +kernel) (by decide +kernel)).1]
    decide +kernel
  · rw [(hd _ hs).firsts]
    decide +kernel

end SourceFile

end SimilarityClient
