import SimilarityClient.SourceFile

/-! # The order of source files

Components, paths and files are totally ordered, and paths that compare equal
have the same components. Files are named after their paths, so that sorting
and dropping repetitions leaves one file for every list of components.
-/

namespace SimilarityClient

instance : Std.TransOrd Component :=
  inferInstanceAs (Std.TransCmp (compareLex (compareOn Component.rank) (compareOn Component.text)))

instance : Std.LawfulEqOrd Component where
  eq_of_compare {a b} h := by
    change compareLex (compareOn Component.rank) (compareOn Component.text) a b = .eq at h
    rw [compareLex_eq_eq] at h
    have hr : a.rank = b.rank := Std.compare_eq_iff_eq.1 h.1
    have ht : a.text = b.text := Std.compare_eq_iff_eq.1 h.2
    cases a <;> cases b <;> simp_all [Component.rank, Component.text]

instance : Std.TransOrd Path := inferInstanceAs (Std.TransCmp (compareOn Path.components))

theorem Path.compare_eq_iff {p q : Path} : compare p q = .eq ↔ p.components = q.components :=
  Std.compare_eq_iff_eq (α := List Component)

instance : Std.TransOrd SourceFile :=
  inferInstanceAs
    (Std.TransCmp (compareLex (compareOn SourceFile.path) (compareOn SourceFile.name)))

namespace SourceFile

variable {f g kept : SourceFile} {files : List SourceFile}

/-- The name of a file is the last component of its path. -/
def Named (f : SourceFile) : Prop := f.path.components.getLast? = some (.name f.name)

theorem Named.name_eq (hf : Named f) (hg : Named g) (h : f.path.components = g.path.components) :
    f.name = g.name := by
  rw [Named, h, hg, Option.some.injEq, Component.name.injEq] at hf
  exact hf.symm

theorem Named.compare_eq (hf : Named f) (hg : Named g) : compare f g = compare f.path g.path := by
  change compareLex (compareOn path) (compareOn name) f g = _
  cases h : compare f.path g.path with
  | lt => simp [compareLex, compareOn, h]
  | gt => simp [compareLex, compareOn, h]
  | eq => simp [compareLex, compareOn, h, hf.name_eq hg (Path.compare_eq_iff.1 h)]

theorem Named.compare_eq_iff (hf : Named f) (hg : Named g) :
    compare f g = .eq ↔ f.path.components = g.path.components := by
  rw [hf.compare_eq hg, Path.compare_eq_iff]

theorem same_iff_compare : same f g = true ↔ compare f g = .eq := by
  change _ ↔ compareLex (compareOn path) (compareOn name) f g = .eq
  rw [compareLex_eq_eq, same, Bool.and_eq_true, beq_iff_eq, beq_iff_eq]
  exact and_congr Path.compare_eq_iff.symm Std.compare_eq_iff_eq.symm

theorem Named.same_iff (hf : Named f) (hg : Named g) :
    same f g = true ↔ f.path.components = g.path.components := by
  rw [same_iff_compare, hf.compare_eq_iff hg]

theorem le_trans (f g k : SourceFile) (hfg : le f g = true) (hgk : le g k = true) :
    le f k = true :=
  Std.TransCmp.isLE_trans hfg hgk

theorem le_total (f g : SourceFile) : (le f g || le g f) = true := by
  rw [Bool.or_eq_true]
  by_cases h : le f g = true
  · exact .inl h
  · exact .inr (Ordering.isLE_of_eq_lt (Std.OrientedCmp.lt_of_not_isLE h))

theorem pairwise_le_sort (files : List SourceFile) :
    (sort files).Pairwise fun f g => le f g = true :=
  List.pairwise_mergeSort le_trans le_total files

@[simp] theorem mem_sort_iff : f ∈ sort files ↔ f ∈ files := List.mem_mergeSort

theorem mem_of_mem_dropRepeatsOf (h : f ∈ dropRepeatsOf kept files) : f ∈ files := by
  induction files generalizing kept with
  | nil => exact h
  | cons g r ih =>
    rw [dropRepeatsOf] at h
    split at h
    · exact List.mem_cons_of_mem _ (ih h)
    · rcases List.mem_cons.1 h with rfl | h
      · exact List.mem_cons_self
      · exact List.mem_cons_of_mem _ (ih h)

theorem mem_of_mem_dropRepeats (h : f ∈ dropRepeats files) : f ∈ files := by
  cases files with
  | nil => exact h
  | cons g r =>
    rcases List.mem_cons.1 h with rfl | h
    · exact List.mem_cons_self
    · exact List.mem_cons_of_mem _ (mem_of_mem_dropRepeatsOf h)

theorem exists_mem_dropRepeatsOf (h : f ∈ kept :: files) :
    ∃ g ∈ kept :: dropRepeatsOf kept files, g.path.components = f.path.components := by
  induction files generalizing kept with
  | nil => exact ⟨f, h, rfl⟩
  | cons g r ih =>
    rw [dropRepeatsOf]
    split <;> rename_i hs
    · rw [same, Bool.and_eq_true, beq_iff_eq] at hs
      rcases List.mem_cons.1 h with rfl | h
      · exact ⟨f, List.mem_cons_self, rfl⟩
      · rcases List.mem_cons.1 h with rfl | h
        · exact ⟨kept, List.mem_cons_self, hs.1⟩
        · exact ih (List.mem_cons_of_mem _ h)
    · rcases List.mem_cons.1 h with rfl | h
      · exact ⟨f, List.mem_cons_self, rfl⟩
      · obtain ⟨k, hk, hc⟩ := ih h
        exact ⟨k, List.mem_cons_of_mem _ hk, hc⟩

theorem exists_mem_dropRepeats (h : f ∈ files) :
    ∃ g ∈ dropRepeats files, g.path.components = f.path.components := by
  cases files with
  | nil => exact absurd h List.not_mem_nil
  | cons g r => exact exists_mem_dropRepeatsOf h

theorem Named.lt_of_not_same (hf : Named f) (hg : Named g) (hl : le f g = true)
    (hs : ¬ same f g = true) : compare f.path g.path = .lt := by
  rw [le, hf.compare_eq hg, Ordering.isLE_iff_eq_lt_or_eq_eq] at hl
  rcases hl with hl | he
  · exact hl
  · exact absurd ((hf.same_iff hg).2 (Path.compare_eq_iff.1 he)) hs

theorem pairwise_lt_dropRepeatsOf (hn : ∀ f ∈ kept :: files, Named f)
    (hs : (kept :: files).Pairwise fun f g => le f g = true) :
    (kept :: dropRepeatsOf kept files).Pairwise fun f g => compare f.path g.path = .lt := by
  induction files generalizing kept with
  | nil => exact List.pairwise_singleton _ _
  | cons g r ih =>
    have hk := hn kept List.mem_cons_self
    rw [List.pairwise_cons] at hs
    rw [dropRepeatsOf]
    split <;> rename_i hr
    · apply ih
      · intro f hf
        rcases List.mem_cons.1 hf with rfl | hf
        · exact hk
        · exact hn f (List.mem_cons_of_mem _ (List.mem_cons_of_mem _ hf))
      · rw [List.pairwise_cons]
        exact ⟨fun f hf => hs.1 f (List.mem_cons_of_mem _ hf), hs.2.of_cons⟩
    · have hlt := hk.lt_of_not_same (hn g (by simp)) (hs.1 g List.mem_cons_self) hr
      have hg := ih (fun f hf => hn f (List.mem_cons_of_mem _ hf)) hs.2
      rw [List.pairwise_cons]
      refine ⟨fun f hf => ?_, hg⟩
      rcases List.mem_cons.1 hf with rfl | hf
      · exact hlt
      · exact Std.TransCmp.lt_trans hlt ((List.pairwise_cons.1 hg).1 f hf)

/-- Named files that are sorted and free of repetitions have strictly increasing paths. -/
theorem pairwise_lt_of_sorted (hn : ∀ f ∈ files, Named f)
    (hs : files.Pairwise fun f g => le f g = true) :
    (dropRepeats files).Pairwise fun f g => compare f.path g.path = .lt := by
  cases files with
  | nil => exact .nil
  | cons f r => exact pairwise_lt_dropRepeatsOf hn hs

theorem pairwise_lt_dropRepeats (hn : ∀ f ∈ files, Named f) :
    (dropRepeats (sort files)).Pairwise fun f g => compare f.path g.path = .lt :=
  pairwise_lt_of_sorted (fun f hf => hn f (mem_sort_iff.1 hf)) (pairwise_le_sort files)

end SourceFile

end SimilarityClient
