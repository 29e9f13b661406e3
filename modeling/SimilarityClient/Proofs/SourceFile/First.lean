import Mathlib.Data.List.Sort
import SimilarityClient.Proofs.SourceFile.Order

/-! # The file that is kept

Of files whose paths have the same components, sorting and dropping repetitions
keeps the one that came first. What is left is therefore determined by the
first files alone, and up to the way paths are written down by their components.
-/

namespace SimilarityClient

namespace SourceFile

variable {f : SourceFile} {files files' : List SourceFile} {cs : List Component}

def hasComponents (cs : List Component) (f : SourceFile) : Bool := f.path.components == cs

/-- The first file whose path has some components. -/
def first? (cs : List Component) (files : List SourceFile) : Option SourceFile :=
  files.find? (hasComponents cs)

@[simp] theorem hasComponents_iff : hasComponents cs f = true ↔ f.path.components = cs := by
  rw [hasComponents, beq_iff_eq]

theorem first?_append (cs : List Component) (files files' : List SourceFile) :
    first? cs (files ++ files') = (first? cs files).or (first? cs files') :=
  List.find?_append

theorem mem_of_first? (h : first? cs files = some f) : f ∈ files ∧ f.path.components = cs :=
  ⟨List.mem_of_find?_eq_some h, hasComponents_iff.1 (List.find?_some h)⟩

theorem first?_eq_none_iff : first? cs files = none ↔ ∀ f ∈ files, f.path.components ≠ cs := by
  rw [first?, List.find?_eq_none]
  simp only [hasComponents_iff, ne_eq]

theorem first?_congr (hm : ∀ f, f ∈ files ↔ f ∈ files')
    (hu : ∀ f ∈ files, ∀ g ∈ files, f.path.components = g.path.components → f = g) :
    first? cs files = first? cs files' := by
  cases h : first? cs files with
  | none =>
    rw [first?_eq_none_iff] at h
    symm
    rw [first?_eq_none_iff]
    intro f hf
    exact h f ((hm f).2 hf)
  | some f =>
    obtain ⟨hf, hc⟩ := mem_of_first? h
    cases h' : first? cs files' with
    | none => exact absurd hc (first?_eq_none_iff.1 h' f ((hm f).1 hf))
    | some g =>
      obtain ⟨hg, hc'⟩ := mem_of_first? h'
      rw [hu f hf g ((hm g).2 hg) (hc.trans hc'.symm)]

theorem Named.eq_text (hf : Named f) :
    f.name = (f.path.components.getLast?.map Component.text).getD "" := by
  rw [hf]
  rfl

theorem map_name_eq (hn : ∀ f ∈ files, Named f) (hn' : ∀ f ∈ files', Named f)
    (h : files.map (·.path.components) = files'.map (·.path.components)) :
    files.map (·.name) = files'.map (·.name) := by
  have hm : ∀ files : List SourceFile, (∀ f ∈ files, Named f) → files.map (·.name) =
      (files.map (·.path.components)).map fun cs => (cs.getLast?.map Component.text).getD "" := by
    intro files hn
    rw [List.map_map]
    exact List.map_congr_left fun f hf => (hn f hf).eq_text
  rw [hm files hn, hm files' hn', h]

theorem filter_sort_of_le {p : SourceFile → Bool}
    (h : ∀ f ∈ files, ∀ g ∈ files, p f = true → p g = true → le f g = true) :
    (sort files).filter p = files.filter p := by
  have hle : (files.filter p).Pairwise fun f g => le f g = true := by
    rw [List.pairwise_iff_forall_sublist]
    intro f g hs
    have hm : ∀ k ∈ [f, g], k ∈ files ∧ p k = true := fun k hk => List.mem_filter.1 (hs.mem hk)
    obtain ⟨hf, hpf⟩ := hm f (by simp)
    obtain ⟨hg, hpg⟩ := hm g (by simp)
    exact h f hf g hg hpf hpg
  have hs : (files.filter p).Sublist (sort files) :=
    List.sublist_mergeSort le_trans le_total hle List.filter_sublist
  have hf := hs.filter p
  simp only [List.filter_filter, Bool.and_self] at hf
  have hl := ((List.mergeSort_perm files le).filter p).length_eq
  exact (hf.eq_of_length hl.symm).symm

theorem filter_sort (hn : ∀ f ∈ files, Named f) (cs : List Component) :
    (sort files).filter (hasComponents cs) = files.filter (hasComponents cs) := by
  apply filter_sort_of_le
  intro f hf g hg hcf hcg
  have hc := (hasComponents_iff.1 hcf).trans (hasComponents_iff.1 hcg).symm
  rw [le, (hn f hf).compare_eq (hn g hg), Path.compare_eq_iff.2 hc]
  rfl

theorem first?_sort (hn : ∀ f ∈ files, Named f) (cs : List Component) :
    first? cs (sort files) = first? cs files := by
  rw [first?, first?, ← List.head?_filter, ← List.head?_filter, filter_sort hn]

theorem first?_of_mem_dropRepeatsOf {kept : SourceFile} (hn : ∀ f ∈ kept :: files, Named f)
    (hs : (kept :: files).Pairwise fun f g => le f g = true)
    (h : f ∈ kept :: dropRepeatsOf kept files) :
    first? f.path.components (kept :: files) = some f := by
  induction files generalizing kept with
  | nil =>
    obtain rfl := List.mem_singleton.1 h
    exact List.find?_cons_of_pos (hasComponents_iff.2 rfl)
  | cons g r ih =>
    have hlt := pairwise_lt_dropRepeatsOf hn hs
    rw [dropRepeatsOf] at h hlt
    split at h <;> rename_i hr
    · -- `g` repeats what is kept, so that it is the first file of no components
      have hc := ((hn kept List.mem_cons_self).same_iff (hn g (by simp))).1 hr
      have hf := ih (fun k hk => hn k (by simp at hk ⊢; tauto))
        (hs.sublist ((List.sublist_cons_self g r).cons_cons kept)) h
      by_cases hk : hasComponents f.path.components kept = true
      · rw [first?, List.find?_cons_of_pos hk] at hf ⊢
        exact hf
      · have hg : ¬ hasComponents f.path.components g = true := by
          rwa [hasComponents_iff, ← hc, ← hasComponents_iff]
        rw [first?, List.find?_cons_of_neg hk] at hf ⊢
        rw [List.find?_cons_of_neg hg]
        exact hf
    · rw [if_neg hr] at hlt
      rcases List.mem_cons.1 h with rfl | h
      · exact List.find?_cons_of_pos (hasComponents_iff.2 rfl)
      · have hk : ¬ hasComponents f.path.components kept = true := by
          rw [hasComponents_iff, ← Path.compare_eq_iff, (List.pairwise_cons.1 hlt).1 f h]
          simp
        rw [first?, List.find?_cons_of_neg hk]
        exact ih (fun k hk => hn k (List.mem_cons_of_mem _ hk)) hs.of_cons h

/-- A file of a sorted list is kept exactly if no earlier one has the components of its path. -/
theorem mem_dropRepeats_iff (hn : ∀ f ∈ files, Named f)
    (hs : files.Pairwise fun f g => le f g = true) :
    f ∈ dropRepeats files ↔ first? f.path.components files = some f := by
  have hk : ∀ g ∈ dropRepeats files, first? g.path.components files = some g := by
    intro g hg
    cases files with
    | nil => cases hg
    | cons k r => exact first?_of_mem_dropRepeatsOf hn hs hg
  constructor
  · exact hk f
  · intro h
    obtain ⟨g, hg, hc⟩ := exists_mem_dropRepeats (mem_of_first? h).1
    have hgf := hk g hg
    rw [hc, h, Option.some.injEq] at hgf
    exact hgf ▸ hg

theorem mem_dropRepeats_sort_iff (hn : ∀ f ∈ files, Named f) :
    f ∈ dropRepeats (sort files) ↔ first? f.path.components files = some f := by
  rw [mem_dropRepeats_iff (fun f hf => hn f (mem_sort_iff.1 hf)) (pairwise_le_sort files),
    first?_sort hn]

theorem eq_of_increasing {α β : Type} [Ord β] [Std.TransOrd β] (key : α → β) {l l' : List α}
    (h : l.Pairwise fun a b => compare (key a) (key b) = .lt)
    (h' : l'.Pairwise fun a b => compare (key a) (key b) = .lt) (hm : ∀ a, a ∈ l ↔ a ∈ l') :
    l = l' := by
  have : Std.Irrefl fun a b => compare (key a) (key b) = .lt := ⟨fun a => by simp⟩
  have : Std.Antisymm fun a b => compare (key a) (key b) = .lt := by
    constructor
    intro a b hab hba
    have he : compare (key a) (key b) = (compare (key b) (key a)).swap := Std.OrientedCmp.eq_swap
    rw [hab, hba] at he
    cases he
  exact h.eq_of_mem_iff h' hm

theorem dropRepeats_sort_congr (hn : ∀ f ∈ files, Named f) (hn' : ∀ f ∈ files', Named f)
    (h : ∀ cs, first? cs files = first? cs files') :
    dropRepeats (sort files) = dropRepeats (sort files') := by
  apply eq_of_increasing path (pairwise_lt_dropRepeats hn) (pairwise_lt_dropRepeats hn')
  intro f
  rw [mem_dropRepeats_sort_iff hn, mem_dropRepeats_sort_iff hn', h]

theorem components_mem_dropRepeats_sort_iff : cs ∈ (dropRepeats (sort files)).map
    (·.path.components) ↔ ∃ f ∈ files, f.path.components = cs := by
  rw [List.mem_map]
  constructor
  · rintro ⟨f, hf, hc⟩
    exact ⟨f, mem_sort_iff.1 (mem_of_mem_dropRepeats hf), hc⟩
  · rintro ⟨f, hf, rfl⟩
    exact exists_mem_dropRepeats (mem_sort_iff.2 hf)

/-- The same components in another order, or several times, leave the same components behind. -/
theorem map_components_dropRepeats_sort (hn : ∀ f ∈ files, Named f) (hn' : ∀ f ∈ files', Named f)
    (h : ∀ cs, (∃ f ∈ files, f.path.components = cs) ↔ ∃ f ∈ files', f.path.components = cs) :
    (dropRepeats (sort files)).map (·.path.components) =
      (dropRepeats (sort files')).map (·.path.components) := by
  apply eq_of_increasing id
  · exact List.pairwise_map.2 (pairwise_lt_dropRepeats hn)
  · exact List.pairwise_map.2 (pairwise_lt_dropRepeats hn')
  · intro cs
    rw [components_mem_dropRepeats_sort_iff, components_mem_dropRepeats_sort_iff, h]

end SourceFile

end SimilarityClient
