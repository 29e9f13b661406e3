import SimilarityClient.Proofs.Collection.Selection

/-! # Selection by name

A selection keeps all files that have one of the names, in the order of the
files. It fails with the first name that no file has. Collecting, selecting and
the demand for a pair follow each other, and the first of them that fails decides.
-/

namespace SimilarityClient

namespace Collection

variable {tree : FileTree} {paths : List Path} {extensions names names' : List String}
  {files kept : List SourceFile} {name : String} {e : CollectError}

def Holds (files : List SourceFile) (name : String) : Prop := ∃ f ∈ files, f.name = name

/-- A name that no file has, the first of its kind. -/
structure IsFirstAbsent (files : List SourceFile) (names : List String) (name : String) : Prop where
  absent : ¬Holds files name
  first : ∃ before after, names = before ++ name :: after ∧ ∀ n ∈ before, Holds files n

/-- Files in their order, all those with one of the names and no others. A name may be that of
many files. -/
structure IsSelection (files : List SourceFile) (names : List String) (kept : List SourceFile) :
    Prop where
  sublist : kept.Sublist files
  named : ∀ f ∈ kept, f.name ∈ names
  complete : ∀ name ∈ names, kept.filter (·.name = name) = files.filter (·.name = name)

/-- What is left of the files. Without names these are all of them. -/
def Leaves (files : List SourceFile) (names : List String) (kept : List SourceFile) : Prop :=
  if names = [] then kept = files else IsSelection files names kept

instance (files : List SourceFile) (name : String) : Decidable (Holds files name) :=
  inferInstanceAs (Decidable (∃ f ∈ files, f.name = name))

theorem isSelection_filter (files : List SourceFile) (names : List String) :
    IsSelection files names (files.filter (·.name ∈ names)) := by
  constructor
  · exact List.filter_sublist
  · intro f hf
    simpa using (List.mem_filter.mp hf).2
  · intro name hn
    rw [List.filter_filter]
    apply List.filter_congr
    intro f _
    by_cases h : f.name = name <;> simp [h, hn]

theorem IsSelection.count_eq (h : IsSelection files names kept) {f : SourceFile}
    (hf : f.name ∈ names) : kept.count f = files.count f := by
  have hc (l : List SourceFile) : (l.filter (·.name = f.name)).count f = l.count f :=
    List.count_filter (decide_eq_true rfl)
  rw [← hc kept, h.complete _ hf, hc]

theorem IsSelection.eq_filter (h : IsSelection files names kept) :
    kept = files.filter (·.name ∈ names) := by
  have hs := h.sublist.filter (·.name ∈ names)
  have hk : kept.filter (·.name ∈ names) = kept :=
    List.filter_eq_self.mpr fun f hf => decide_eq_true (h.named f hf)
  rw [hk] at hs
  apply hs.eq_of_length
  apply List.Perm.length_eq
  rw [List.perm_iff_count]
  intro f
  by_cases hf : f.name ∈ names
  · rw [h.count_eq hf]
    symm
    exact List.count_filter (decide_eq_true hf)
  · rw [List.count_eq_zero_of_not_mem fun hm => hf (h.named f hm),
      List.count_eq_zero_of_not_mem fun hm => hf (by simpa using (List.mem_filter.mp hm).2)]

theorem isSelection_iff : IsSelection files names kept ↔ kept = files.filter (·.name ∈ names) := by
  constructor
  · exact IsSelection.eq_filter
  · rintro rfl
    exact isSelection_filter files names

theorem IsSelection.holds_iff (h : IsSelection files names kept) (hn : name ∈ names) :
    Holds kept name ↔ Holds files name := by
  constructor
  · rintro ⟨f, hf, rfl⟩
    exact ⟨f, h.sublist.subset hf, rfl⟩
  · rintro ⟨f, hf, rfl⟩
    refine ⟨f, ?_, rfl⟩
    rw [h.eq_filter]
    exact List.mem_filter.mpr ⟨hf, decide_eq_true hn⟩

theorem IsSelection.congr (h : IsSelection files names kept) (hn : ∀ n, n ∈ names' ↔ n ∈ names) :
    IsSelection files names' kept where
  sublist := h.sublist
  named f hf := (hn _).mpr (h.named f hf)
  complete name hm := h.complete name ((hn name).mp hm)

theorem IsSelection.again (h : IsSelection files names kept) : IsSelection kept names kept where
  sublist := List.Sublist.refl kept
  named := h.named
  complete _ _ := rfl

theorem any_name_iff : files.any (·.name == name) = true ↔ Holds files name := by
  simp [Holds]

theorem find?_absent_iff :
    (names.find? fun n => !files.any (·.name == n)) = some name ↔
      IsFirstAbsent files names name := by
  simp only [List.find?_eq_some_iff_append, Bool.not_not, Bool.not_eq_true', ← Bool.not_eq_true,
    any_name_iff]
  constructor
  · rintro ⟨ha, hf⟩
    exact ⟨ha, hf⟩
  · rintro ⟨ha, hf⟩
    exact ⟨ha, hf⟩

theorem find?_absent_eq_none_iff :
    (names.find? fun n => !files.any (·.name == n)) = none ↔ ∀ n ∈ names, Holds files n := by
  simp only [List.find?_eq_none, Bool.not_eq_true', Bool.not_eq_false, any_name_iff]

theorem select_eq_error_iff :
    select files names = .error e ↔
      ∃ name, IsFirstAbsent files names name ∧ e = .notSelected name := by
  unfold select
  split
  · rename_i hn
    subst hn
    constructor
    · intro h
      cases h
    · rintro ⟨name, ⟨-, before, after, hs, -⟩, -⟩
      cases before <;> cases hs
  · simp only [← find?_absent_iff]
    split
    · rename_i missing hm
      simp [hm, eq_comm]
    · rename_i hm
      simp [hm]

theorem select_eq_ok_iff :
    select files names = .ok kept ↔ (∀ n ∈ names, Holds files n) ∧ Leaves files names kept := by
  unfold select Leaves
  split
  · rename_i hn
    subst hn
    simp [eq_comm]
  · rw [← find?_absent_eq_none_iff, isSelection_iff]
    split
    · rename_i missing hm
      simp [hm]
    · rename_i hm
      simp [hm, eq_comm, List.contains_eq_mem]

theorem exists_isFirstAbsent_iff :
    (∃ name, IsFirstAbsent files names name) ↔ ∃ name ∈ names, ∀ f ∈ files, f.name ≠ name := by
  simp only [← find?_absent_iff, ← Option.ne_none_iff_exists', ne_eq, find?_absent_eq_none_iff]
  simp [Holds]

theorem leaves_iff (hn : names ≠ []) : Leaves files names kept ↔ IsSelection files names kept := by
  rw [Leaves, if_neg hn]

theorem requirePair_eq_ok_iff : requirePair files = .ok kept ↔ kept = files ∧ 2 ≤ kept.length := by
  unfold requirePair
  split
  · rename_i h
    constructor
    · intro hc
      cases hc
    · rintro ⟨rfl, hl⟩
      omega
  · rename_i h
    constructor
    · intro hc
      cases hc
      exact ⟨rfl, by omega⟩
    · rintro ⟨rfl, -⟩
      rfl

theorem requirePair_eq_error_iff :
    requirePair files = .error e ↔ files.length < 2 ∧ e = .notEnough files.length := by
  unfold requirePair
  split <;> rename_i h <;> simp [h, eq_comm]

theorem selected_eq_ok_iff : selected tree paths extensions names = .ok kept ↔
    ∃ found, collect tree paths extensions = .ok found ∧ (∀ n ∈ names, Holds found n) ∧
      Leaves found names kept ∧ 2 ≤ kept.length := by
  simp only [selected, Except.bind_eq_ok_iff, select_eq_ok_iff, requirePair_eq_ok_iff]
  constructor
  · rintro ⟨found, hc, _, ⟨hh, hl⟩, rfl, hp⟩
    exact ⟨found, hc, hh, hl, hp⟩
  · rintro ⟨found, hc, hh, hl, hp⟩
    exact ⟨found, hc, kept, ⟨hh, hl⟩, rfl, hp⟩

theorem selected_eq_error_iff : selected tree paths extensions names = .error e ↔
    collect tree paths extensions = .error e ∨
    ∃ found, collect tree paths extensions = .ok found ∧
      ((∃ name, IsFirstAbsent found names name ∧ e = .notSelected name) ∨
        (∀ n ∈ names, Holds found n) ∧ ∃ kept, Leaves found names kept ∧ kept.length < 2 ∧
          e = .notEnough kept.length) := by
  simp only [selected, Except.bind_eq_error_iff, select_eq_error_iff, select_eq_ok_iff,
    requirePair_eq_error_iff]
  constructor
  · rintro (h | ⟨found, hc, h | ⟨kept, ⟨hh, hl⟩, hp⟩⟩)
    · exact .inl h
    · exact .inr ⟨found, hc, .inl h⟩
    · exact .inr ⟨found, hc, .inr ⟨hh, kept, hl, hp⟩⟩
  · rintro (h | ⟨found, hc, h | ⟨hh, kept, hl, hp⟩⟩)
    · exact .inl h
    · exact .inr ⟨found, hc, .inl h⟩
    · exact .inr ⟨found, hc, .inr ⟨kept, ⟨hh, hl⟩, hp⟩⟩

/-- A selection fails exactly if a name is absent, with the first one that is. Otherwise it keeps
the files with one of the names, in their order. The order of the names and their repetition do
not count, and a second selection changes nothing. A collection with a selection succeeds exactly
if all of its steps do, and has the error of the first one that does not, with the number of files
that were left where these are too few. -/
theorem selection_by_name :
    (∀ files names, names ≠ [] →
      ((∃ e, select files names = .error e) ↔ ∃ name ∈ names, ∀ f ∈ files, f.name ≠ name) ∧
      (∀ e, select files names = .error e ↔
        ∃ name, IsFirstAbsent files names name ∧ e = .notSelected name) ∧
      (∀ kept, select files names = .ok kept ↔
        (∀ name ∈ names, Holds files name) ∧ IsSelection files names kept) ∧
      ∀ kept, select files names = .ok kept → select kept names = .ok kept ∧
        ∀ names', (∀ n, n ∈ names' ↔ n ∈ names) → select files names' = .ok kept) ∧
    ∀ tree paths extensions names,
      (∀ kept, selected tree paths extensions names = .ok kept ↔
        ∃ found, collect tree paths extensions = .ok found ∧ (∀ n ∈ names, Holds found n) ∧
          Leaves found names kept ∧ 2 ≤ kept.length) ∧
      ∀ e, selected tree paths extensions names = .error e ↔
        collect tree paths extensions = .error e ∨
        ∃ found, collect tree paths extensions = .ok found ∧
          ((∃ name, IsFirstAbsent found names name ∧ e = .notSelected name) ∨
            (∀ n ∈ names, Holds found n) ∧ ∃ kept, Leaves found names kept ∧ kept.length < 2 ∧
              e = .notEnough kept.length) := by
  refine ⟨fun files names hn =>
      ⟨?_, fun e => select_eq_error_iff, fun kept => ?_, fun kept h => ?_⟩,
    fun tree paths extensions names =>
      ⟨fun kept => selected_eq_ok_iff, fun e => selected_eq_error_iff⟩⟩
  · simp only [select_eq_error_iff, ← exists_isFirstAbsent_iff]
    constructor
    · rintro ⟨_, name, hf, -⟩
      exact ⟨name, hf⟩
    · rintro ⟨name, hf⟩
      exact ⟨_, name, hf, rfl⟩
  · rw [select_eq_ok_iff, leaves_iff hn]
  · obtain ⟨hh, hl⟩ := select_eq_ok_iff.mp h
    have hs := (leaves_iff hn).mp hl
    constructor
    · refine select_eq_ok_iff.mpr ⟨fun n hm => (hs.holds_iff hm).mpr (hh n hm), ?_⟩
      exact (leaves_iff hn).mpr hs.again
    · intro names' hm
      have hn' : names' ≠ [] := by
        rintro rfl
        obtain ⟨n, hmem⟩ := List.exists_mem_of_ne_nil names hn
        cases (hm n).mpr hmem
      refine select_eq_ok_iff.mpr ⟨fun n hmem => hh n ((hm n).mp hmem), ?_⟩
      exact (leaves_iff hn').mpr (hs.congr hm)

/-- Two directories share a name. Both files are kept, also where the name is given twice; a name
of neither is the error, behind one that is held. -/
theorem selection_by_name_shared :
    let files : List SourceFile :=
      [⟨⟨"x/a.py"⟩, "a.py"⟩, ⟨⟨"x/b.py"⟩, "b.py"⟩, ⟨⟨"y/a.py"⟩, "a.py"⟩]
    let kept : List SourceFile := [⟨⟨"x/a.py"⟩, "a.py"⟩, ⟨⟨"y/a.py"⟩, "a.py"⟩]
    select files ["a.py"] = .ok kept ∧ select kept ["a.py"] = .ok kept ∧
    select files ["a.py", "a.py"] = .ok kept ∧
    select files ["b.py", "c.py", "d.py"] = .error (.notSelected "c.py") := by
  intro files kept
  obtain ⟨-, -, ho, ha⟩ := selection_by_name.1 files ["a.py"] (List.cons_ne_nil _ _)
  have hs : select files ["a.py"] = .ok kept :=
    (ho kept).mpr ⟨by decide, isSelection_iff.mpr (by decide)⟩
  obtain ⟨hk, hr⟩ := ha kept hs
  obtain ⟨-, he, -, -⟩ := selection_by_name.1 files ["b.py", "c.py", "d.py"] (List.cons_ne_nil _ _)
  refine ⟨hs, hk, hr _ (by simp),
    (he _).mpr ⟨"c.py", ⟨by decide, ["b.py"], ["d.py"], rfl, ?_⟩, rfl⟩⟩
  decide

end Collection

end SimilarityClient
