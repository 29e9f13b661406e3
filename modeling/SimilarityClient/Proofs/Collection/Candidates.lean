import SimilarityClient.Proofs.Collection.Selection
import SimilarityClient.Proofs.FileTree.Walk

/-! # Candidates

Candidates are the paths that are regular files, and the entries of the paths
that are directories if they are regular files with an accepted extension.
Collecting yields these, each once and in order, unless one of the paths is neither
or cannot be listed.
-/

namespace SimilarityClient

namespace Extension

/-- The text behind the last point of a name, which does not begin with it, is one of the
extensions, up to case, outer blanks and leading points. -/
def Ends (extensions : List String) (name : List Char) : Prop :=
  ∃ stem e, name = stem ++ '.' :: e ∧ stem ≠ [] ∧ '.' ∉ e ∧
    ∃ x ∈ extensions, core x.toList ≠ [] ∧ core x.toList = Text.lower e

theorem extensionOf?_eq_some_iff {name e : List Char} :
    Path.extensionOf? name = some e ↔ ∃ stem, name = stem ++ '.' :: e ∧ stem ≠ [] ∧ '.' ∉ e := by
  rw [Path.extensionOf?]
  constructor
  · intro h
    split at h
    · cases h
    · rename_i stem after hn hs
      cases h
      rw [Path.splitLastPoint_eq_some_iff] at hs
      exact ⟨stem, hs.1, fun hc => hn hc, hs.2⟩
    · cases h
  · rintro ⟨stem, hn, hs, he⟩
    rw [Path.splitLastPoint_eq_some_iff.2 ⟨hn, he⟩]
    cases stem with
    | nil => exact absurd rfl hs
    | cons c r => rfl

theorem mem_normalize_iff {extensions : List String} {e : List Char} :
    String.ofList ('.' :: e) ∈ normalize extensions ↔
      ∃ x ∈ extensions, core x.toList ≠ [] ∧ core x.toList = e := by
  simp only [normalize, List.mem_map, List.mem_filter, decide_eq_true_eq]
  constructor
  · rintro ⟨_, ⟨⟨x, hx, rfl⟩, hne⟩, heq⟩
    have hl := congrArg String.toList heq
    rw [String.toList_ofList, String.toList_ofList, List.cons.injEq] at hl
    exact ⟨x, hx, by simpa using hne, hl.2⟩
  · rintro ⟨x, hx, hne, rfl⟩
    exact ⟨core x.toList, ⟨⟨x, hx, rfl⟩, by simpa using hne⟩, rfl⟩

theorem accepts_normalize_iff {extensions : List String} {p : Path} {name : String}
    (h : p.fileName? = some name) :
    accepts (normalize extensions) p = true ↔ Ends extensions name.toList := by
  rw [accepts, Path.extension?, h, Option.bind_some]
  cases he : Path.extensionOf? name.toList with
  | none =>
    simp only [Bool.false_eq_true, false_iff]
    rintro ⟨stem, e, hn, hs, hd, -⟩
    rw [extensionOf?_eq_some_iff.2 ⟨stem, hn, hs, hd⟩] at he
    cases he
  | some e =>
    rw [List.contains_iff_mem, mem_normalize_iff]
    constructor
    · intro hx
      obtain ⟨stem, hn, hs, hd⟩ := extensionOf?_eq_some_iff.1 he
      exact ⟨stem, e, hn, hs, hd, hx⟩
    · rintro ⟨stem, e', hn, hs, hd, hx⟩
      rw [extensionOf?_eq_some_iff.2 ⟨stem, hn, hs, hd⟩, Option.some.injEq] at he
      exact he ▸ hx

end Extension

namespace Collection

variable {tree : FileTree} {paths : List Path} {extensions : List String} {p q : Path}
  {files : List SourceFile} {f : SourceFile}

/-- What a path stands for, up to the way it is written down: itself if it is a regular file,
and if it is a directory its entries that are regular files with an accepted extension. -/
inductive StandsFor (tree : FileTree) (extensions : List String) (q p : Path) : Prop
  | file : tree.isFile q = true → p.components = q.components → StandsFor tree extensions q p
  | entry {loc : Location} {name : String} :
      tree.locate q = .ok loc → tree.item? loc = some .directory →
      tree.item? (loc ++ [name]) ≠ none → tree.isFile (q.join name) = true →
      Extension.Ends extensions name.toList →
      p.components = q.components ++ [.name name] → StandsFor tree extensions q p

def isMissing (tree : FileTree) (p : Path) : Bool := !tree.isFile p && !tree.isDirectory p

/-- Why nothing can be collected from a path: it is missing, or a directory that cannot be
listed. -/
def fault? (tree : FileTree) (p : Path) : Option CollectError :=
  match tree.stat p with
  | .ok .closed => some (.unreadable p .denied)
  | _ => if isMissing tree p then some (.notFound p) else none

/-- The files that are found for some paths. -/
structure Finds (tree : FileTree) (extensions : List String) (paths : List Path)
    (files : List SourceFile) : Prop where
  isFile : ∀ f ∈ files, tree.isFile f.path = true
  mem_iff : ∀ p, (∃ f ∈ files, f.path.components = p.components) ↔
    ∃ q ∈ paths, StandsFor tree extensions q p

theorem not_isFile_of_item? {loc : Location} (hl : tree.locate p = .ok loc)
    (hd : tree.item? loc = some .directory) : ¬ tree.isFile p = true := by
  simp [FileTree.isFile_iff, FileTree.stat_eq_ok_iff.2 ⟨loc, hl, hd⟩]

theorem file_or_directory (h : fault? tree p = none) : tree.isFile p = true ∨
    ∃ loc, tree.locate p = .ok loc ∧ tree.item? loc = some .directory := by
  rw [fault?] at h
  split at h
  · cases h
  · rename_i hc
    split at h
    · cases h
    · rename_i hm
      by_cases hf : tree.isFile p = true
      · exact .inl hf
      · have hd : tree.isDirectory p = true := by simpa [isMissing, hf] using hm
        rcases FileTree.isDirectory_iff.1 hd with hs | hs
        · exact .inr (FileTree.stat_eq_ok_iff.1 hs)
        · exact absurd hs hc

variable {arrange : List String → List String}

theorem ofPathArranged_of_isFile (h : tree.isFile p = true) :
    ofPathArranged tree extensions arrange p = .ok [SourceFile.ofPath p] :=
  if_pos h

theorem ofPathArranged_of_directory {loc : Location} (hl : tree.locate p = .ok loc)
    (hd : tree.item? loc = some .directory) : ofPathArranged tree extensions arrange p =
      .ok (ofDirectory tree extensions p (arrange (tree.children loc))) := by
  have hs := FileTree.isDirectory_iff.2 (.inl (FileTree.stat_eq_ok_iff.2 ⟨loc, hl, hd⟩))
  rw [ofPathArranged, if_neg (not_isFile_of_item? hl hd), if_pos hs, FileTree.list_eq_ok hl hd]

theorem ofPathArranged_of_fault {e : CollectError} (h : fault? tree p = some e) :
    ofPathArranged tree extensions arrange p = .error e := by
  rw [fault?] at h
  split at h
  · rename_i hc
    cases h
    have hf : ¬tree.isFile p = true := by simp [FileTree.isFile_iff, hc]
    rw [ofPathArranged, if_neg hf, if_pos (FileTree.isDirectory_iff.2 (.inr hc)),
      FileTree.list_of_closed hc]
  · split at h
    · rename_i hm
      cases h
      rw [isMissing, Bool.and_eq_true, Bool.not_eq_true', Bool.not_eq_true'] at hm
      simp [ofPathArranged, hm.1, hm.2]
    · cases h

theorem mem_ofDirectory_iff (h : tree.WellFormed) {loc : Location} (hl : tree.locate q = .ok loc) :
    f ∈ ofDirectory tree (Extension.normalize extensions) q (tree.children loc) ↔
      ∃ name, tree.item? (loc ++ [name]) ≠ none ∧ tree.isFile (q.join name) = true ∧
        Extension.Ends extensions name.toList ∧ f = SourceFile.ofPath (q.join name) := by
  simp only [ofDirectory, List.mem_map, List.mem_filter, Bool.and_eq_true]
  have ha : ∀ name ∈ tree.children loc, Extension.accepts (Extension.normalize extensions)
      (q.join name) = true ↔ Extension.Ends extensions name.toList := fun name hm =>
    Extension.accepts_normalize_iff
      (Path.fileName?_join (FileTree.text_ne_of_locate hl) (h.isName_of_mem_children hm))
  constructor
  · rintro ⟨_, ⟨⟨name, hm, rfl⟩, hf, he⟩, rfl⟩
    exact ⟨name, FileTree.mem_children_iff.1 hm, hf, (ha name hm).1 he, rfl⟩
  · rintro ⟨name, hi, hf, he, rfl⟩
    have hm := FileTree.mem_children_iff.2 hi
    exact ⟨_, ⟨⟨name, hm, rfl⟩, hf, (ha name hm).2 he⟩, rfl⟩

theorem finds_ofPath (h : tree.WellFormed) (extensions : List String)
    (hp : fault? tree q = none) :
    ∃ files, ofPath tree (Extension.normalize extensions) q = .ok files ∧
      Finds tree extensions [q] files := by
  rcases file_or_directory hp with hf | ⟨loc, hl, hi⟩
  · refine ⟨_, ofPathArranged_of_isFile hf, ?_, fun p => ?_⟩
    · simpa [SourceFile.ofPath] using hf
    · simp only [List.mem_singleton, exists_eq_left]
      constructor
      · exact fun hc => .file hf hc.symm
      · rintro (⟨-, hc⟩ | ⟨hl, hd, -, -, -, -⟩)
        · exact hc.symm
        · exact absurd hf (not_isFile_of_item? hl hd)
  · refine ⟨_, ofPathArranged_of_directory hl hi, ?_, fun p => ?_⟩
    · intro f hm
      obtain ⟨name, -, hj, -, rfl⟩ := (mem_ofDirectory_iff h hl).1 hm
      exact hj
    · have hc : ∀ name, tree.item? (loc ++ [name]) ≠ none →
          (q.join name).components = q.components ++ [.name name] := fun name hn =>
        Path.components_join (FileTree.text_ne_of_locate hl)
          (h.isName_of_mem_children (FileTree.mem_children_iff.2 hn))
      simp only [List.mem_singleton, exists_eq_left, id, mem_ofDirectory_iff h hl]
      constructor
      · rintro ⟨_, ⟨name, hn, hj, he, rfl⟩, hp⟩
        exact .entry hl hi hn hj he (hp.symm.trans (hc name hn))
      · rintro (⟨hq, -⟩ | ⟨hl', -, hn, hj, he, hp⟩)
        · exact absurd hq (not_isFile_of_item? hl hi)
        · rw [hl, Except.ok.injEq] at hl'
          subst hl'
          exact ⟨_, ⟨_, hn, hj, he, rfl⟩, (hc _ hn).trans hp.symm⟩

theorem Finds.append {ps qs : List Path} {fs gs : List SourceFile}
    (h : Finds tree extensions ps fs) (h' : Finds tree extensions qs gs) :
    Finds tree extensions (ps ++ qs) (fs ++ gs) where
  isFile f hf := (List.mem_append.1 hf).elim (h.isFile f) (h'.isFile f)
  mem_iff p := by
    simp only [List.mem_append, or_and_right, exists_or, h.mem_iff, h'.mem_iff]

theorem finds_ofPaths (h : tree.WellFormed) (paths : List Path) (extensions : List String) :
    match paths.findSome? (fault? tree) with
    | some e => ofPaths tree (Extension.normalize extensions) paths = .error e
    | none => ∃ files, ofPaths tree (Extension.normalize extensions) paths = .ok files ∧
        Finds tree extensions paths files := by
  induction paths with
  | nil => exact ⟨[], rfl, by simp, by simp⟩
  | cons q paths ih =>
    rw [List.findSome?_cons]
    cases hq : fault? tree q with
    | some e =>
      have he : ofPath tree (Extension.normalize extensions) q = .error e :=
        ofPathArranged_of_fault hq
      dsimp only
      rw [ofPaths, he, Except.error_bind]
    | none =>
      obtain ⟨fs, hfs, hf⟩ := finds_ofPath h extensions hq
      dsimp only
      split at ih <;> rename_i hp
      · rw [hp]
        simp [ofPaths, hfs, ih]
      · obtain ⟨gs, hgs, hg⟩ := ih
        rw [hp]
        refine ⟨fs ++ gs, ?_, hf.append hg⟩
        rw [ofPaths, hfs, Except.ok_bind, hgs, Except.ok_bind]
        rfl

theorem named_of_isFile (h : tree.WellFormed) (hf : tree.isFile f.path = true)
    (hn : f = SourceFile.ofPath f.path) : f.Named ∧ '/' ∉ f.name.toList := by
  obtain ⟨name, hp, hs⟩ := h.exists_fileName hf
  have he : f.name = name := by
    rw [hn, SourceFile.ofPath, hp]
    rfl
  subst he
  exact ⟨Path.fileName?_eq_some_iff.1 hp, hs⟩

/-- Sorting and dropping repetitions loses no path, up to the way it is written down. -/
theorem Finds.dropRepeats_sort (hf : Finds tree extensions paths files) :
    Finds tree extensions paths (SourceFile.dropRepeats (SourceFile.sort files)) := by
  have hs : ∀ f ∈ SourceFile.dropRepeats (SourceFile.sort files), f ∈ files := fun f hm =>
    SourceFile.mem_sort_iff.1 (SourceFile.mem_of_mem_dropRepeats hm)
  refine ⟨fun f hm => hf.isFile f (hs f hm), fun p => ?_⟩
  rw [← hf.mem_iff]
  constructor
  · rintro ⟨f, hm, hc⟩
    exact ⟨f, hs f hm, hc⟩
  · rintro ⟨f, hm, hc⟩
    obtain ⟨g, hg, he⟩ := SourceFile.exists_mem_dropRepeats (SourceFile.mem_sort_iff.2 hm)
    exact ⟨g, hg, he.trans hc⟩

end Collection

end SimilarityClient
