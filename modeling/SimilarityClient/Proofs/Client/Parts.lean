import SimilarityClient.Client
import SimilarityClient.Proofs.Fallible

/-! # The parts of a request

Reading gives one part for every file, in order and numbered in a row, or the
error of the first file that cannot be read.
-/

namespace SimilarityClient

namespace Client

variable {tree : FileTree} {files : List SourceFile} {parts : List Multipart.Part} {k : Nat}

/-- The error of the first file that cannot be read. -/
def firstUnreadable? (tree : FileTree) (files : List SourceFile) : Option ClientError :=
  files.findSome? fun f => match tree.read f.path with
    | .error fault => some (.unreadable f.path fault)
    | .ok _ => none

theorem firstUnreadable?_cons_of_error {f : SourceFile} {fault : FileFault}
    (h : tree.read f.path = .error fault) :
    firstUnreadable? tree (f :: files) = some (.unreadable f.path fault) := by
  simp [firstUnreadable?, h]

theorem firstUnreadable?_cons_of_ok {f : SourceFile} {content : Text.Bytes}
    (h : tree.read f.path = .ok content) :
    firstUnreadable? tree (f :: files) = firstUnreadable? tree files := by
  simp [firstUnreadable?, h]

/-- Every file has its part, the first of them for position `k`. -/
structure PartsOf (tree : FileTree) (k : Nat) (files : List SourceFile)
    (parts : List Multipart.Part) : Prop where
  length_eq : parts.length = files.length
  part : ∀ (j : Nat) (f : SourceFile), files[j]? = some f → ∃ content,
    tree.read f.path = .ok content ∧ parts[j]? = some ⟨fieldAt (k + j), f.name, content⟩

theorem PartsOf.cons (h : PartsOf tree (k + 1) files parts) {f : SourceFile} {content : Text.Bytes}
    (hr : tree.read f.path = .ok content) :
    PartsOf tree k (f :: files) (⟨fieldAt k, f.name, content⟩ :: parts) := by
  refine ⟨congrArg (· + 1) h.length_eq, fun j g hj => ?_⟩
  cases j with
  | zero =>
    cases hj
    exact ⟨content, hr, rfl⟩
  | succ j =>
    obtain ⟨content', hr', hp⟩ := h.part j g hj
    exact ⟨content', hr', by simpa [Nat.add_right_comm, Nat.add_assoc] using hp⟩

theorem PartsOf.getElem (h : PartsOf tree k files parts) {j : Nat} (hj : j < parts.length) :
    ∃ (hf : j < files.length) (content : Text.Bytes), tree.read files[j].path = .ok content ∧
      parts[j] = ⟨fieldAt (k + j), files[j].name, content⟩ := by
  have hf : j < files.length := h.length_eq ▸ hj
  obtain ⟨content, hr, hp⟩ := h.part j files[j] (List.getElem?_eq_getElem hf)
  exact ⟨hf, content, hr, (List.getElem?_eq_some_iff.1 hp).2⟩

theorem PartsOf.fields (h : PartsOf tree k files parts) :
    parts.map Multipart.Part.field = (List.range' (k + 1) files.length).map fieldName := by
  refine List.ext_getElem (by simp [h.length_eq]) fun j hj _ => ?_
  obtain ⟨_, content, -, hp⟩ := h.getElem (by simpa using hj)
  rw [List.getElem_map, List.getElem_map, List.getElem_range', hp, Nat.one_mul,
    Nat.add_right_comm]
  rfl

theorem PartsOf.map_read (h : PartsOf tree k files parts) :
    files.map (tree.read ·.path) = (parts.map Multipart.Part.content).map .ok := by
  refine List.ext_getElem (by simp [h.length_eq]) fun j _ hj => ?_
  obtain ⟨_, content, hr, hp⟩ := h.getElem (by simpa using hj)
  rw [List.getElem_map, List.getElem_map, List.getElem_map, hp, hr]

/-- Reading stops at the first file that cannot be read, and has all parts if there is none. -/
theorem readParts_cases (tree : FileTree) (k : Nat) (files : List SourceFile) :
    match firstUnreadable? tree files with
    | some e => readParts tree k files = .error e
    | none => ∃ parts, readParts tree k files = .ok parts ∧ PartsOf tree k files parts := by
  induction files generalizing k with
  | nil => exact ⟨[], rfl, rfl, by simp⟩
  | cons f files ih =>
    cases hr : tree.read f.path with
    | error fault =>
      rw [firstUnreadable?_cons_of_error hr]
      simp only [readParts, hr]
    | ok content =>
      rw [firstUnreadable?_cons_of_ok hr]
      have hk := ih (k + 1)
      split at hk
      · simp only [readParts, hr, hk]
        rfl
      · obtain ⟨parts, ho, hp⟩ := hk
        refine ⟨_, ?_, hp.cons hr⟩
        simp only [readParts, hr, ho]
        rfl

theorem readParts_of_unreadable {e : ClientError} (h : firstUnreadable? tree files = some e)
    (k : Nat) : readParts tree k files = .error e := by
  have hc := readParts_cases tree k files
  rwa [h] at hc

theorem exists_readParts (h : firstUnreadable? tree files = none) (k : Nat) :
    ∃ parts, readParts tree k files = .ok parts := by
  have hc := readParts_cases tree k files
  rw [h] at hc
  exact hc.imp fun _ => And.left

theorem readParts_eq_ok (h : readParts tree k files = .ok parts) :
    firstUnreadable? tree files = none ∧ PartsOf tree k files parts := by
  have hc := readParts_cases tree k files
  split at hc
  · cases h.symm.trans hc
  · rename_i hu
    obtain ⟨parts', ho, hp⟩ := hc
    cases h.symm.trans ho
    exact ⟨hu, hp⟩

theorem firstUnreadable?_eq_none_iff : firstUnreadable? tree files = none ↔
    ∀ f ∈ files, ∃ content, tree.read f.path = .ok content := by
  rw [firstUnreadable?, List.findSome?_eq_none_iff]
  refine forall₂_congr fun f _ => ?_
  cases tree.read f.path <;> simp

variable (lib : Libraries)

theorem prepare_of_unreadable {e : ClientError} (h : firstUnreadable? tree files = some e)
    (boundary url : String) : prepare lib tree boundary url files = .error e := by
  rw [prepare, readParts_of_unreadable h, Except.error_bind]

theorem prepare_of_readParts (h : readParts tree 0 files = .ok parts) (boundary url : String) :
    prepare lib tree boundary url files =
      (readAddress lib url).map fun address => (address, request boundary address parts) := by
  rw [prepare, h, Except.ok_bind]
  cases readAddress lib url <;> rfl

end Client

end SimilarityClient
