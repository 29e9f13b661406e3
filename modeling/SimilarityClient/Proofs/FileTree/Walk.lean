import Mathlib.Logic.Basic
import SimilarityClient.FileTree
import SimilarityClient.Proofs.Fallible
import SimilarityClient.Proofs.Path.Name

/-! # Walks through a file tree

In a well-formed tree every item stands in a directory. A walk that ends with
a step up, or with a step that stays, ends in a directory, so that the path of a
regular file ends in a name.
-/

namespace SimilarityClient

namespace FileTree

/-- Every item stands in a directory, under a name that a path can be made of. -/
structure WellFormed (tree : FileTree) : Prop where
  parent : ∀ e ∈ tree.items, tree.isDirectoryAt e.1.dropLast
  isName : ∀ e ∈ tree.items, ∀ name ∈ e.1.getLast?, Path.IsName name.toList

instance (tree : FileTree) : Decidable tree.WellFormed :=
  decidable_of_iff
    ((∀ e ∈ tree.items, tree.isDirectoryAt e.1.dropLast) ∧
      ∀ e ∈ tree.items, ∀ name ∈ e.1.getLast?, Path.IsName name.toList)
    ⟨fun h => ⟨h.1, h.2⟩, fun h => ⟨h.parent, h.isName⟩⟩

variable {tree : FileTree} {loc loc' dir : Location} {path rest : List Step} {s : Step}

theorem isDirectoryAt_iff : tree.isDirectoryAt loc ↔
    ∃ item, tree.item? loc = some item ∧ item.isDirectory :=
  Option.any_eq_true ..

theorem exists_mem_items {item : Item} (hl : loc ≠ []) (h : tree.item? loc = some item) :
    ∃ e ∈ tree.items, e.1 = loc := by
  rw [item?, if_neg hl, Option.map_eq_some_iff] at h
  obtain ⟨e, he, -⟩ := h
  exact ⟨e, List.mem_of_find?_eq_some he, by simpa using List.find?_some he⟩

theorem WellFormed.isDirectoryAt_dropLast (h : tree.WellFormed) {item : Item}
    (hi : tree.item? loc = some item) : tree.isDirectoryAt loc.dropLast := by
  by_cases hl : loc = []
  · subst hl; rfl
  · obtain ⟨e, he, rfl⟩ := exists_mem_items hl hi
    exact h.parent e he

theorem childName?_eq_some_iff {name : String} :
    childName? dir loc = some name ↔ loc = dir ++ [name] := by
  rw [childName?]
  constructor
  · intro h
    split at h
    · rename_i hd
      rw [List.getLast?_eq_some_iff] at h
      obtain ⟨ys, rfl⟩ := h
      rw [← hd, List.dropLast_concat]
    · cases h
  · rintro rfl
    simp

theorem mem_children_iff {name : String} :
    name ∈ tree.children dir ↔ tree.item? (dir ++ [name]) ≠ none := by
  rw [item?, if_neg (by simp), children, List.mem_filterMap, ne_eq, Option.map_eq_none_iff,
    List.find?_eq_none]
  simp only [childName?_eq_some_iff, beq_iff_eq, not_forall, not_not,
    exists_prop]

theorem WellFormed.isName_of_mem_children (h : tree.WellFormed) {name : String}
    (hm : name ∈ tree.children dir) : Path.IsName name.toList := by
  obtain ⟨e, he, hc⟩ := List.mem_filterMap.1 hm
  rw [childName?_eq_some_iff] at hc
  exact h.isName e he name (by simp [hc])

theorem descend_of_not_directory (h : ¬tree.isDirectoryAt loc) :
    tree.descend loc (s :: path) = .failed .notDirectory := by
  cases s <;> simp [descend, h]

theorem descend_stay (h : tree.isDirectoryAt loc) :
    tree.descend loc (.stay :: path) = tree.descend loc path := by
  simp [descend, h]

theorem descend_up (h : tree.isDirectoryAt loc) :
    tree.descend loc (.up :: path) = tree.descend loc.dropLast path := by
  simp [descend, h]

theorem descend_down (h : tree.isDirectoryAt loc) (name : String) :
    tree.descend loc (.down name :: path) =
      if tooLong name then .failed .nameTooLong
      else match tree.item? (loc ++ [name]) with
        | none => .failed .notFound
        | some (.link target) => .linked loc target path
        | some _ => tree.descend (loc ++ [name]) path := by
  rw [descend]
  exact if_neg (by simp [h])

/-- A walk that does not end with a name ends in a directory, or at a link before its last step. -/
theorem WellFormed.descend_concat (h : tree.WellFormed) (hs : s = .stay ∨ s = .up) :
    (∀ loc', tree.descend loc (path ++ [s]) = .arrived loc' → tree.isDirectoryAt loc') ∧
      ∀ dir target rest, tree.descend loc (path ++ [s]) = .linked dir target rest →
        ∃ rest', rest = rest' ++ [s] := by
  induction path generalizing loc with
  | nil =>
    rw [List.nil_append]
    by_cases hd : tree.isDirectoryAt loc
    · rcases hs with rfl | rfl
      · rw [descend_stay hd]
        simp [descend, hd]
      · rw [descend_up hd]
        obtain ⟨item, hi, -⟩ := isDirectoryAt_iff.1 hd
        simpa [descend] using h.isDirectoryAt_dropLast hi
    · simp [descend_of_not_directory hd]
  | cons step path ih =>
    rw [List.cons_append]
    by_cases hd : tree.isDirectoryAt loc
    · cases step with
      | stay => rw [descend_stay hd]; exact ih
      | up => rw [descend_up hd]; exact ih
      | down name =>
        rw [descend_down hd]
        split
        · simp
        · split
          · simp
          · refine ⟨by simp, fun dir target rest he => ?_⟩
            cases he
            exact ⟨path, rfl⟩
          · exact ih
    · simp [descend_of_not_directory hd]

theorem WellFormed.follow_concat (h : tree.WellFormed) (hs : s = .stay ∨ s = .up) {n : Nat}
    (hf : tree.follow n loc (path ++ [s]) = .ok loc') : tree.isDirectoryAt loc' := by
  induction n generalizing loc path with
  | zero => cases hf
  | succ n ih =>
    rw [follow] at hf
    split at hf
    · rename_i hd
      cases hf
      exact (h.descend_concat hs).1 _ hd
    · cases hf
    · rename_i dir target rest hd
      obtain ⟨rest', rfl⟩ := (h.descend_concat hs).2 dir target rest hd
      rw [← List.append_assoc] at hf
      exact ih hf

theorem stat_eq_ok_iff {p : Path} {item : Item} :
    tree.stat p = .ok item ↔ ∃ loc, tree.locate p = .ok loc ∧ tree.item? loc = some item := by
  rw [stat, Except.bind_eq_ok_iff]
  refine exists_congr fun loc => and_congr_right fun _ => ?_
  cases tree.item? loc <;> simp [pure, Except.pure, throw, throwThe, MonadExceptOf.throw]

theorem isFile_iff {p : Path} : tree.isFile p = true ↔
    (∃ content, tree.stat p = .ok (.file content)) ∨ tree.stat p = .ok .locked := by
  rw [isFile]
  split <;> simp_all

theorem isDirectory_iff {p : Path} : tree.isDirectory p = true ↔
    tree.stat p = .ok .directory ∨ tree.stat p = .ok .closed := by
  rw [isDirectory]
  split <;> rename_i item hs
  · cases item <;> simp [hs, Item.isDirectory]
  · simp [hs]

theorem list_eq_ok {p : Path} (hl : tree.locate p = .ok loc)
    (hd : tree.item? loc = some .directory) : tree.list p = .ok (tree.children loc) := by
  rw [list, hl, Except.ok_bind]
  simp only [hd]
  rfl

theorem list_of_closed {p : Path} (h : tree.stat p = .ok .closed) :
    tree.list p = .error .denied := by
  obtain ⟨loc, hl, hc⟩ := stat_eq_ok_iff.1 h
  rw [list, hl, Except.ok_bind]
  simp only [hc]
  rfl

theorem text_ne_of_locate {p : Path} (h : tree.locate p = .ok loc) : p.text ≠ "" := by
  intro ht
  simp [locate, checkPath, ht] at h

theorem ofPiece_eq_down {piece : List Char} {name : String}
    (h : Step.ofPiece piece = .down name) (hs : '/' ∉ piece) :
    name.toList = piece ∧ Path.IsName piece := by
  rw [Step.ofPiece] at h
  split at h
  · cases h
  · rename_i hp
    split at h
    · cases h
    · rename_i hu
      cases h
      exact ⟨String.toList_ofList, fun hn => hp (.inl hn), fun hd => hp (.inr hd), hu, hs⟩

/-- What the path of a regular file leads to has a name of its own: the last component. -/
theorem WellFormed.exists_fileName (h : tree.WellFormed) {p : Path} (hf : tree.isFile p = true) :
    ∃ name, p.fileName? = some name ∧ '/' ∉ name.toList := by
  have hi : ∃ loc, tree.locate p = .ok loc ∧ ¬tree.isDirectoryAt loc := by
    rcases isFile_iff.1 hf with ⟨content, hc⟩ | hl
    · obtain ⟨loc, hl, hi⟩ := stat_eq_ok_iff.1 hc
      exact ⟨loc, hl, by simp [isDirectoryAt, hi, Item.isDirectory]⟩
    · obtain ⟨loc, hl, hi⟩ := stat_eq_ok_iff.1 hl
      exact ⟨loc, hl, by simp [isDirectoryAt, hi, Item.isDirectory]⟩
  obtain ⟨loc, hl, hd⟩ := hi
  obtain ⟨ps, last, hp⟩ : ∃ ps last, Path.pieces p.text.toList = ps ++ [last] := by
    rcases List.eq_nil_or_concat (Path.pieces p.text.toList) with hn | ⟨ps, last, hp⟩
    · exact absurd hn (Path.pieces_ne_nil _)
    · exact ⟨ps, last, by simpa using hp⟩
  have hsl : '/' ∉ last := Path.slash_not_mem_of_mem_pieces (s := p.text.toList) (by simp [hp])
  have hw : tree.follow maxWalks (start tree.current p.text)
      (ps.map Step.ofPiece ++ [Step.ofPiece last]) = .ok loc := by
    obtain ⟨_, -, hl⟩ := Except.bind_eq_ok_iff.1 hl
    simpa [steps, hp] using hl
  cases hst : Step.ofPiece last with
  | stay => exact absurd (h.follow_concat (.inl hst) hw) hd
  | up => exact absurd (h.follow_concat (.inr hst) hw) hd
  | down name =>
    refine ⟨String.ofList last, ?_, by simpa using hsl⟩
    rw [Path.fileName?_eq_some_iff, Path.components, hp]
    exact Path.getLast?_ofPieces (ofPiece_eq_down hst hsl).2 ps

end FileTree

end SimilarityClient
