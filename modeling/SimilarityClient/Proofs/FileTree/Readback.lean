import SimilarityClient.Proofs.FileTree.Place
import SimilarityClient.Proofs.FileTree.Write

/-! # Reading what was written

A walk that ends in a directory, or stops at a link, has not come through a
location that holds neither. So what changes at such a location leaves the walk
as it is, and a path that was written to leads to what was written.
-/

namespace SimilarityClient

open Text (Bytes)

namespace FileTree

variable {tree tree' : FileTree} {p : Path} {content : Bytes} {loc dir dir' : Location}
  {path rest : List Step} {name text : String}

/-- Two trees differ at a location at most, from where no walk leads on in the
first and where an item ends it in the second. -/
structure DifferAt (loc : Location) (tree tree' : FileTree) : Prop where
  elsewhere : ∀ here, here ≠ loc → tree'.item? here = tree.item? here
  not_directory : ¬tree.isDirectoryAt loc
  not_link : ∀ text, tree.item? loc ≠ some (.link text)
  exists_item : ∃ item, tree'.item? loc = some item ∧ item.isLink = false
  current : tree'.current = tree.current

/-- A walk leads on: it has come to a directory, or to a link. -/
def LeadsOn (tree : FileTree) : Walk → Prop
  | .arrived loc => tree.isDirectoryAt loc
  | .failed _ => False
  | .linked _ _ _ => True

theorem descend_append_of_arrived (h : tree.descend dir path = .arrived dir') (rest : List Step) :
    tree.descend dir (path ++ rest) = tree.descend dir' rest := by
  induction path generalizing dir with
  | nil =>
    cases h
    rfl
  | cons s path ih =>
    rw [List.cons_append]
    by_cases hd : tree.isDirectoryAt dir
    · cases s with
      | stay =>
        rw [descend_stay hd] at h ⊢
        exact ih h
      | up =>
        rw [descend_up hd] at h ⊢
        exact ih h
      | down name =>
        rw [descend_down hd] at h ⊢
        split at h
        · cases h
        · rename_i hl
          rw [if_neg hl]
          split at h
          · cases h
          · cases h
          · exact ih h
    · rw [descend_of_not_directory hd] at h
      cases h

theorem descend_append_of_linked {left : List Step}
    (h : tree.descend dir path = .linked dir' text left) (rest : List Step) :
    tree.descend dir (path ++ rest) = .linked dir' text (left ++ rest) := by
  induction path generalizing dir with
  | nil => cases h
  | cons s path ih =>
    rw [List.cons_append]
    by_cases hd : tree.isDirectoryAt dir
    · cases s with
      | stay =>
        rw [descend_stay hd] at h ⊢
        exact ih h
      | up =>
        rw [descend_up hd] at h ⊢
        exact ih h
      | down name =>
        rw [descend_down hd] at h ⊢
        split at h
        · cases h
        · rename_i hl
          rw [if_neg hl]
          split at h
          · cases h
          · cases h
            rfl
          · exact ih h
    · rw [descend_of_not_directory hd] at h
      cases h

namespace DifferAt

variable (h : DifferAt loc tree tree')

include h

theorem isDirectoryAt (hd : tree.isDirectoryAt dir) : tree'.isDirectoryAt dir := by
  have hne : dir ≠ loc := by
    rintro rfl
    exact h.not_directory hd
  rwa [FileTree.isDirectoryAt, h.elsewhere dir hne]

theorem item?_link (hl : tree.item? dir = some (.link text)) :
    tree'.item? dir = some (.link text) := by
  have hne : dir ≠ loc := by
    rintro rfl
    exact h.not_link text hl
  rw [h.elsewhere dir hne, hl]

theorem not_leadsOn (path : List Step) : ¬tree.LeadsOn (tree.descend loc path) := by
  cases path with
  | nil => exact h.not_directory
  | cons s path =>
    rw [descend_of_not_directory h.not_directory]
    exact not_false

theorem descend_eq (hw : tree.LeadsOn (tree.descend dir path)) :
    tree'.descend dir path = tree.descend dir path := by
  induction path generalizing dir with
  | nil => rfl
  | cons s path ih =>
    by_cases hd : tree.isDirectoryAt dir
    · have hd' := h.isDirectoryAt hd
      cases s with
      | stay =>
        rw [descend_stay hd] at hw
        rw [descend_stay hd, descend_stay hd', ih hw]
      | up =>
        rw [descend_up hd] at hw
        rw [descend_up hd, descend_up hd', ih hw]
      | down name =>
        rw [descend_down hd] at hw
        rw [descend_down hd, descend_down hd']
        split at hw
        · exact hw.elim
        · rename_i hl
          rw [if_neg hl, if_neg hl]
          by_cases hc : dir ++ [name] = loc
          · split at hw
            · exact hw.elim
            · rename_i text hi
              rw [hc] at hi
              exact absurd hi (h.not_link text)
            · rw [hc] at hw
              exact absurd hw (h.not_leadsOn path)
          · rw [h.elsewhere _ hc]
            split at hw
            · exact hw.elim
            · rfl
            · exact ih hw
    · rw [descend_of_not_directory hd] at hw
      exact hw.elim

/-- Where a name is found a place in the first tree, walking there arrives in the second. -/
theorem follow_targetIn {n : Nat} (ht : tree.targetIn n dir (path, some name) = .ok loc) :
    tree'.follow n dir (path ++ [.down name]) = .ok loc := by
  induction n generalizing dir path name with
  | zero => cases ht
  | succ n ih =>
    rw [targetIn] at ht
    rw [follow]
    split at ht
    · cases ht
    · rename_i dir' text rest hw
      have hw' := (h.descend_eq (by rw [hw]; exact trivial)).trans hw
      rw [descend_append_of_linked hw']
      have := ih ht
      rwa [List.append_assoc] at this
    · rename_i dir' hw
      dsimp only at ht
      split at ht
      · cases ht
      · rename_i hd
        rw [Bool.not_eq_true, Bool.not_eq_false'] at hd
        have hw' := (h.descend_eq (by rw [hw]; exact hd)).trans hw
        rw [descend_append_of_arrived hw', descend_down (h.isDirectoryAt hd)]
        split at ht
        · cases ht
        · rename_i hl
          rw [if_neg hl]
          split at ht
          · rename_i text hi
            rw [h.item?_link hi]
            generalize he : ending (Path.pieces text.toList) = e at ht
            obtain ⟨path', _ | name'⟩ := e
            · exact absurd ht (targetIn_none _ _ _ _)
            · dsimp only
              rw [List.append_nil, (ending_pieces he).1]
              exact ih ht
          · cases ht
            obtain ⟨item, hi, hl⟩ := h.exists_item
            rw [hi]
            cases item with
            | link => cases hl
            | _ => rfl

theorem locate_of_destination (hd : tree.destination p = .ok loc) :
    tree'.locate p = .ok loc := by
  obtain ⟨u, hc, -⟩ := Except.bind_eq_ok_iff.1 hd
  obtain ⟨path, name, hs, -, ht⟩ := exists_targetIn_of_destination hd
  rw [locate, hc, Except.ok_bind, h.current, hs]
  exact h.follow_targetIn ht

end DifferAt

theorem targetIn_ne_link {n : Nat} {e : List Step × Option String}
    (ht : tree.targetIn n dir e = .ok loc) (text : String) :
    tree.item? loc ≠ some (.link text) := by
  induction n generalizing dir e with
  | zero => cases ht
  | succ n ih =>
    obtain ⟨path, name?⟩ := e
    rw [targetIn] at ht
    split at ht
    · cases ht
    · exact ih ht
    · split at ht
      · cases ht
      · split at ht
        · cases ht
        · split at ht
          · cases ht
          · split at ht
            · exact ih ht
            · rename_i hl
              cases ht
              exact hl text

theorem destination_ne_link (h : tree.destination p = .ok loc) (text : String) :
    tree.item? loc ≠ some (.link text) := by
  obtain ⟨_, -, ht⟩ := Except.bind_eq_ok_iff.1 h
  exact targetIn_ne_link ht text

/-- A write leaves a tree that differs at the destination at most. -/
theorem differAt_writeAt (hd : tree.destination p = .ok loc)
    (hw : tree.writeAt loc content = .ok tree') : DifferAt loc tree tree' := by
  have hl := destination_ne_link hd
  obtain ⟨hi, rfl | ⟨rfl, hf⟩⟩ := writeAt_cases hw
  · refine ⟨fun here => item?_writeAt hw, hi, hl, ⟨.file content, ?_, rfl⟩, current_put _ _ _⟩
    rw [item?_put _ _ _ _ (ne_nil_of_not_isDirectoryAt hi), if_pos rfl]
  · exact ⟨fun _ _ => rfl, hi, hl, ⟨_, hf, rfl⟩, rfl⟩

/-- What is written is what is read behind the same path, unless a device has swallowed it. -/
theorem read_write (hw : tree.write p content = .ok tree')
    (hv : ∀ full, tree.stat p ≠ .ok (.device full)) : tree'.read p = .ok content := by
  obtain ⟨loc, hd, hw⟩ := write_eq_ok_iff.1 hw
  have hl := (differAt_writeAt hd hw).locate_of_destination hd
  obtain ⟨hi, rfl | ⟨rfl, hf⟩⟩ := writeAt_cases hw
  · have hs : (tree.put loc (.file content)).stat p = .ok (.file content) := by
      refine stat_eq_ok_iff.2 ⟨loc, hl, ?_⟩
      rw [item?_put _ _ _ _ (ne_nil_of_not_isDirectoryAt hi), if_pos rfl]
    rw [read, hs]
    rfl
  · exact absurd (stat_eq_ok_iff.2 ⟨loc, hl, hf⟩) (hv false)

end FileTree

end SimilarityClient
