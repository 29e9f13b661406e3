import SimilarityClient.Proofs.Fallible
import SimilarityClient.Proofs.FileTree.Walk

/-! # Writing to a file tree

A write that succeeds touches the location that its path leads to, and no
other. A well-formed tree stays well-formed.
-/

namespace SimilarityClient

open Text (Bytes)

namespace FileTree

variable {tree tree' : FileTree} {p : Path} {content : Bytes} {loc dir : Location}

def destination (tree : FileTree) (p : Path) : Except FileFault Location := do
  checkPath p
  tree.target maxWalks (start tree.current p.text) (Path.pieces p.text.toList)

theorem write_eq_ok_iff : tree.write p content = .ok tree' ↔
    ∃ loc, tree.destination p = .ok loc ∧ tree.writeAt loc content = .ok tree' := by
  rw [write, destination]
  cases checkPath p with
  | error fault => simp
  | ok u => simp [Except.bind_eq_ok_iff]

/-- A write puts a file in the place of what is no directory, or is swallowed by a device. -/
theorem writeAt_cases (h : tree.writeAt loc content = .ok tree') :
    ¬tree.isDirectoryAt loc ∧
      (tree' = tree.put loc (.file content) ∨
        tree' = tree ∧ tree.item? loc = some (.device false)) := by
  rw [writeAt] at h
  split at h
  · cases h
  · cases h
  · cases h
  · rename_i full hi
    have hd : ¬tree.isDirectoryAt loc := by simp [isDirectoryAt, hi, Item.isDirectory]
    cases full with
    | true => cases h
    | false => exact ⟨hd, .inr ⟨(Except.ok.inj h).symm, hi⟩⟩
  · rename_i hd hc hl hv
    refine ⟨fun hi => ?_, .inl (Except.ok.inj h).symm⟩
    obtain ⟨item, hi, ht⟩ := isDirectoryAt_iff.1 hi
    cases item with
    | directory => exact hd hi
    | closed => exact hc hi
    | _ => cases ht

theorem ne_nil_of_not_isDirectoryAt (h : ¬tree.isDirectoryAt loc) : loc ≠ [] := by
  rintro rfl
  exact h rfl

theorem item?_writeAt (h : tree.writeAt loc content = .ok tree') {here : Location}
    (hh : here ≠ loc) : tree'.item? here = tree.item? here := by
  obtain ⟨hd, rfl | ⟨rfl, -⟩⟩ := writeAt_cases h
  · rw [item?_put _ _ _ _ (ne_nil_of_not_isDirectoryAt hd), if_neg hh]
  · rfl

theorem item?_write (h : tree.write p content = .ok tree') {here : Location}
    (hh : tree'.item? here ≠ tree.item? here) : tree.destination p = .ok here := by
  obtain ⟨loc, hl, hw⟩ := write_eq_ok_iff.1 h
  by_cases he : here = loc
  · rw [he, hl]
  · exact absurd (item?_writeAt hw he) hh

theorem ending_cases {pieces : List (List Char)} {path : List Step} {name : String}
    (hp : ∀ piece ∈ pieces, '/' ∉ piece) (h : ending pieces = (path, some name)) :
    pieces.map Step.ofPiece = path ++ [.down name] ∧ Path.IsName name.toList := by
  rw [ending] at h
  split at h
  · cases h
  · rename_i last before hr
    have hl : pieces = before.reverse ++ [last] := by simpa using congrArg List.reverse hr
    subst hl
    split at h
    · rename_i hn
      cases h
      obtain ⟨he, hi⟩ := ofPiece_eq_down hn (hp last (by simp))
      refine ⟨?_, he ▸ hi⟩
      rw [List.map_append, List.map_singleton, hn]
    · split at h <;> cases h
    · cases h

theorem ending_pieces {text : String} {path : List Step} {name : String}
    (h : ending (Path.pieces text.toList) = (path, some name)) :
    steps text = path ++ [.down name] ∧ Path.IsName name.toList :=
  ending_cases (fun _ => Path.slash_not_mem_of_mem_pieces) h

theorem targetIn_none (n : Nat) (dir loc : Location) (path : List Step) :
    tree.targetIn n dir (path, none) ≠ .ok loc := by
  induction n generalizing dir path with
  | zero => simp [targetIn]
  | succ n ih =>
    rw [targetIn]
    split
    · simp
    · exact ih _ _
    · simp

theorem targetIn_cases {n : Nat} {path : List Step} {name : String}
    (hn : Path.IsName name.toList) (h : tree.targetIn n dir (path, some name) = .ok loc) :
    ∃ parent name, loc = parent ++ [name] ∧ tree.isDirectoryAt parent ∧
      Path.IsName name.toList := by
  induction n generalizing dir path name with
  | zero => cases h
  | succ n ih =>
    rw [targetIn] at h
    split at h
    · cases h
    · exact ih hn h
    · rename_i parent _
      dsimp only at h
      split at h
      · cases h
      · rename_i hd
        split at h
        · cases h
        · split at h
          · rename_i text _
            generalize he : ending (Path.pieces text.toList) = e at h
            obtain ⟨path', _ | name'⟩ := e
            · exact absurd h (targetIn_none _ _ _ _)
            · exact ih (ending_pieces he).2 h
          · cases h
            exact ⟨parent, name, rfl, by simpa using hd, hn⟩

theorem exists_targetIn_of_destination (h : tree.destination p = .ok loc) :
    ∃ path name, steps p.text = path ++ [.down name] ∧ Path.IsName name.toList ∧
      tree.targetIn maxWalks (start tree.current p.text) (path, some name) = .ok loc := by
  obtain ⟨_, -, h⟩ := Except.bind_eq_ok_iff.1 h
  rw [target] at h
  generalize he : ending (Path.pieces p.text.toList) = e at h
  obtain ⟨path, _ | name⟩ := e
  · exact absurd h (targetIn_none _ _ _ _)
  · exact ⟨path, name, (ending_pieces he).1, (ending_pieces he).2, h⟩

theorem destination_cases (h : tree.destination p = .ok loc) :
    ∃ parent name, loc = parent ++ [name] ∧ tree.isDirectoryAt parent ∧
      Path.IsName name.toList := by
  obtain ⟨path, name, -, hn, h⟩ := exists_targetIn_of_destination h
  exact targetIn_cases hn h

theorem mem_items_put {e : Location × Item} {item : Item} (h : e ∈ (tree.put loc item).items) :
    e ∈ tree.items ∨ e = (loc, item) := by
  rw [put] at h
  split at h
  · obtain ⟨d, hd, he⟩ := List.mem_map.1 h
    split at he
    · exact .inr he.symm
    · exact .inl (he ▸ hd)
  · rcases List.mem_append.1 h with h | h
    · exact .inl h
    · exact .inr (List.mem_singleton.1 h)

theorem WellFormed.put (h : tree.WellFormed) {item : Item} {name : String}
    (hd : tree.isDirectoryAt dir) (hn : Path.IsName name.toList)
    (hi : ¬tree.isDirectoryAt (dir ++ [name])) :
    (tree.put (dir ++ [name]) item).WellFormed := by
  have hp : ∀ here, tree.isDirectoryAt here →
      (tree.put (dir ++ [name]) item).isDirectoryAt here := by
    intro here hh
    have he : here ≠ dir ++ [name] := by
      rintro rfl
      exact hi hh
    rwa [isDirectoryAt, item?_put _ _ _ _ (by simp), if_neg he]
  refine ⟨fun e he => ?_, fun e he => ?_⟩
  · rcases mem_items_put he with he | rfl
    · exact hp _ (h.parent e he)
    · simpa using hp dir hd
  · rcases mem_items_put he with he | rfl
    · exact h.isName e he
    · simpa using hn

theorem WellFormed.write (h : tree.WellFormed) (hw : tree.write p content = .ok tree') :
    tree'.WellFormed := by
  obtain ⟨loc, hl, hw⟩ := write_eq_ok_iff.1 hw
  obtain ⟨parent, name, rfl, hd, hn⟩ := destination_cases hl
  obtain ⟨hi, rfl | ⟨rfl, -⟩⟩ := writeAt_cases hw
  · exact h.put hd hn hi
  · exact h

end FileTree

end SimilarityClient
