import Mathlib.Logic.Basic
import SimilarityClient.Proofs.FileTree.Walk

/-! # Places

Without links the location that a path leads to can be told from the path and
the working directory alone, by going along its components. Paths that begin
alike and never step up come to the same place only if their components are the same.
-/

namespace SimilarityClient

def Component.leadFrom (loc : Location) : Component → Location
  | root => []
  | here => loc
  | up => loc.dropLast
  | name s => loc ++ [s]

def Step.leadFrom (loc : Location) : Step → Location
  | stay => loc
  | up => loc.dropLast
  | down name => loc ++ [name]

namespace Path

/-- Where a path leads from a working directory if there are no links. -/
def place (dir : Location) (p : Path) : Location := p.components.foldl Component.leadFrom dir

/-- Both paths start at the root, with a leading dot or with neither, and take no step up. -/
structure BeginAlike (p q : Path) : Prop where
  up_left : .up ∉ p.components
  up_right : .up ∉ q.components
  root_iff : .root ∈ p.components ↔ .root ∈ q.components
  here_iff : .here ∈ p.components ↔ .here ∈ q.components

variable {p q : Path} {dir : Location}

theorem foldl_ofPiece (piece : List Char) (loc : Location) :
    (ofPiece piece).foldl Component.leadFrom loc = (Step.ofPiece piece).leadFrom loc := by
  unfold ofPiece Step.ofPiece
  split
  · rfl
  · split <;> rfl

theorem foldl_flatMap_ofPiece (ps : List (List Char)) (loc : Location) :
    (ps.flatMap ofPiece).foldl Component.leadFrom loc =
      (ps.map Step.ofPiece).foldl Step.leadFrom loc := by
  induction ps generalizing loc with
  | nil => rfl
  | cons piece ps ih =>
    rw [List.flatMap_cons, List.foldl_append, foldl_ofPiece, ih]
    rfl

/-- Going along the steps of a path is going along its components. -/
theorem foldl_steps (hp : p.text ≠ "") (dir : Location) :
    (FileTree.steps p.text).foldl Step.leadFrom (FileTree.start dir p.text) = p.place dir := by
  obtain ⟨c, r, hs⟩ : ∃ c r, p.text.toList = c :: r :=
    List.exists_cons_of_ne_nil (by simpa using hp)
  rw [FileTree.steps, FileTree.start, place, components, hs]
  by_cases hc : c = '/'
  · subst hc
    have hr : ([] : List Char) :: pieces r ≠ [[]] := by simp [pieces_ne_nil]
    rw [pieces, if_pos rfl, ofPieces_cons hr, List.foldl_append, foldl_flatMap_ofPiece]
    rfl
  · obtain ⟨piece, ps, hps⟩ := List.exists_cons_of_ne_nil (pieces_ne_nil r)
    have ha : FileTree.isAbsolute (c :: r) = false := by simpa [FileTree.isAbsolute] using hc
    have hl : (lead (c :: piece)).foldl Component.leadFrom dir =
        (Step.ofPiece (c :: piece)).leadFrom dir := by
      rw [lead, if_neg (by simp)]
      split <;> rename_i hd
      · rw [hd]
        rfl
      · exact foldl_ofPiece _ _
    rw [pieces, if_neg hc, hps, ha, ofPieces_cons (by simp), List.foldl_append, hl,
      foldl_flatMap_ofPiece]
    rfl

theorem foldl_names (names : List String) (loc : Location) :
    (names.map Component.name).foldl Component.leadFrom loc = loc ++ names := by
  induction names generalizing loc with
  | nil => simp
  | cons s names ih =>
    rw [List.map_cons, List.foldl_cons, ih]
    simp [Component.leadFrom]

theorem exists_names_of_flatMap {ps : List (List Char)} (h : .up ∉ ps.flatMap ofPiece) :
    ∃ names : List String, ps.flatMap ofPiece = names.map Component.name := by
  induction ps with
  | nil => exact ⟨[], rfl⟩
  | cons piece ps ih =>
    rw [List.flatMap_cons, List.mem_append, not_or] at h
    obtain ⟨names, hn⟩ := ih h.2
    rw [List.flatMap_cons, hn]
    have hu := h.1
    unfold ofPiece at hu ⊢
    split
    · exact ⟨names, rfl⟩
    · split
      · simp_all
      · exact ⟨_ :: names, rfl⟩

theorem lead_cases (piece : List Char) :
    lead piece = [.root] ∨ lead piece = [.here] ∨ lead piece = ofPiece piece := by
  unfold lead
  split
  · exact .inl rfl
  · split
    · exact .inr (.inl rfl)
    · exact .inr (.inr rfl)

/-- Behind the root or a leading dot there are names only. -/
theorem exists_names (h : .up ∉ p.components) : ∃ (start : List Component) (names : List String),
    p.components = start ++ names.map Component.name ∧
      (start = [] ∨ start = [.root] ∨ start = [.here]) := by
  obtain ⟨piece, ps, hs⟩ := List.exists_cons_of_ne_nil (pieces_ne_nil p.text.toList)
  rw [components, hs] at h ⊢
  by_cases he : piece :: ps = [[]]
  · exact ⟨[], [], by rw [he]; rfl, .inl rfl⟩
  · rw [ofPieces_cons he] at h ⊢
    rw [List.mem_append, not_or] at h
    obtain ⟨names, hn⟩ := exists_names_of_flatMap h.2
    rw [hn]
    rcases lead_cases piece with hl | hl | hl
    · exact ⟨[.root], names, by rw [hl], .inr (.inl rfl)⟩
    · exact ⟨[.here], names, by rw [hl], .inr (.inr rfl)⟩
    · have hf : lead piece = [piece].flatMap ofPiece := by simp [hl]
      have hu := h.1
      rw [hf] at hu ⊢
      obtain ⟨first, ho⟩ := exists_names_of_flatMap hu
      exact ⟨[], first ++ names, by simp only [ho, List.map_append, List.nil_append], .inl rfl⟩

theorem BeginAlike.components_eq (h : BeginAlike p q) (hp : p.place dir = q.place dir) :
    p.components = q.components := by
  obtain ⟨start, names, hc, hs⟩ := exists_names h.up_left
  obtain ⟨start', names', hc', hs'⟩ := exists_names h.up_right
  have hr := h.root_iff
  have hh := h.here_iff
  rw [place, place, hc, hc', List.foldl_append, List.foldl_append, foldl_names, foldl_names] at hp
  rw [hc, hc'] at hr hh ⊢
  -- the start is the same on both sides, so that it leads to the same location
  rcases hs with rfl | rfl | rfl <;> rcases hs' with rfl | rfl | rfl <;>
    simp_all [Component.leadFrom]

end Path

def Item.isLink : Item → Bool
  | link _ => true
  | _ => false

namespace FileTree

variable {tree : FileTree} {loc loc' : Location} {path : List Step}

/-- There are no links in the tree. -/
def Unlinked (tree : FileTree) : Prop := ∀ e ∈ tree.items, e.2.isLink = false

instance (tree : FileTree) : Decidable tree.Unlinked :=
  inferInstanceAs (Decidable (∀ e ∈ tree.items, e.2.isLink = false))

theorem Unlinked.item?_ne (hu : tree.Unlinked) (loc : Location) (target : String) :
    tree.item? loc ≠ some (.link target) := by
  rw [item?]
  split
  · simp
  · intro h
    obtain ⟨e, he, hi⟩ := Option.map_eq_some_iff.1 h
    have hn := hu e (List.mem_of_find?_eq_some he)
    rw [hi] at hn
    cases hn

theorem Unlinked.descend_ne_linked (hu : tree.Unlinked) (dir : Location) (target : String)
    (rest : List Step) : tree.descend loc path ≠ .linked dir target rest := by
  induction path generalizing loc with
  | nil => simp [descend]
  | cons s path ih =>
    by_cases hd : tree.isDirectoryAt loc
    · cases s with
      | stay => rw [descend_stay hd]; exact ih
      | up => rw [descend_up hd]; exact ih
      | down name =>
        rw [descend_down hd]
        split
        · simp
        · split
          · simp
          · rename_i hi
            exact absurd hi (hu.item?_ne _ _)
          · exact ih
    · simp [descend_of_not_directory hd]

theorem foldl_of_descend (h : tree.descend loc path = .arrived loc') :
    path.foldl Step.leadFrom loc = loc' := by
  induction path generalizing loc with
  | nil =>
    rw [descend, Walk.arrived.injEq] at h
    exact h
  | cons s path ih =>
    by_cases hd : tree.isDirectoryAt loc
    · cases s with
      | stay => rw [descend_stay hd] at h; exact ih h
      | up => rw [descend_up hd] at h; exact ih h
      | down name =>
        rw [descend_down hd] at h
        split at h
        · cases h
        · split at h
          · cases h
          · cases h
          · exact ih h
    · rw [descend_of_not_directory hd] at h
      cases h

theorem Unlinked.foldl_of_follow (hu : tree.Unlinked) {n : Nat}
    (h : tree.follow n loc path = .ok loc') : path.foldl Step.leadFrom loc = loc' := by
  cases n with
  | zero => cases h
  | succ n =>
    rw [follow] at h
    split at h
    · rename_i hd
      cases h
      exact foldl_of_descend hd
    · cases h
    · rename_i hd
      exact absurd hd (hu.descend_ne_linked _ _ _)

/-- Without links a path leads to its place, if it leads anywhere. -/
theorem Unlinked.place_eq (hu : tree.Unlinked) {p : Path} (h : tree.locate p = .ok loc) :
    p.place tree.current = loc := by
  obtain ⟨_, -, hf⟩ := Except.bind_eq_ok_iff.1 h
  rw [← Path.foldl_steps (text_ne_of_locate h)]
  exact hu.foldl_of_follow hf

end FileTree

end SimilarityClient
