import SimilarityClient.Path

/-! # Names at the end of a path

The entry of a directory adds its name to the components of the directory,
however the directory was written down. The last component of a path is a name
exactly if its last piece is one.
-/

namespace SimilarityClient

namespace Path

/-- A name that an entry of a directory can have. -/
def IsName (s : List Char) : Prop := s ≠ [] ∧ s ≠ ['.'] ∧ s ≠ ['.', '.'] ∧ '/' ∉ s

instance (s : List Char) : Decidable (IsName s) :=
  inferInstanceAs (Decidable (s ≠ [] ∧ s ≠ ['.'] ∧ s ≠ ['.', '.'] ∧ '/' ∉ s))

variable {s t : List Char}

theorem ofPiece_of_isName (h : IsName s) : ofPiece s = [.name (String.ofList s)] := by
  simp [ofPiece, h.1, h.2.1, h.2.2.1]

theorem slash_not_mem_of_mem_pieces {piece : List Char} (h : piece ∈ pieces s) : '/' ∉ piece := by
  induction s generalizing piece with
  | nil => simp_all [pieces]
  | cons c r ih =>
    rw [pieces] at h
    split at h <;> rename_i hc
    · rcases List.mem_cons.1 h with rfl | h
      · exact List.not_mem_nil
      · exact ih h
    · cases hp : pieces r with
      | nil => exact absurd hp (pieces_ne_nil r)
      | cons p ps =>
        rw [hp] at h ih
        rcases List.mem_cons.1 h with rfl | h
        · have := ih List.mem_cons_self
          simp [this, Ne.symm hc]
        · exact ih (List.mem_cons_of_mem _ h)

theorem pieces_append_slash (s t : List Char) : pieces (s ++ '/' :: t) = pieces s ++ pieces t := by
  induction s with
  | nil => simp [pieces]
  | cons c r ih =>
    rw [List.cons_append, pieces, pieces, ih]
    cases hp : pieces r with
    | nil => exact absurd hp (pieces_ne_nil r)
    | cons p ps => split <;> simp

theorem pieces_of_slash_not_mem (h : '/' ∉ s) : pieces s = [s] := by
  induction s with
  | nil => rfl
  | cons c r ih =>
    rw [List.mem_cons, not_or] at h
    rw [pieces, if_neg (Ne.symm h.1), ih h.2]

theorem pieces_eq_nil_iff : pieces s = [[]] ↔ s = [] := by
  constructor
  · intro h
    rw [← intercalate_pieces s, h]
    rfl
  · rintro rfl; rfl

/-- What the first piece means if others follow. -/
def lead (piece : List Char) : List Component :=
  if piece = [] then [.root] else if piece = ['.'] then [.here] else ofPiece piece

theorem ofPieces_cons {p : List Char} {ps : List (List Char)} (h : p :: ps ≠ [[]]) :
    ofPieces (p :: ps) = lead p ++ ps.flatMap ofPiece := by
  rw [ofPieces.eq_def]
  split
  · simp_all
  · rename_i p' ps' he
    obtain ⟨rfl, rfl⟩ := he
    rfl
  · rename_i ps' he
    obtain ⟨rfl, rfl⟩ := he
    rfl
  · rename_i h₁ h₂ h₃
    have hp : p ≠ [] := by
      rintro rfl
      cases ps with
      | nil => exact h rfl
      | cons q qs => exact h₂ q qs rfl
    have hd : p ≠ ['.'] := by
      rintro rfl
      exact h₃ ps rfl
    simp [lead, hp, hd]

theorem ofPieces_concat {ps : List (List Char)} (h : ps ≠ []) (he : ps ≠ [[]]) (p : List Char) :
    ofPieces (ps ++ [p]) = ofPieces ps ++ ofPiece p := by
  cases ps with
  | nil => exact absurd rfl h
  | cons q qs =>
    rw [List.cons_append, ofPieces_cons (by simp), ofPieces_cons he, List.flatMap_append]
    simp

theorem ofPieces_root (p : List Char) : ofPieces [[], p] = .root :: ofPiece p := by
  simp [ofPieces]

theorem getLast?_ofPieces (h : IsName s) (ps : List (List Char)) :
    (ofPieces (ps ++ [s])).getLast? = some (.name (String.ofList s)) := by
  have hs := ofPiece_of_isName h
  by_cases hn : ps = []
  · subst hn
    rw [List.nil_append, ofPieces_cons (by simp [h.1])]
    simp [lead, h.1, h.2.1, hs]
  · by_cases he : ps = [[]]
    · subst he
      change (ofPieces [[], s]).getLast? = _
      rw [ofPieces_root, hs]
      rfl
    · rw [ofPieces_concat hn he, hs]
      simp

theorem pieces_join {dir : Path} (hd : dir.text ≠ "") (name : String) :
    ∃ ps, ps ≠ [] ∧ pieces (dir.join name).text.toList = ps ++ pieces name.toList ∧
      (pieces dir.text.toList = ps ∨ pieces dir.text.toList = ps ++ [[]]) := by
  have hne : dir.text.toList ≠ [] := by simpa using hd
  by_cases hl : dir.text.toList.getLast? = some '/'
  · obtain ⟨s, hs⟩ := List.getLast?_eq_some_iff.1 hl
    refine ⟨pieces s, pieces_ne_nil s, ?_, .inr ?_⟩
    · simp only [join, String.toList_append, hs]
      simpa using pieces_append_slash s name.toList
    · rw [hs, pieces_append_slash]
      rfl
  · refine ⟨pieces dir.text.toList, pieces_ne_nil _, ?_, .inl rfl⟩
    simp only [join, hl, hd, or_self, if_false, String.toList_append]
    simpa using pieces_append_slash dir.text.toList name.toList

theorem components_join {dir : Path} {name : String} (hd : dir.text ≠ "")
    (h : IsName name.toList) : (dir.join name).components = dir.components ++ [.name name] := by
  obtain ⟨ps, hps, hj, hd'⟩ := pieces_join hd name
  have hn := ofPiece_of_isName h
  rw [String.ofList_toList] at hn
  rw [pieces_of_slash_not_mem h.2.2.2] at hj
  rw [components, components, hj]
  by_cases he : ps = [[]]
  · subst he
    rcases hd' with hd' | hd'
    · exact absurd (pieces_eq_nil_iff.1 hd') (by simpa using hd)
    · change ofPieces [[], name.toList] = _
      rw [hd', ofPieces_root, hn]
      rfl
  · rw [ofPieces_concat hps he, hn]
    rcases hd' with hd' | hd'
    · rw [hd']
    · rw [hd', ofPieces_concat hps he]
      simp [ofPiece]

theorem fileName?_eq_some_iff {p : Path} {name : String} :
    p.fileName? = some name ↔ p.components.getLast? = some (.name name) := by
  rw [fileName?]
  cases p.components.getLast? with
  | none => simp
  | some c => cases c <;> simp

theorem fileName?_join {dir : Path} {name : String} (hd : dir.text ≠ "")
    (h : IsName name.toList) : (dir.join name).fileName? = some name := by
  rw [fileName?_eq_some_iff, components_join hd h]
  simp

end Path

end SimilarityClient
