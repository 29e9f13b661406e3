import SimilarityClient.Report.Basic

/-! # The highest similarity

The highest similarity of a report is that of one of its entries, and no entry
is above it. What is not a number is highest only where there are no numbers.
-/

namespace SimilarityClient

namespace Binary64

variable {x a b : Binary64} {xs : List Binary64}

/-- A member of a list that no member is above; a number, if there is one. -/
structure IsHighest (x : Binary64) (xs : List Binary64) : Prop where
  mem : x ∈ xs
  not_below : ∀ y ∈ xs, x.lt y = false
  number : x = nan → ∀ y ∈ xs, y = nan

@[simp] theorem lt_nan (x : Binary64) : x.lt nan = false := by
  cases x <;> rfl

@[simp] theorem lt_self (x : Binary64) : x.lt x = false := by
  cases x with
  | nan => rfl
  | number negative m => exact decide_eq_false (Int.lt_irrefl _)

theorem max_number (negative : Bool) (m : Magnitude) (b : Binary64) :
    (number negative m).max b = if (number negative m).lt b then b else number negative m := rfl

theorem max_cases (a b : Binary64) : a.max b = a ∨ a.max b = b := by
  cases a with
  | nan => exact .inr rfl
  | number negative m =>
    rw [max_number]
    split
    · exact .inr rfl
    · exact .inl rfl

theorem max_eq_nan (h : a.max b = nan) : a = nan ∧ b = nan := by
  cases a with
  | nan => exact ⟨rfl, h⟩
  | number negative m =>
    rw [max_number] at h
    split at h
    · rename_i hlt
      rw [h, lt_nan] at hlt
      cases hlt
    · cases h

theorem lt_of_lt (h : x.lt b = false) (hab : a.lt b = true) : x.lt a = false := by
  cases a with
  | nan => exact lt_nan x
  | number s m =>
    cases b with
    | nan => cases hab
    | number t k =>
      cases x with
      | nan => rfl
      | number negative n =>
        rw [lt, decide_eq_false_iff_not] at h ⊢
        rw [lt, decide_eq_true_eq] at hab
        omega

theorem lt_of_not_lt (h : x.lt a = false) (hn : a ≠ nan) (hab : a.lt b = false) :
    x.lt b = false := by
  cases a with
  | nan => exact absurd rfl hn
  | number s m =>
    cases b with
    | nan => exact lt_nan x
    | number t k =>
      cases x with
      | nan => rfl
      | number negative n =>
        rw [lt, decide_eq_false_iff_not] at h hab ⊢
        omega

theorem lt_of_max (h : x.lt (a.max b) = false) : x.lt a = false ∧ x.lt b = false := by
  cases a with
  | nan => exact ⟨lt_nan x, h⟩
  | number s m =>
    rw [max_number] at h
    split at h
    · rename_i hlt
      exact ⟨lt_of_lt h hlt, h⟩
    · rename_i hlt
      rw [Bool.not_eq_true] at hlt
      exact ⟨h, lt_of_not_lt h nofun hlt⟩

theorem IsHighest.of_max (h : IsHighest x (a.max b :: xs)) : IsHighest x (a :: b :: xs) := by
  refine ⟨?_, fun y hy => ?_, fun hn y hy => ?_⟩
  · rcases List.mem_cons.1 h.mem with rfl | hx
    · rcases max_cases a b with hm | hm <;> simp [hm]
    · exact List.mem_cons_of_mem _ (List.mem_cons_of_mem _ hx)
  · have hm := lt_of_max (h.not_below _ List.mem_cons_self)
    rcases List.mem_cons.1 hy with rfl | hy
    · exact hm.1
    rcases List.mem_cons.1 hy with rfl | hy
    · exact hm.2
    · exact h.not_below y (List.mem_cons_of_mem _ hy)
  · have hm := max_eq_nan (h.number hn _ List.mem_cons_self)
    rcases List.mem_cons.1 hy with rfl | hy
    · exact hm.1
    rcases List.mem_cons.1 hy with rfl | hy
    · exact hm.2
    · exact h.number hn y (List.mem_cons_of_mem _ hy)

end Binary64

open Binary64

theorem isHighest_foldl (x : Binary64) (es : List Entry) :
    IsHighest (es.foldl (fun x e => x.max e.similarity) x) (x :: es.map (·.similarity)) := by
  induction es generalizing x with
  | nil =>
    refine ⟨List.mem_singleton_self x, ?_, ?_⟩
    · exact List.forall_mem_singleton.2 (lt_self x)
    · exact fun hn => List.forall_mem_singleton.2 hn
  | cons e es ih => exact (ih (x.max e.similarity)).of_max

/-- The highest similarity of a report belongs to one of its entries. -/
theorem Report.exists_highest {r : Report} (h : r.entries ≠ []) : ∃ e ∈ r.entries,
    r.highest? = some e.similarity ∧ IsHighest e.similarity (r.entries.map (·.similarity)) := by
  obtain ⟨entries⟩ := r
  obtain ⟨e, es, rfl⟩ := List.exists_cons_of_ne_nil h
  have hx := isHighest_foldl e.similarity es
  obtain ⟨e', he, hs⟩ := List.mem_map.1 (show _ ∈ (e :: es).map (·.similarity) from hx.mem)
  refine ⟨e', he, ?_, ?_⟩
  · rw [hs]
    rfl
  · rwa [hs]

end SimilarityClient
