/-! # Dividing at a separator

The pieces of a list between the occurrences of a separator, from the left. A
piece is found whole if the separator does not begin in it.
-/

namespace SimilarityClient.Multipart

variable {α : Type} {sep a : List α} {c : α}

/-- A separator does not begin in a piece that it follows. -/
def Avoids (sep a : List α) : Prop := ¬ sep <:+: a ++ sep.dropLast

theorem Avoids.tail (h : Avoids sep (c :: a)) : Avoids sep a :=
  fun hi => h (hi.trans (List.suffix_cons c _).isInfix)

theorem Avoids.not_prefix_append (hs : sep ≠ []) (h : Avoids sep (c :: a)) (b : List α) :
    ¬ sep <+: c :: (a ++ (sep ++ b)) := by
  intro hp
  have he : c :: (a ++ (sep ++ b)) = (c :: a ++ sep.dropLast) ++ (sep.getLast hs :: b) := by
    conv => lhs; rw [← List.dropLast_concat_getLast hs]
    simp
  have hl : sep.length ≤ (c :: a ++ sep.dropLast).length := by
    have := List.length_pos_iff.2 hs
    simp only [List.length_append, List.length_cons, List.length_dropLast]
    omega
  rw [he] at hp
  exact h (List.prefix_of_prefix_length_le hp (List.prefix_append _ _) hl).isInfix

/-- A list without some element ends before the first of these. -/
theorem prefix_of_prefix_append_cons {p : List α} (hp : c ∉ p) {t : List α}
    (h : p <+: a ++ c :: t) : p <+: a := by
  induction p generalizing a with
  | nil => exact List.nil_prefix
  | cons d p ih =>
    rw [List.mem_cons, not_or] at hp
    cases a with
    | nil => exact absurd (List.cons_prefix_cons.1 h).1.symm hp.1
    | cons e a =>
      obtain ⟨rfl, ht⟩ := List.cons_prefix_cons.1 h
      exact List.cons_prefix_cons.2 ⟨rfl, ih hp.2 ht⟩

theorem avoids_of_not_mem (hs : sep ≠ []) (hc : c ∉ sep) (h : ¬ c :: sep <:+: a) :
    Avoids (c :: sep) a := by
  rw [Avoids, List.dropLast_cons_of_ne_nil hs]
  intro hi
  induction a with
  | nil =>
    have hl := hi.length_le
    have := List.length_pos_iff.2 hs
    simp only [List.nil_append, List.length_cons, List.length_dropLast] at hl
    omega
  | cons d a ih =>
    rw [List.infix_cons_iff, not_or] at h
    rcases List.infix_cons_iff.1 hi with hp | hi
    · obtain ⟨rfl, ht⟩ := List.cons_prefix_cons.1 hp
      exact h.1 (List.cons_prefix_cons.2 ⟨rfl, prefix_of_prefix_append_cons hc ht⟩)
    · exact ih h.2 hi

variable [DecidableEq α]

/-- What stands before the first occurrence of a separator, and what behind it. -/
def cut? (sep : List α) : List α → Option (List α × List α)
  | [] => none
  | c :: r =>
    if sep.isPrefixOf (c :: r) then some ([], (c :: r).drop sep.length)
    else (cut? sep r).map fun (before, behind) => (c :: before, behind)

def extend (c : α) : List (List α) → List (List α)
  | [] => [[c]]
  | p :: ps => (c :: p) :: ps

/-- The pieces of a list. The first argument counts elements of a separator that
are still to be passed over. -/
def divideFrom (sep : List α) : Nat → List α → List (List α)
  | _, [] => [[]]
  | n + 1, _ :: r => divideFrom sep n r
  | 0, c :: r =>
    if sep.isPrefixOf (c :: r) then [] :: divideFrom sep (sep.length - 1) r
    else extend c (divideFrom sep 0 r)

def divide (sep s : List α) : List (List α) := divideFrom sep 0 s

theorem cut?_append (hs : sep ≠ []) (h : Avoids sep a) (b : List α) :
    cut? sep (a ++ (sep ++ b)) = some (a, b) := by
  induction a with
  | nil =>
    obtain ⟨c, r, rfl⟩ := List.exists_cons_of_ne_nil hs
    rw [List.nil_append, List.cons_append, cut?, if_pos (by simp)]
    simp
  | cons c a ih =>
    have hp : ¬ sep.isPrefixOf (c :: (a ++ (sep ++ b))) := by
      simpa using h.not_prefix_append hs b
    rw [List.cons_append, cut?, if_neg hp, ih h.tail]
    rfl

theorem divideFrom_append {n : Nat} {skipped : List α} (h : skipped.length = n) (s : List α) :
    divideFrom sep n (skipped ++ s) = divide sep s := by
  induction skipped generalizing n with
  | nil => subst h; rfl
  | cons c skipped ih => subst h; exact ih rfl

theorem divide_append (hs : sep ≠ []) (h : Avoids sep a) (b : List α) :
    divide sep (a ++ (sep ++ b)) = a :: divide sep b := by
  induction a with
  | nil =>
    obtain ⟨c, r, rfl⟩ := List.exists_cons_of_ne_nil hs
    rw [List.nil_append, List.cons_append, divide, divideFrom, if_pos (by simp),
      divideFrom_append (by simp)]
  | cons c a ih =>
    have hp : ¬ sep.isPrefixOf (c :: (a ++ (sep ++ b))) := by
      simpa using h.not_prefix_append hs b
    rw [List.cons_append, divide, divideFrom, if_neg hp, ← divide, ih h.tail]
    rfl

theorem divide_eq_singleton (h : ¬ sep <:+: a) : divide sep a = [a] := by
  induction a with
  | nil => rfl
  | cons c a ih =>
    rw [List.infix_cons_iff, not_or] at h
    have hp : ¬ sep.isPrefixOf (c :: a) := by simpa using h.1
    rw [divide, divideFrom, if_neg hp, ← divide, ih h.2]
    rfl

end SimilarityClient.Multipart
