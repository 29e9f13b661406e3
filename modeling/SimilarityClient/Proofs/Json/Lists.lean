import SimilarityClient.Proofs.Json.Record
import SimilarityClient.Proofs.Json.Scalars

/-! # Lists of values

The elements of a list are read one by one, with whatever blanks between them.
-/

namespace SimilarityClient.Json

variable {α β : Type} {read : Reader α} {v b t rest : List Char} {vs : List (List Char)}
  {first : Bool}

theorem nextElement_end (hb : IsBlank b) (rest : List Char) :
    nextElement first (b ++ ']' :: rest) = .ok (.closed rest) := by
  rw [nextElement, skipSpace_append hb, skipSpace_cons rfl]
  rfl

theorem nextElement_first (hb : IsBlank b) (hv : Opens .list v) (rest : List Char) :
    nextElement true (b ++ (v ++ rest)) = .ok (.element (v ++ rest)) := by
  obtain ⟨c, r, rfl, hc, hce⟩ := hv
  have he : c ≠ ']' := hce
  rw [nextElement, skipSpace_append hb, List.cons_append, skipSpace_cons hc]
  dsimp only
  rw [if_neg he]
  rfl

theorem nextElement_next {a : List Char} (ha : IsBlank a) (hb : IsBlank b) (hv : Opens .list v)
    (rest : List Char) :
    nextElement false (a ++ ',' :: (b ++ (v ++ rest))) = .ok (.element (v ++ rest)) := by
  obtain ⟨c, r, rfl, hc, hce⟩ := hv
  have he : c ≠ ']' := hce
  rw [nextElement, skipSpace_append ha, skipSpace_cons rfl]
  dsimp only
  rw [if_neg (by decide), if_neg (by decide), if_pos rfl, skipSpace_append hb, List.cons_append,
    skipSpace_cons hc]
  dsimp only
  rw [if_neg he]

theorem toOption_readElements_cons {s : List Char} {n : Nat}
    (hn : nextElement first s = .ok (.element (v ++ t))) (hv : IsSettled read v)
    (ht : Delimited t)
    (ih : (readElements read n false t).toOption = (vs.mapM (value? read)).map (·, rest)) :
    (readElements read (n + 1) first s).toOption =
      ((v :: vs).mapM (value? read)).map (·, rest) := by
  have hx := hv.settles t ht
  rw [readElements, hn, Except.ok_bind]
  dsimp only
  rw [Except.toOption_bind, hx, List.mapM_cons]
  cases value? read v with
  | none => rfl
  | some x =>
    change (readElements read n false t >>= fun y => .ok (x :: y.1, y.2)).toOption = _
    rw [Except.toOption_bind_ok, ih]
    cases vs.mapM (value? read) <;> rfl

theorem toOption_readElements_end {s : List Char} (n : Nat)
    (hn : nextElement first s = .ok (.closed rest)) :
    (readElements read (n + 1) first s).toOption = (([] : List (List Char)).mapM (value? read)).map
      (·, rest) := by
  rw [readElements_end hn]
  rfl

theorem Tail.toOption_readElements (h : Tail vs t) (hv : ∀ v ∈ vs, IsValue v)
    (hs : ∀ v ∈ vs, IsSettled read v) {n : Nat} (hn : vs.length ≤ n) (rest : List Char) :
    (readElements read (n + 1) false (t ++ ']' :: rest)).toOption =
      (vs.mapM (value? read)).map (·, rest) := by
  induction h generalizing n with
  | nil hb => exact toOption_readElements_end n (nextElement_end hb rest)
  | @cons v vs a b t ha hb ht ih =>
    obtain ⟨n, rfl⟩ := Nat.exists_eq_add_of_le' (Nat.le_trans (Nat.le_add_left 1 vs.length) hn)
    refine toOption_readElements_cons ?_ (hs v List.mem_cons_self)
      (ht.delimited_closing .list rest) ?_
    · simp only [List.append_assoc, List.cons_append]
      exact nextElement_next ha hb (hv v List.mem_cons_self).opens _
    · exact ih (fun w hw => hv w (List.mem_cons_of_mem v hw))
        (fun w hw => hs w (List.mem_cons_of_mem v hw)) (Nat.le_of_succ_le_succ hn)

theorem Tail.length_le (h : Tail vs t) : vs.length ≤ t.length := by
  induction h with
  | nil _ => exact Nat.zero_le _
  | cons _ _ _ ih =>
    simp only [List.length_cons, List.length_append]
    omega

theorem Items.length_le {s : List Char} (h : Items vs s) : vs.length ≤ s.length + 1 := by
  cases h with
  | nil _ => exact Nat.zero_le _
  | cons _ ht =>
    have := ht.length_le
    simp only [List.length_cons, List.length_append]
    omega

theorem Items.toOption_readElements {s : List Char} (h : Items vs s) (hv : ∀ v ∈ vs, IsValue v)
    (hs : ∀ v ∈ vs, IsSettled read v) {n : Nat} (hn : vs.length ≤ n) (rest : List Char) :
    (readElements read (n + 1) true (s ++ ']' :: rest)).toOption =
      (vs.mapM (value? read)).map (·, rest) := by
  cases h with
  | nil hb => exact toOption_readElements_end n (nextElement_end hb rest)
  | @cons v vs b t hb ht =>
    obtain ⟨n, rfl⟩ := Nat.exists_eq_add_of_le' (Nat.le_trans (Nat.le_add_left 1 vs.length) hn)
    refine toOption_readElements_cons ?_ (hs v List.mem_cons_self)
      (ht.delimited_closing .list rest) ?_
    · rw [List.append_assoc, List.append_assoc]
      exact nextElement_first hb (hv v List.mem_cons_self).opens _
    · exact ht.toOption_readElements (fun w hw => hv w (List.mem_cons_of_mem v hw))
        (fun w hw => hs w (List.mem_cons_of_mem v hw)) (Nat.le_of_succ_le_succ hn) rest

/-- A list is read as its elements, with anything behind it. -/
theorem ListOf.toOption_readList (h : ListOf vs v) (hs : ∀ v ∈ vs, IsSettled read v)
    (rest : List Char) : (readList read (v ++ rest)).toOption =
      (vs.mapM (value? read)).map (·, rest) := by
  obtain ⟨hv, s, hi, rfl⟩ := h
  have hl : readList read ('[' :: (s ++ [']']) ++ rest) =
      readElements read ((s ++ ']' :: rest).length + 1) true (s ++ ']' :: rest) := by
    rw [List.cons_append, List.append_assoc]
    rfl
  have := hi.length_le
  rw [hl]
  refine hi.toOption_readElements hv hs ?_ rest
  simp only [List.length_append, List.length_cons]
  omega

theorem ListOf.settles (h : ListOf vs v) (hs : ∀ v ∈ vs, IsSettled read v) :
    Settles (readList read) v (vs.mapM (value? read)) := fun rest _ => h.toOption_readList hs rest

theorem ignoresBlanks_readList : IgnoresBlanks (readList read) := by
  intro b s hb
  rw [readList, readList, skipSpace_append hb]

theorem readList_other {c : Char} (hc : isSpace c = false) (hl : c ≠ '[') (r : List Char) :
    (readList read (c :: r)).toOption = none := by
  rw [readList, skipSpace_cons hc]
  split
  · rfl
  · rename_i h
    exact absurd (List.cons.inj h).1 hl
  · exact toOption_stopUnexpected _ _

theorem isSettled_readList (hs : ∀ v, IsValue v → IsSettled read v) (h : IsValue v) :
    IsSettled (readList read) v := by
  cases h with
  | literal h =>
    exact ⟨none, settles_bare (fun c hc => readList_other hc.not_space hc.not_list) (.inl h)⟩
  | number h =>
    exact ⟨none, settles_bare (fun c hc => readList_other hc.not_space hc.not_list) (.inr h)⟩
  | text _ => exact ⟨none, settles_none fun t => readList_other rfl (by decide) t⟩
  | list hi hv => exact ⟨_, ListOf.settles ⟨hv, _, hi, rfl⟩ fun v hm => hs v (hv v hm)⟩
  | object _ _ _ => exact ⟨none, settles_none fun t => readList_other rfl (by decide) t⟩

end SimilarityClient.Json
