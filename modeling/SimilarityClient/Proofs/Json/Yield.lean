import SimilarityClient.Proofs.Json.Filling

/-! # What readers yield

If every value that the members of a record are read as has a property, the
record has it, in whatever order its members come and whatever is passed over.
-/

namespace SimilarityClient.Json

variable {α σ : Type}

/-- Whatever a reader gives has a property. -/
def Yields (read : Reader α) (P : α → Prop) : Prop :=
  ∀ s x rest, read s = .ok (x, rest) → P x

variable {P : α → Prop} {Q : σ → Prop} {read : Reader α} {shape : Shape σ α}

theorem stopUnexpected_ne_ok {expected : String} {s : List Char} {x : α} :
    (stopUnexpected expected s : Except Stop α) ≠ .ok x := by
  intro h
  have hn := toOption_stopUnexpected (α := α) expected s
  rw [h] at hn
  cases hn

theorem forall_mem_readElements (hr : Yields read P) {n : Nat} {first : Bool} {s rest : List Char}
    {xs : List α} (h : readElements read n first s = .ok (xs, rest)) : ∀ x ∈ xs, P x := by
  induction n generalizing first s xs with
  | zero => cases h
  | succ n ih =>
    obtain ⟨ahead, -, h⟩ := Except.bind_eq_ok_iff.1 h
    cases ahead with
    | closed rest' =>
      cases h
      exact List.forall_mem_nil _
    | element s' =>
      obtain ⟨⟨x, t⟩, hx, h⟩ := Except.bind_eq_ok_iff.1 h
      obtain ⟨⟨ys, t'⟩, hys, h⟩ := Except.bind_eq_ok_iff.1 h
      cases h
      exact List.forall_mem_cons.2 ⟨hr _ _ _ hx, ih hys⟩

theorem yields_readList (hr : Yields read P) : Yields (readList read) fun xs => ∀ x ∈ xs, P x := by
  intro s xs rest h
  unfold readList at h
  split at h
  · cases h
  · exact forall_mem_readElements hr h
  · exact absurd h stopUnexpected_ne_ok

/-- A record without members has a property, and every member keeps it. -/
structure Shape.Keeps (shape : Shape σ α) (Q : σ → Prop) : Prop where
  empty : Q shape.empty
  member : ∀ m ∈ shape.members, ∀ record, Q record → Yields (m.read record) Q

theorem Member.Sets.yields {m : Member σ} {set : σ → α → σ} (h : m.Sets read set)
    (hr : Yields read P) {record : σ} (hq : ∀ x, P x → Q (set record x)) :
    Yields (m.read record) Q := by
  intro s record' rest hm
  rw [h] at hm
  cases hx : read s with
  | error e =>
    rw [hx] at hm
    cases hm
  | ok y =>
    rw [hx] at hm
    cases hm
    exact hq _ (hr _ _ _ hx)

theorem readInOrder_keeps {ms : List (Member σ)}
    (hk : ∀ m ∈ ms, ∀ record, Q record → Yields (m.read record) Q) {k : Nat} {record record' : σ}
    {s rest : List Char} (hq : Q record)
    (h : shape.readInOrder ms k record s = .ok (record', rest)) : Q record' := by
  induction ms generalizing k record s with
  | nil =>
    obtain ⟨t, -, h⟩ := Except.bind_eq_ok_iff.1 h
    cases h
    exact hq
  | cons m ms ih =>
    obtain ⟨ahead, -, h⟩ := Except.bind_eq_ok_iff.1 h
    cases ahead with
    | closed rest' => cases h
    | element s' =>
      obtain ⟨⟨next, t⟩, hn, h⟩ := Except.bind_eq_ok_iff.1 h
      have hq' : Q next := hk m List.mem_cons_self record hq _ _ _ hn
      exact ih (fun m' hm => hk m' (List.mem_cons_of_mem m hm)) hq' h

theorem stopRepeated_ne_ok {name : String} {s : List Char} {x : σ × List Char} :
    Shape.stopRepeated name s ≠ .ok x := by
  unfold Shape.stopRepeated
  split <;> nofun

theorem Shape.Keeps.readByName (hk : shape.Keeps Q) {n : Nat} {first : Bool} {record record' : σ}
    {s rest : List Char} (hq : Q record)
    (h : shape.readByName n first record s = .ok (record', rest)) : Q record' := by
  induction n generalizing first record s with
  | zero => cases h
  | succ n ih =>
    obtain ⟨ahead, -, h⟩ := Except.bind_eq_ok_iff.1 h
    cases ahead with
    | closed rest' =>
      dsimp only at h
      split at h
      · cases h
      · cases h
        exact hq
    | element s' =>
      obtain ⟨⟨key, t⟩, -, h⟩ := Except.bind_eq_ok_iff.1 h
      dsimp only at h
      split at h
      · -- A member that is not known leaves the record as it is.
        obtain ⟨u, -, h⟩ := Except.bind_eq_ok_iff.1 h
        obtain ⟨v, -, h⟩ := Except.bind_eq_ok_iff.1 h
        exact ih hq h
      · rename_i m hm
        split at h
        · exact absurd h stopRepeated_ne_ok
        · obtain ⟨u, -, h⟩ := Except.bind_eq_ok_iff.1 h
          obtain ⟨⟨next, v⟩, hn, h⟩ := Except.bind_eq_ok_iff.1 h
          have hq' : Q next := hk.member m (List.mem_of_find?_eq_some hm) record hq _ _ _ hn
          exact ih hq' h

theorem Shape.finish_keeps {result : Except Stop (σ × List Char)} {x : α} {rest : List Char}
    (hr : ∀ record t, result = .ok (record, t) → Q record)
    (hf : ∀ record x, Q record → shape.finished? record = some x → P x)
    (h : (result >>= fun y => match shape.finished? y.1 with
      | some z => Except.ok (z, y.2)
      | none => stopAt .endInObject y.2) = .ok (x, rest)) : P x := by
  obtain ⟨⟨record, t⟩, hy, h⟩ := Except.bind_eq_ok_iff.1 h
  dsimp only at h
  split at h
  · rename_i z hz
    cases h
    exact hf record _ (hr record _ hy) hz
  · cases h

/-- What is finished from records with a property is what the reader of the shape gives. -/
theorem Shape.Keeps.yields (hk : shape.Keeps Q)
    (hf : ∀ record x, Q record → shape.finished? record = some x → P x) :
    Yields shape.read P := by
  intro s x rest h
  unfold Shape.read at h
  dsimp only at h
  split at h
  · cases h
  · exact Shape.finish_keeps (fun _ _ hr => readInOrder_keeps hk.member hk.empty hr) hf h
  · exact Shape.finish_keeps (fun _ _ hr => hk.readByName hk.empty hr) hf h
  · exact Shape.finish_keeps (fun _ _ hr => absurd hr stopUnexpected_ne_ok) hf h

theorem Yields.readDocument (hr : Yields read P) {text : List Char} {x : α}
    (h : readDocument read text = .ok x) : P x := by
  unfold Json.readDocument at h
  dsimp only at h
  split at h
  · rename_i y hy
    cases h
    obtain ⟨⟨y, rest⟩, hx, hy⟩ := Except.bind_eq_ok_iff.1 hy
    dsimp only at hy
    split at hy
    · cases hy
      exact hr _ _ _ hx
    · cases hy
  · cases h

end SimilarityClient.Json
