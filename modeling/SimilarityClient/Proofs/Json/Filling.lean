import SimilarityClient.Proofs.Json.Lists

/-! # Filling records

The members of a record are filled from the pairs of an object, or from the
elements of a list. What the text of either is read as is what the filling
gives; the text has no other part in it.
-/

namespace SimilarityClient.Json

variable {α β σ : Type} {shape : Shape σ α} {s v a b t rest : List Char} {first : Bool} {n : Nat}
  {record record' : σ} {ms : List (List Char × List Char)} {vs ts : List (List Char)}

namespace Shape

variable (shape : Shape σ α)

def names : List (List Char) := shape.members.map (·.name.toList)

/-- The record with one more pair of an object. What is known is given once. -/
def take? (record : σ) (m : List Char × List Char) : Option σ :=
  match shape.members.find? (·.name.toList == m.1) with
  | none => some record
  | some member =>
    if member.given record then none else value? (member.read record) m.2

/-- The record with the pairs of an object, when all of its members are given. -/
def fill : σ → List (List Char × List Char) → Option σ
  | record, [] => if (shape.members.find? (!·.given record)).isNone then some record else none
  | record, m :: ms => (shape.take? record m).bind (fill · ms)

/-- The record with the elements of a list as its members, in order. -/
def fillInOrder : List (Member σ) → σ → List (List Char) → Option σ
  | [], record, [] => some record
  | m :: ms, record, v :: vs => (value? (m.read record) v).bind (fillInOrder ms · vs)
  | _, _, _ => none

/-- The members read values wherever they stand. -/
structure IsSteady : Prop where
  ignoresBlanks : ∀ m ∈ shape.members, ∀ record, IgnoresBlanks (m.read record)
  isSettled : ∀ m ∈ shape.members, ∀ record v, IsValue v → IsSettled (m.read record) v

end Shape

/-- A member reads one value and puts it in the record. -/
def Member.Sets (m : Member σ) (read : Reader β) (set : σ → β → σ) :
    Prop := ∀ record s, m.read record s = (read s).map fun y => (set record y.1, y.2)

namespace Member.Sets

variable {m m' : Member σ} {read : Reader α} {read' : Reader β} {set : σ → α → σ}
  {set' : σ → β → σ}

theorem toOption (h : m.Sets read set) (record : σ) (s : List Char) :
    (m.read record s).toOption = (read s).toOption.map fun y => (set record y.1, y.2) := by
  rw [h, Except.toOption_map]

theorem value?_eq (h : m.Sets read set) (record : σ) (v : List Char) :
    value? (m.read record) v = (value? read v).map (set record) := by
  rw [value?, h.toOption, value?, Option.map_map, Option.map_map]
  rfl

theorem ignoresBlanks (h : m.Sets read set) (hr : IgnoresBlanks read) (record : σ) :
    IgnoresBlanks (m.read record) := by
  intro b s hb
  rw [h, h, hr b s hb]

theorem isSettled (h : m.Sets read set) (hv : IsSettled read v) (record : σ) :
    IsSettled (m.read record) v := by
  obtain ⟨x?, hv⟩ := hv
  refine ⟨x?.map (set record), fun rest hr => ?_⟩
  rw [h.toOption, hv rest hr, Option.map_map, Option.map_map]
  rfl

theorem exists_set (h : m.Sets read set) (hv : value? (m.read record) v = some record') :
    ∃ x, record' = set record x := by
  rw [h.value?_eq] at hv
  obtain ⟨x, -, rfl⟩ := Option.map_eq_some_iff.1 hv
  exact ⟨x, rfl⟩

/-- Members that set different places may be read in either order. -/
theorem commutes (h : m.Sets read set) (h' : m'.Sets read' set')
    (hc : ∀ record x y, set' (set record x) y = set (set' record y) x) (record : σ)
    (v w : List Char) :
    (value? (m.read record) v).bind (fun r => value? (m'.read r) w) =
      (value? (m'.read record) w).bind fun r => value? (m.read r) v := by
  simp only [h.value?_eq, h'.value?_eq]
  cases value? read v with
  | none => cases value? read' w <;> rfl
  | some x =>
    cases value? read' w with
    | none => rfl
    | some y => exact congrArg some (hc record x y)

end Member.Sets

/-- The key that a spelling is read as. -/
def key? (k : List Char) : Option (List Char) := value? readText (k ++ ['"'])

def decode? (m : List Char × List Char) : Option (List Char × List Char) :=
  (key? m.1).map (·, m.2)

theorem toOption_readText {k : List Char} (hk : IsText k) (rest : List Char) :
    (readText (k ++ '"' :: rest)).toOption = (key? k).map (·, rest) := by
  obtain ⟨t?, ht⟩ := hk.settles_tails.1
  have h0 := ht []
  rw [readText, ht, key?, value?, readText, h0, Option.map_map]
  cases t? <;> rfl

theorem key?_spells {k key : List Char} (h : Spells k key) : key? k = some key := by
  rw [key?, value?, readText_spells h]
  rfl

theorem nextKey_end (hb : IsBlank b) (rest : List Char) :
    nextKey first (b ++ '\x7d' :: rest) = .ok (.closed rest) := by
  rw [nextKey, skipSpace_append hb, skipSpace_cons rfl]
  rfl

theorem nextKey_first (hb : IsBlank b) (rest : List Char) :
    nextKey true (b ++ '"' :: rest) = .ok (.element rest) := by
  rw [nextKey, skipSpace_append hb, skipSpace_cons rfl]
  rfl

theorem nextKey_next (ha : IsBlank a) (hb : IsBlank b) (rest : List Char) :
    nextKey false (a ++ ',' :: (b ++ '"' :: rest)) = .ok (.element rest) := by
  rw [nextKey, skipSpace_append ha, skipSpace_cons rfl]
  dsimp only
  rw [if_neg (by decide), if_neg (by decide), if_pos rfl, skipSpace_append hb, skipSpace_cons rfl]
  rfl

theorem toOption_stopRepeated (name : String) (s : List Char) :
    (Shape.stopRepeated name s : Except Stop (σ × List Char)).toOption = none := by
  rw [Shape.stopRepeated]
  split <;> rfl

theorem toOption_readByName_end (n : Nat) (hn : nextKey first s = .ok (.closed rest)) :
    (shape.readByName (n + 1) first record s).toOption = (shape.fill record []).map (·, rest) := by
  rw [Shape.readByName, hn, Except.ok_bind, Shape.fill]
  dsimp only
  cases shape.members.find? (!·.given record) <;> rfl

/-- The pairs of an object are taken one by one. -/
theorem fill_decoded (record : σ) (k v : List Char) (ms : List (List Char × List Char)) :
    (((k, v) :: ms).mapM decode?).bind (shape.fill record) = (key? k).bind fun key =>
      (shape.take? record (key, v)).bind fun r => (ms.mapM decode?).bind (shape.fill r) := by
  rw [List.mapM_cons, decode?]
  cases key? k with
  | none => rfl
  | some key =>
    cases ms.mapM decode? with
    | none => exact (Option.bind_fun_none _).symm
    | some kvs => rfl

theorem toOption_readByName_cons (hs : shape.IsSteady) {k : List Char}
    (hn : nextKey first s = .ok (.element (k ++ '"' :: (a ++ ':' :: (b ++ (v ++ t))))))
    (hk : IsText k) (ha : IsBlank a) (hb : IsBlank b) (hv : IsValue v) (ht : Delimited t)
    (ih : ∀ record, (shape.readByName n false record t).toOption =
      ((ms.mapM decode?).bind (shape.fill record)).map (·, rest)) :
    (shape.readByName (n + 1) first record s).toOption =
      ((((k, v) :: ms).mapM decode?).bind (shape.fill record)).map (·, rest) := by
  rw [Shape.readByName, hn, Except.ok_bind, fill_decoded]
  dsimp only
  rw [Except.toOption_bind, toOption_readText hk]
  cases key? k with
  | none => rfl
  | some key =>
    dsimp only [Option.map_some, Option.bind_some]
    cases hf : shape.members.find? (·.name.toList == key) with
    | none =>
      rw [readColon_append ha, Shape.take?, hf]
      simp only [Except.ok_bind, skipValue_isValue hv hb ht]
      exact ih record
    | some m =>
      have hm := List.mem_of_find?_eq_some hf
      rw [Shape.take?, hf]
      dsimp only
      cases m.given record with
      | true =>
        rw [if_pos rfl, if_pos rfl, toOption_stopRepeated]
        rfl
      | false =>
        have hx := (hs.isSettled m hm record v hv).settles t ht
        rw [if_neg Bool.false_ne_true, if_neg Bool.false_ne_true, readColon_append ha,
          Except.ok_bind, hs.ignoresBlanks m hm record b _ hb, Except.toOption_bind, hx]
        cases value? (m.read record) v with
        | none => rfl
        | some record' => exact ih record'

theorem Tail.toOption_readByName (hs : shape.IsSteady) (h : Tail ts t)
    (hp : List.Forall₂ Pair ms ts) (hv : ∀ m ∈ ms, IsValue m.2) {n : Nat} (hn : ts.length ≤ n)
    (record : σ) (rest : List Char) :
    (shape.readByName (n + 1) false record (t ++ '\x7d' :: rest)).toOption =
      ((ms.mapM decode?).bind (shape.fill record)).map (·, rest) := by
  induction h generalizing ms n record with
  | nil hb =>
    cases hp
    exact toOption_readByName_end n (nextKey_end hb rest)
  | @cons m ts a b t ha hb ht ih =>
    obtain ⟨n, rfl⟩ := Nat.exists_eq_add_of_le' (Nat.le_trans (Nat.le_add_left 1 ts.length) hn)
    cases hp with
    | cons hm hms =>
      cases hm with
      | mk hk ha' hb' =>
        refine toOption_readByName_cons hs ?_ hk ha' hb' (hv _ List.mem_cons_self)
          (ht.delimited_closing .object rest) fun record => ?_
        · simp only [List.append_assoc, List.cons_append]
          exact nextKey_next ha hb _
        · exact ih hms (fun m hm => hv m (List.mem_cons_of_mem _ hm)) (Nat.le_of_succ_le_succ hn)
            record

theorem Items.toOption_readByName (hs : shape.IsSteady) (h : Items ts s)
    (hp : List.Forall₂ Pair ms ts) (hv : ∀ m ∈ ms, IsValue m.2) {n : Nat} (hn : ts.length ≤ n)
    (record : σ) (rest : List Char) :
    (shape.readByName (n + 1) true record (s ++ '\x7d' :: rest)).toOption =
      ((ms.mapM decode?).bind (shape.fill record)).map (·, rest) := by
  cases h with
  | nil hb =>
    cases hp
    exact toOption_readByName_end n (nextKey_end hb rest)
  | @cons m ts b t hb ht =>
    obtain ⟨n, rfl⟩ := Nat.exists_eq_add_of_le' (Nat.le_trans (Nat.le_add_left 1 ts.length) hn)
    cases hp with
    | cons hm hms =>
      cases hm with
      | mk hk ha' hb' =>
        refine toOption_readByName_cons hs ?_ hk ha' hb' (hv _ List.mem_cons_self)
          (ht.delimited_closing .object rest) fun record => ?_
        · simp only [List.append_assoc, List.cons_append]
          exact nextKey_first hb _
        · exact ht.toOption_readByName hs hms (fun m hm => hv m (List.mem_cons_of_mem _ hm))
            (Nat.le_of_succ_le_succ hn) record rest

theorem toOption_readEnd {c : Char} {r : List Char} (h : skipSpace s = c :: r) (hc : c ≠ ']') :
    (Shape.readEnd s).toOption = none := by
  rw [Shape.readEnd, h]
  dsimp only
  rw [if_neg hc]
  split
  · split
    · split <;> rfl
    · rfl
  · rfl

theorem readEnd_end (hb : IsBlank b) (rest : List Char) :
    Shape.readEnd (b ++ ']' :: rest) = .ok rest := by
  rw [Shape.readEnd, skipSpace_append hb, skipSpace_cons rfl]
  rfl

section InOrder

variable {members : List (Member σ)} {m : Member σ} {k : Nat}

theorem toOption_readInOrder_end (hn : nextElement (k == 0) s = .ok (.closed rest)) :
    (shape.readInOrder (m :: members) k record s).toOption = none := by
  rw [Shape.readInOrder, hn]
  rfl

theorem toOption_readInOrder_cons (hn : nextElement (k == 0) s = .ok (.element (v ++ t)))
    (hs : IsSettled (m.read record) v) (ht : Delimited t)
    (ih : ∀ record, (shape.readInOrder members (k + 1) record t).toOption =
      (Shape.fillInOrder members record vs).map (·, rest)) :
    (shape.readInOrder (m :: members) k record s).toOption =
      (Shape.fillInOrder (m :: members) record (v :: vs)).map (·, rest) := by
  have hx := hs.settles t ht
  rw [Shape.readInOrder, hn, Except.ok_bind]
  dsimp only
  rw [Except.toOption_bind, hx, Shape.fillInOrder]
  cases value? (m.read record) v with
  | none => rfl
  | some record' => exact ih record'

theorem Tail.toOption_readInOrder (h : Tail vs t) (hv : ∀ v ∈ vs, IsValue v)
    (hs : ∀ m ∈ members, ∀ record v, IsValue v → IsSettled (m.read record) v) (k : Nat)
    (record : σ) (rest : List Char) :
    (shape.readInOrder members (k + 1) record (t ++ ']' :: rest)).toOption =
      (Shape.fillInOrder members record vs).map (·, rest) := by
  induction h generalizing members k record with
  | nil hb =>
    cases members with
    | nil =>
      rw [Shape.readInOrder, readEnd_end hb]
      rfl
    | cons m members => exact toOption_readInOrder_end (nextElement_end hb rest)
  | @cons v vs a b t ha hb ht ih =>
    cases members with
    | nil =>
      have hsk : skipSpace (a ++ ',' :: (b ++ (v ++ t)) ++ ']' :: rest) =
          ',' :: (b ++ (v ++ t) ++ ']' :: rest) := by
        rw [List.append_assoc, skipSpace_append ha, List.cons_append, skipSpace_cons rfl]
      rw [Shape.readInOrder, Except.toOption_bind, toOption_readEnd hsk (by decide)]
      rfl
    | cons m members =>
      refine toOption_readInOrder_cons ?_ (hs m List.mem_cons_self record v
        (hv v List.mem_cons_self)) (ht.delimited_closing .list rest) fun record => ?_
      · simp only [List.append_assoc, List.cons_append]
        exact nextElement_next ha hb (hv v List.mem_cons_self).opens _
      · exact ih (fun w hw => hv w (List.mem_cons_of_mem v hw))
          (fun m' hm => hs m' (List.mem_cons_of_mem m hm)) (k + 1) record

theorem Items.toOption_readInOrder (h : Items vs s) (hv : ∀ v ∈ vs, IsValue v)
    (hs : ∀ m ∈ members, ∀ record v, IsValue v → IsSettled (m.read record) v)
    (record : σ) (rest : List Char) :
    (shape.readInOrder members 0 record (s ++ ']' :: rest)).toOption =
      (Shape.fillInOrder members record vs).map (·, rest) := by
  cases h with
  | nil hb =>
    cases members with
    | nil =>
      rw [Shape.readInOrder, readEnd_end hb]
      rfl
    | cons m members => exact toOption_readInOrder_end (nextElement_end hb rest)
  | @cons v vs b t hb ht =>
    cases members with
    | nil =>
      obtain ⟨c, r, hvc, hc⟩ := (hv v List.mem_cons_self).exists_cons
      have hce : c ≠ ']' := fun h => hc.not_end (by rw [h]; decide)
      have hsk : skipSpace (b ++ (v ++ t) ++ ']' :: rest) = c :: (r ++ t ++ ']' :: rest) := by
        rw [hvc, List.append_assoc, skipSpace_append hb, List.cons_append, List.cons_append,
          skipSpace_cons hc.not_space]
      rw [Shape.readInOrder, Except.toOption_bind, toOption_readEnd hsk hce]
      rfl
    | cons m members =>
      refine toOption_readInOrder_cons ?_ (hs m List.mem_cons_self record v
        (hv v List.mem_cons_self)) (ht.delimited_closing .list rest) fun record => ?_
      · rw [List.append_assoc, List.append_assoc]
        exact nextElement_first hb (hv v List.mem_cons_self).opens _
      · exact ht.toOption_readInOrder (fun w hw => hv w (List.mem_cons_of_mem v hw))
          (fun m' hm => hs m' (List.mem_cons_of_mem m hm)) 0 record rest

end InOrder

namespace Shape

theorem toOption_finish (shape : Shape σ α) (x : Except Stop (σ × List Char)) (x? : Option σ)
    (rest : List Char) (h : x.toOption = x?.map (·, rest)) :
    (x >>= fun y => match shape.finished? y.1 with
      | some z => Except.ok (z, y.2)
      | none => stopAt .endInObject y.2).toOption = (x?.bind shape.finished?).map (·, rest) := by
  rw [Except.toOption_bind, h]
  cases x? with
  | none => rfl
  | some record =>
    dsimp only [Option.map_some, Option.bind_some]
    cases shape.finished? record <;> rfl

theorem toOption_read_object (hs : shape.IsSteady) (hi : Items ts s)
    (hp : List.Forall₂ Pair ms ts) (hv : ∀ m ∈ ms, IsValue m.2) (rest : List Char) :
    (shape.read ('\x7b' :: (s ++ ['\x7d']) ++ rest)).toOption =
      (((ms.mapM decode?).bind (shape.fill shape.empty)).bind shape.finished?).map (·, rest) := by
  have hl := hi.length_le
  have hr := hi.toOption_readByName hs hp hv (n := (s ++ '\x7d' :: rest).length)
    (by simp only [List.length_append, List.length_cons]; omega) shape.empty rest
  have ht : '\x7b' :: (s ++ ['\x7d']) ++ rest = '\x7b' :: (s ++ '\x7d' :: rest) := by simp
  rw [ht]
  exact toOption_finish shape _ _ rest hr

theorem toOption_read_list (hs : shape.IsSteady) (h : ListOf vs v) (rest : List Char) :
    (shape.read (v ++ rest)).toOption =
      ((fillInOrder shape.members shape.empty vs).bind shape.finished?).map (·, rest) := by
  obtain ⟨hv, s, hi, rfl⟩ := h
  have hr : (shape.readInOrder shape.members 0 shape.empty (s ++ ']' :: rest)).toOption = _ :=
    hi.toOption_readInOrder hv hs.isSettled shape.empty rest
  have ht : '[' :: (s ++ [']']) ++ rest = '[' :: (s ++ ']' :: rest) := by simp
  rw [ht]
  exact toOption_finish shape _ _ rest hr

theorem ignoresBlanks_read : IgnoresBlanks shape.read := by
  intro b s hb
  rw [read, read, skipSpace_append hb]

theorem read_other {c : Char} (hc : isSpace c = false) (hl : c ≠ '[') (ho : c ≠ '\x7b')
    (r : List Char) : (shape.read (c :: r)).toOption = none := by
  have hu : ∀ s, ((stopUnexpected shape.expected s : Except Stop (σ × List Char)) >>= fun y =>
      match shape.finished? y.1 with
      | some z => Except.ok (z, y.2)
      | none => stopAt .endInObject y.2).toOption = none := fun s =>
    toOption_finish shape _ none [] (toOption_stopUnexpected _ _)
  rw [read, skipSpace_cons hc]
  split
  · rename_i h
    cases h
  · rename_i h
    exact absurd (List.cons.inj h).1 hl
  · rename_i h
    exact absurd (List.cons.inj h).1 ho
  · exact hu _

/-- A value is read as a record in one way, whatever stands behind it. -/
theorem exists_toOption_read (hs : shape.IsSteady) (h : IsValue v) :
    ∃ x? : Option α, ∀ rest, (shape.read (v ++ rest)).toOption = x?.map (·, rest) := by
  have hb (h : v ∈ literals ∨ IsNumber v) : ∀ rest, (shape.read (v ++ rest)).toOption = none := by
    obtain ⟨c, r, rfl, hc⟩ := exists_cons_of_bare h
    exact fun rest => read_other hc.not_space hc.not_list hc.not_object (r ++ rest)
  cases h with
  | literal h => exact ⟨none, hb (.inl h)⟩
  | number h => exact ⟨none, hb (.inr h)⟩
  | text _ => exact ⟨none, fun rest => read_other rfl (by decide) (by decide) _⟩
  | list hi hv => exact ⟨_, toOption_read_list hs ⟨hv, _, hi, rfl⟩⟩
  | object hp hi hv => exact ⟨_, toOption_read_object hs hi hp hv⟩

theorem isSettled_read (hs : shape.IsSteady) (h : IsValue v) : IsSettled shape.read v := by
  obtain ⟨x?, hx⟩ := exists_toOption_read hs h
  exact ⟨x?, fun rest _ => hx rest⟩

end Shape

end SimilarityClient.Json
