import Mathlib.Data.List.Nodup
import SimilarityClient.Proofs.Json.Filling

/-! # Layouts of a record

The same record has many texts: its pairs in any order, others among them, or
the list of its values. Which of them is taken makes no difference to the
filling. A record with a member left out or given twice is never filled.
-/

namespace SimilarityClient.Json

variable {α σ : Type} {shape : Shape σ α} {record record' : σ}
  {ms ms' : List (List Char × List Char)} {vs : List (List Char)} {v : List Char}

namespace Shape

/-- Each member has a name of its own and a place of its own in the record. -/
structure IsRecord (shape : Shape σ α) : Prop where
  nodup : shape.names.Nodup
  empty : ∀ m ∈ shape.members, m.given shape.empty = false
  gives : ∀ m ∈ shape.members, ∀ {record v record'}, value? (m.read record) v = some record' →
    ∀ m' ∈ shape.members, m'.given record' = (m'.name == m.name || m'.given record)
  commutes : ∀ m ∈ shape.members, ∀ m' ∈ shape.members, m.name ≠ m'.name → ∀ record v v',
    (value? (m.read record) v).bind (fun r => value? (m'.read r) v') =
      (value? (m'.read record) v').bind fun r => value? (m.read r) v

theorem find?_of_not_mem {key : List Char} (h : key ∉ shape.names) :
    shape.members.find? (·.name.toList == key) = none := by
  refine List.find?_eq_none.2 fun m hm he => h ?_
  exact List.mem_map.2 ⟨m, hm, eq_of_beq he⟩

theorem mem_of_find? {key : List Char} {m : Member σ}
    (h : shape.members.find? (·.name.toList == key) = some m) :
    m ∈ shape.members ∧ m.name.toList = key :=
  ⟨List.mem_of_find?_eq_some h, eq_of_beq (List.find?_some h :)⟩

theorem IsRecord.eq_of_name (hr : shape.IsRecord) {m m' : Member σ} (hm : m ∈ shape.members)
    (hm' : m' ∈ shape.members) (h : m.name = m'.name) : m = m' :=
  List.inj_on_of_nodup_map hr.nodup hm hm' (congrArg String.toList h)

theorem IsRecord.find?_name (hr : shape.IsRecord) {m : Member σ} (hm : m ∈ shape.members) :
    shape.members.find? (·.name.toList == m.name.toList) = some m := by
  cases hf : shape.members.find? (·.name.toList == m.name.toList) with
  | none => exact absurd (beq_self_eq_true _) (List.find?_eq_none.1 hf m hm)
  | some m' =>
    obtain ⟨hm', hn⟩ := mem_of_find? hf
    rw [hr.eq_of_name hm' hm (String.toList_inj.1 hn)]

theorem take?_of_unknown {m : List Char × List Char} (h : m.1 ∉ shape.names) (record : σ) :
    shape.take? record m = some record := by
  rw [take?, find?_of_not_mem h]

theorem take?_of_known {key : List Char} {m : Member σ}
    (h : shape.members.find? (·.name.toList == key) = some m) (record : σ) (v : List Char) :
    shape.take? record (key, v) =
      if m.given record then none else value? (m.read record) v := by
  rw [take?, h]

theorem given_of_take? (hr : shape.IsRecord) {m m' : Member σ} (hm : m ∈ shape.members)
    (hm' : m' ∈ shape.members) (h : shape.take? record (m.name.toList, v) = some record') :
    m.given record = false ∧ m'.given record' = (m'.name == m.name || m'.given record) := by
  rw [take?_of_known (hr.find?_name hm)] at h
  cases hg : m.given record with
  | true =>
    rw [hg, if_pos rfl] at h
    cases h
  | false =>
    rw [hg, if_neg Bool.false_ne_true] at h
    exact ⟨rfl, hr.gives m hm h m' hm'⟩

theorem take?_twice (hr : shape.IsRecord) {m : Member σ} (hm : m ∈ shape.members) (record : σ)
    (v v' : List Char) : (shape.take? record (m.name.toList, v)).bind
      (shape.take? · (m.name.toList, v')) = none := by
  cases hx : shape.take? record (m.name.toList, v) with
  | none => rfl
  | some record' =>
    have hg := (given_of_take? hr hm hm hx).2
    rw [beq_self_eq_true, Bool.true_or] at hg
    rw [Option.bind_some, take?_of_known (hr.find?_name hm), hg, if_pos rfl]

theorem take?_both (hr : shape.IsRecord) {m m' : Member σ} (hm : m ∈ shape.members)
    (hm' : m' ∈ shape.members) (hn : m'.name ≠ m.name) (record : σ) (v v' : List Char) :
    (shape.take? record (m.name.toList, v)).bind (shape.take? · (m'.name.toList, v')) =
      if m.given record || m'.given record then none
      else (value? (m.read record) v).bind fun r => value? (m'.read r) v' := by
  rw [take?_of_known (hr.find?_name hm)]
  cases hg : m.given record with
  | true => rfl
  | false =>
    rw [Bool.false_or, if_neg Bool.false_ne_true]
    cases hx : value? (m.read record) v with
    | none => exact (ite_self none).symm
    | some r =>
      have hg' := hr.gives m hm hx m' hm'
      rw [beq_eq_false_iff_ne.2 hn, Bool.false_or] at hg'
      rw [Option.bind_some, Option.bind_some, take?_of_known (hr.find?_name hm'), hg']

theorem take?_comm (hr : shape.IsRecord) (a b : List Char × List Char) (record : σ) :
    (shape.take? record a).bind (shape.take? · b) =
      (shape.take? record b).bind (shape.take? · a) := by
  by_cases ha : a.1 ∈ shape.names
  swap
  · simp [take?_of_unknown ha]
  by_cases hb : b.1 ∈ shape.names
  swap
  · simp [take?_of_unknown hb]
  obtain ⟨ka, va⟩ := a
  obtain ⟨kb, vb⟩ := b
  obtain ⟨m, hm, rfl⟩ := List.mem_map.1 ha
  obtain ⟨m', hm', rfl⟩ := List.mem_map.1 hb
  by_cases hn : m.name = m'.name
  · rw [← hn, take?_twice hr hm, take?_twice hr hm]
  · rw [take?_both hr hm hm' (Ne.symm hn), take?_both hr hm' hm hn, Bool.or_comm,
      hr.commutes m hm m' hm' hn]

theorem fill_perm (hr : shape.IsRecord) (h : ms.Perm ms') (record : σ) :
    shape.fill record ms = shape.fill record ms' := by
  induction h generalizing record with
  | nil => rfl
  | cons m _ ih => simp only [fill, ih]
  | swap a b ms =>
    simp only [fill]
    rw [← Option.bind_assoc, take?_comm hr, Option.bind_assoc]
  | trans _ _ ih ih' => exact (ih record).trans (ih' record)

theorem fill_filter (ms : List (List Char × List Char)) (record : σ) :
    shape.fill record ms = shape.fill record (ms.filter (·.1 ∈ shape.names)) := by
  induction ms generalizing record with
  | nil => rfl
  | cons m ms ih =>
    by_cases hm : m.1 ∈ shape.names
    · rw [List.filter_cons_of_pos (by simpa using hm), fill, fill]
      simp only [ih]
    · rw [List.filter_cons_of_neg (by simpa using hm), fill, take?_of_unknown hm]
      exact ih record

/-- A record is filled only if each member that it lacks is given once, and no other one. -/
theorem count_of_fill (hr : shape.IsRecord) (h : shape.fill record ms = some record') :
    ∀ m ∈ shape.members,
      (ms.map Prod.fst).count m.name.toList = if m.given record then 0 else 1 := by
  induction ms generalizing record with
  | nil =>
    intro m hm
    rw [fill] at h
    split at h
    · rename_i hf
      have hg := List.find?_eq_none.1 (Option.isNone_iff_eq_none.1 hf) m hm
      rw [Bool.not_eq_true, Bool.not_eq_false'] at hg
      rw [hg]
      rfl
    · cases h
  | cons p ms ih =>
    intro m hm
    obtain ⟨key, v⟩ := p
    obtain ⟨r, hr', h⟩ := Option.bind_eq_some_iff.1 h
    have hc := ih h m hm
    rw [List.map_cons, List.count_cons, hc]
    by_cases hk : key ∈ shape.names
    · obtain ⟨m', hm', rfl⟩ := List.mem_map.1 hk
      obtain ⟨hg, hg'⟩ := given_of_take? hr hm' hm hr'
      rw [hg']
      by_cases hn : m.name = m'.name
      · obtain rfl := hr.eq_of_name hm hm' hn
        simp [hg]
      · have hn' : m'.name.toList ≠ m.name.toList := fun h => hn (String.toList_inj.1 h).symm
        rw [beq_eq_false_iff_ne.2 hn, Bool.false_or, beq_eq_false_iff_ne.2 hn']
        rfl
    · rw [take?_of_unknown hk] at hr'
      cases hr'
      have hn : key ≠ m.name.toList := fun h => hk (List.mem_map.2 ⟨m, hm, h.symm⟩)
      rw [beq_eq_false_iff_ne.2 hn]
      rfl

theorem fill_eq_none (hr : shape.IsRecord) {name : List Char} (hn : name ∈ shape.names)
    (hc : (ms.map Prod.fst).count name ≠ 1) : shape.fill shape.empty ms = none := by
  cases hf : shape.fill shape.empty ms with
  | none => rfl
  | some record =>
    obtain ⟨m, hm, rfl⟩ := List.mem_map.1 hn
    have := count_of_fill hr hf m hm
    rw [hr.empty m hm, if_neg Bool.false_ne_true] at this
    exact absurd this hc

theorem length_of_fillInOrder {members : List (Member σ)}
    (h : fillInOrder members record vs = some record') : vs.length = members.length := by
  induction members generalizing record vs with
  | nil =>
    cases vs with
    | nil => rfl
    | cons v vs => cases h
  | cons m members ih =>
    cases vs with
    | nil => cases h
    | cons v vs =>
      obtain ⟨r, -, h⟩ := Option.bind_eq_some_iff.1 h
      rw [List.length_cons, List.length_cons, ih h]

/-- The values in order fill a record as the pairs of them with their names do. -/
theorem fillInOrder_eq (hr : shape.IsRecord) {members : List (Member σ)}
    (given : List (Member σ)) (hm : given ++ members = shape.members)
    (hg : ∀ m ∈ shape.members, m.given record ↔ m ∈ given) (hl : vs.length = members.length) :
    fillInOrder members record vs =
      shape.fill record ((members.map (·.name.toList)).zip vs) := by
  induction members generalizing given record vs with
  | nil =>
    obtain rfl := List.eq_nil_of_length_eq_zero hl
    rw [List.append_nil] at hm
    have hf : shape.members.find? (!·.given record) = none := by
      refine List.find?_eq_none.2 fun m hms => ?_
      rw [(hg m hms).2 (hm ▸ hms)]
      decide
    rw [fillInOrder, List.map_nil, List.zip_nil_left, fill, hf]
    rfl
  | cons m members ih =>
    cases vs with
    | nil => cases hl
    | cons v vs =>
      have hmem : m ∈ shape.members := by
        rw [← hm]
        exact List.mem_append_right _ List.mem_cons_self
      have hng : m.given record = false := by
        have hnd := List.Nodup.of_map _ hr.nodup
        rw [← hm] at hnd
        rw [← Bool.not_eq_true, hg m hmem]
        exact fun h => List.disjoint_of_nodup_append hnd h List.mem_cons_self
      rw [fillInOrder, List.map_cons, List.zip_cons_cons, fill,
        take?_of_known (hr.find?_name hmem), hng, if_neg Bool.false_ne_true]
      cases hx : value? (m.read record) v with
      | none => rfl
      | some record' =>
        refine ih (given ++ [m]) (by rw [← hm, List.append_assoc]; rfl) (fun m' hm' => ?_)
          (Nat.succ.inj hl)
        have hname : m'.name = m.name ↔ m' = m :=
          ⟨hr.eq_of_name hm' hmem, congrArg Member.name⟩
        rw [hr.gives m hmem hx m' hm', List.mem_append, List.mem_singleton, Bool.or_eq_true,
          hg m' hm', beq_iff_eq, hname, or_comm]

end Shape

/-- The text of a pair: its key in some spelling, and its value. -/
inductive MemberOf : List Char × List Char → List Char → Prop
  | mk {key k v a b : List Char} (hk : Spells k key) (ha : IsBlank a) (hb : IsBlank b) :
    MemberOf (key, v) ('"' :: (k ++ '"' :: (a ++ ':' :: (b ++ v))))

/-- The text of an object with pairs of keys and values. -/
def ObjectOf (ms : List (List Char × List Char)) (v : List Char) : Prop :=
  (∀ m ∈ ms, IsValue m.2) ∧
    ∃ ts s, List.Forall₂ MemberOf ms ts ∧ Items ts s ∧ v = '\x7b' :: (s ++ ['\x7d'])

/-- A text of a record: an object that has its fields, in any order and with others among them,
or the list of its values. -/
inductive RecordOf (fields : List (List Char × List Char)) : List Char → Prop
  | object {ms : List (List Char × List Char)} {v : List Char} (hv : ObjectOf ms v)
    (hf : (ms.filter (·.1 ∈ fields.map Prod.fst)).Perm fields) : RecordOf fields v
  | list {v : List Char} (hv : ListOf (fields.map Prod.snd) v) : RecordOf fields v

/-- A text that is no record with such names: one of them is missing or repeated, or the list is
too short or too long. -/
inductive IsFlawed (names : List (List Char)) : List Char → Prop
  | object {ms : List (List Char × List Char)} {v name : List Char} (hv : ObjectOf ms v)
    (hn : name ∈ names) (hc : (ms.map Prod.fst).count name ≠ 1) : IsFlawed names v
  | list {vs : List (List Char)} {v : List Char} (hv : ListOf vs v)
    (hl : vs.length ≠ names.length) : IsFlawed names v

/-- The pairs of an object are those that its spelled keys are read as. -/
theorem exists_pairs {ts : List (List Char)} (h : List.Forall₂ MemberOf ms ts) :
    ∃ raw, List.Forall₂ Pair raw ts ∧ raw.mapM decode? = some ms ∧
      raw.map Prod.snd = ms.map Prod.snd := by
  induction h with
  | nil => exact ⟨[], .nil, rfl, rfl⟩
  | cons hm _ ih =>
    obtain ⟨raw, hp, hd, hv⟩ := ih
    cases hm with
    | @mk key k v a b hk ha hb =>
      refine ⟨(k, v) :: raw, .cons (.mk hk.isText ha hb) hp, ?_, ?_⟩
      · rw [List.mapM_cons, decode?, key?_spells hk, hd]
        rfl
      · rw [List.map_cons, List.map_cons, hv]

theorem ObjectOf.exists_pairs (h : ObjectOf ms v) : ∃ raw ts s, List.Forall₂ Pair raw ts ∧
    Items ts s ∧ (∀ m ∈ raw, IsValue m.2) ∧ raw.mapM decode? = some ms ∧
      v = '\x7b' :: (s ++ ['\x7d']) := by
  obtain ⟨hv, ts, s, hm, hi, rfl⟩ := h
  obtain ⟨raw, hp, hd, hs⟩ := Json.exists_pairs hm
  refine ⟨raw, ts, s, hp, hi, fun m hmem => ?_, hd, rfl⟩
  obtain ⟨m', hm', he⟩ := List.mem_map.1 (hs ▸ List.mem_map_of_mem (f := Prod.snd) hmem)
  rw [← he]
  exact hv m' hm'

theorem ObjectOf.isValue (h : ObjectOf ms v) : IsValue v := by
  obtain ⟨raw, ts, s, hp, hi, hv, -, rfl⟩ := h.exists_pairs
  exact .object hp hi hv

theorem ObjectOf.toOption_read (hs : shape.IsSteady) (h : ObjectOf ms v) (rest : List Char) :
    (shape.read (v ++ rest)).toOption =
      ((shape.fill shape.empty ms).bind shape.finished?).map (·, rest) := by
  obtain ⟨raw, ts, s, hp, hi, hv, hd, rfl⟩ := h.exists_pairs
  rw [Shape.toOption_read_object hs hi hp hv, hd, Option.bind_some]

/-- All texts of a record are read alike: as its fields fill it. -/
theorem RecordOf.toOption_read (hs : shape.IsSteady) (hr : shape.IsRecord)
    {fields : List (List Char × List Char)} (h : RecordOf fields v)
    (hf : fields.map Prod.fst = shape.names) (rest : List Char) :
    (shape.read (v ++ rest)).toOption =
      ((shape.fill shape.empty fields).bind shape.finished?).map (·, rest) := by
  cases h with
  | object hv hp =>
    rw [hf] at hp
    rw [hv.toOption_read hs, Shape.fill_filter, Shape.fill_perm hr hp]
  | list hv =>
    have hl : (fields.map Prod.snd).length = shape.members.length := by
      rw [List.length_map, ← List.length_map (f := Prod.fst), hf, Shape.names, List.length_map]
    have hz : (shape.members.map (·.name.toList)).zip (fields.map Prod.snd) = fields := by
      rw [← Shape.names, ← hf, List.zip_map']
      exact List.map_id' fields
    rw [Shape.toOption_read_list hs hv, Shape.fillInOrder_eq hr [] rfl ?_ hl, hz]
    intro m hm
    rw [hr.empty m hm]
    simp

/-- No flawed text is read as a record. -/
theorem IsFlawed.toOption_read (hs : shape.IsSteady) (hr : shape.IsRecord)
    (h : IsFlawed shape.names v) (rest : List Char) : (shape.read (v ++ rest)).toOption = none := by
  cases h with
  | object hv hn hc =>
    rw [hv.toOption_read hs, Shape.fill_eq_none hr hn hc]
    rfl
  | list hv hl =>
    rw [Shape.toOption_read_list hs hv]
    cases hf : Shape.fillInOrder shape.members shape.empty _ with
    | none => rfl
    | some record =>
      have := Shape.length_of_fillInOrder hf
      rw [Shape.names, List.length_map] at hl
      exact absurd this hl

end SimilarityClient.Json
