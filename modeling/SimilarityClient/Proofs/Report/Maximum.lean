import Mathlib.Order.Bounds.Defs
import SimilarityClient.Proofs.Report.Highest
import SimilarityClient.Proofs.Report.Order

/-! # The highest similarity as a maximum

The highest similarity of a report has the greatest value of all its entries that
are numbers. How the entries are ordered, or divided between two reports, shows in
the sign of a zero only.
-/

namespace SimilarityClient

open Magnitude

namespace Binary64

variable {x y z : Binary64} {xs ys : List Binary64} {s t : Bool} {m k : Magnitude}

def valueOf : Bool → Magnitude → Level
  | false, m => if m.isInfinite then ⊤ else .finite (m.units / unitsPerOne)
  | true, m => if m.isInfinite then ⊥ else .finite (-(m.units / unitsPerOne))

def value? : Binary64 → Option Level
  | nan => none
  | number negative m => some (valueOf negative m)

/-- The same, or two zeros of whatever signs. -/
def Agree (x y : Binary64) : Prop := x = y ∨ x.isZero = true ∧ y.isZero = true

theorem value?_eq_none_iff : x.value? = none ↔ x = nan := by
  cases x <;> simp [value?]

theorem not_isInfinite_of_lt (h : m < k) : m.isInfinite = false := by
  rw [Bool.eq_false_iff, ne_eq, isInfinite_iff]
  rintro rfl
  exact absurd (le_infinity k) h.not_ge

theorem div_units_lt (h : m < k) : (m.units / unitsPerOne : ℚ) < k.units / unitsPerOne := by
  have hu : (0 : ℚ) < unitsPerOne := Nat.cast_pos.2 unitsPerOne_pos
  have hm : m.units < k.units := unitsOf_strictMono h
  exact div_lt_div_of_pos_right (Nat.cast_lt.2 hm) hu

theorem valueOf_false_strictMono : StrictMono (valueOf false) := by
  intro m k h
  simp only [valueOf, not_isInfinite_of_lt h, Bool.false_eq_true, if_false]
  split
  · exact WithBot.coe_lt_coe.2 (WithTop.coe_lt_top _)
  · exact WithBot.coe_lt_coe.2 (WithTop.coe_lt_coe.2 (div_units_lt h))

theorem valueOf_true_strictAnti : StrictAnti (valueOf true) := by
  intro m k h
  simp only [valueOf, not_isInfinite_of_lt h, Bool.false_eq_true, if_false]
  split
  · exact WithBot.bot_lt_coe _
  · exact WithBot.coe_lt_coe.2 (WithTop.coe_lt_coe.2 (neg_lt_neg (div_units_lt h)))

theorem valueOf_zero (s : Bool) : valueOf s 0 = .finite 0 := by
  have hu : Magnitude.units 0 = 0 := unitsOf_zero
  have hi : Magnitude.isInfinite 0 = false := by decide +kernel
  cases s <;> simp only [valueOf, hu, hi, Bool.false_eq_true, if_false, Nat.cast_zero, zero_div,
    neg_zero]

/-- Values follow places, since both zeros have one value. -/
theorem valueOf_lt (h : place s m < place t k) : valueOf s m < valueOf t k := by
  cases s with
  | false =>
    cases t with
    | false => exact valueOf_false_strictMono (Int.ofNat_lt.1 h)
    | true =>
      have hp : (m.val : Int) < -(k.val : Int) := h
      omega
  | true =>
    cases t with
    | true => exact valueOf_true_strictAnti (Int.ofNat_lt.1 (neg_lt_neg_iff.1 h))
    | false =>
      have hp : -(m.val : Int) < (k.val : Int) := h
      by_cases hm : m = 0
      · have hk : 0 < k := by
          subst hm
          exact Int.ofNat_lt.1 (by simpa using hp)
        calc valueOf true m
          _ = valueOf false 0 := by rw [hm, valueOf_zero, valueOf_zero]
          _ < valueOf false k := valueOf_false_strictMono hk
      · calc valueOf true m
          _ < valueOf true 0 := valueOf_true_strictAnti (Fin.pos_iff_ne_zero.2 hm)
          _ = valueOf false 0 := by rw [valueOf_zero, valueOf_zero]
          _ ≤ valueOf false k := valueOf_false_strictMono.monotone (Fin.zero_le k)

theorem place_eq_iff : place s m = place t k ↔ s = t ∧ m = k ∨ m = 0 ∧ k = 0 := by
  rw [Fin.ext_iff, Fin.ext_iff, Fin.ext_iff, Fin.val_zero]
  unfold place
  cases s <;> cases t <;> simp <;> omega

theorem isZero_iff : (number s m).isZero = true ↔ m = 0 := by
  rw [isZero, Magnitude.isZero, beq_iff_eq, Fin.ext_iff, Fin.val_zero]

theorem agree_iff_place : (number s m).Agree (number t k) ↔ place s m = place t k := by
  rw [Agree, place_eq_iff, isZero_iff, isZero_iff, number.injEq]

theorem Agree.value?_eq (h : x.Agree y) : x.value? = y.value? := by
  rcases h with rfl | ⟨hx, hy⟩
  · rfl
  · cases x with
    | nan => cases hx
    | number s m =>
      cases y with
      | nan => cases hy
      | number t k =>
        rw [isZero_iff.1 hx, isZero_iff.1 hy, value?, value?, valueOf_zero, valueOf_zero]

theorem place_le (h : (number s m).lt (number t k) = false) : place t k ≤ place s m :=
  Int.not_lt.1 (of_decide_eq_false h)

theorem value_le (h : x.lt y = false) {v w : Level} (hv : x.value? = some v)
    (hw : y.value? = some w) : w ≤ v := by
  cases x with
  | nan => cases hv
  | number s m =>
    cases y with
    | nan => cases hw
    | number t k =>
      rcases Int.lt_or_eq_of_le (place_le h) with hlt | heq
      · rw [value?, Option.some.injEq] at hv hw
        exact hv ▸ hw ▸ (valueOf_lt hlt).le
      · rw [(agree_iff_place.2 heq).value?_eq, hv, Option.some.injEq] at hw
        exact hw.ge

theorem IsHighest.agree (hx : IsHighest x xs) (hy : IsHighest y ys) (hm : ∀ z, z ∈ xs ↔ z ∈ ys) :
    x.Agree y := by
  have hyx := hx.not_below y ((hm y).2 hy.mem)
  have hxy := hy.not_below x ((hm x).1 hx.mem)
  cases x with
  | nan => exact .inl (hx.number rfl y ((hm y).2 hy.mem)).symm
  | number s m =>
    cases y with
    | nan => exact .inl (hy.number rfl _ ((hm _).1 hx.mem))
    | number t k => exact agree_iff_place.2 (Int.le_antisymm (place_le hxy) (place_le hyx))

theorem IsHighest.not_lt_of (hx : IsHighest x xs) (hz : z.lt x = false) :
    ∀ y ∈ xs, z.lt y = false := by
  intro y hy
  by_cases hn : x = nan
  · rw [hx.number hn y hy, lt_nan]
  · exact lt_of_not_lt hz hn (hx.not_below y hy)

theorem IsHighest.append (hx : IsHighest x xs) (hy : IsHighest y ys) :
    IsHighest (x.max y) (xs ++ ys) := by
  have hp : IsHighest (x.max y) [x, y] := by
    apply IsHighest.of_max
    exact ⟨List.mem_singleton_self _, List.forall_mem_singleton.2 (lt_self _),
      fun hn => List.forall_mem_singleton.2 hn⟩
  refine ⟨?_, ?_, ?_⟩
  · rcases max_cases x y with h | h
    · exact List.mem_append_left _ (h.symm ▸ hx.mem)
    · exact List.mem_append_right _ (h.symm ▸ hy.mem)
  · intro z hz
    rcases List.mem_append.1 hz with hz | hz
    · exact hx.not_lt_of (hp.not_below x (by simp)) z hz
    · exact hy.not_lt_of (hp.not_below y (by simp)) z hz
  · intro hn z hz
    rcases List.mem_append.1 hz with hz | hz
    · exact hx.number (hp.number hn x (by simp)) z hz
    · exact hy.number (hp.number hn y (by simp)) z hz

/-- The highest of a list that may be empty. -/
def IsHighest? : Option Binary64 → List Binary64 → Prop
  | none, xs => xs = []
  | some x, xs => IsHighest x xs

theorem IsHighest?.agree {a b : Option Binary64} (ha : IsHighest? a xs) (hb : IsHighest? b ys)
    (hm : ∀ z, z ∈ xs ↔ z ∈ ys) : Option.Rel Agree a b := by
  cases a with
  | none =>
    cases b with
    | none => exact .none
    | some y =>
      have hy := (hm y).2 hb.mem
      rw [ha] at hy
      cases hy
  | some x =>
    cases b with
    | none =>
      have hx := (hm x).1 ha.mem
      rw [hb] at hx
      cases hx
    | some y => exact .some (IsHighest.agree ha hb hm)

theorem IsHighest?.append {a b : Option Binary64} (ha : IsHighest? a xs) (hb : IsHighest? b ys) :
    IsHighest? (a.merge Binary64.max b) (xs ++ ys) := by
  cases a with
  | none =>
    obtain rfl : xs = [] := ha
    rwa [Option.merge_none_left, List.nil_append]
  | some x =>
    cases b with
    | none =>
      obtain rfl : ys = [] := hb
      rwa [Option.merge_none_right, List.append_nil]
    | some y => exact IsHighest.append ha hb

end Binary64

open Binary64

namespace Report

variable {r : Report}

def similarities (r : Report) : List Binary64 := r.entries.map (·.similarity)

/-- The values of the entries whose similarities are numbers. -/
def values (r : Report) : Set Level := {v | ∃ e ∈ r.entries, e.similarity.value? = some v}

def append (r r' : Report) : Report := ⟨r.entries ++ r'.entries⟩

theorem isHighest?_highest? (r : Report) : IsHighest? r.highest? r.similarities := by
  by_cases hn : r.entries = []
  · rw [highest?, similarities, hn]
    rfl
  · obtain ⟨e, -, he, hx⟩ := exists_highest hn
    rw [he]
    exact hx

theorem highest?_eq_none_iff : r.highest? = none ↔ r.entries = [] := by
  constructor
  · intro h
    have hr := isHighest?_highest? r
    rw [h] at hr
    exact List.map_eq_nil_iff.1 hr
  · intro h
    rw [highest?, h]

theorem highest?_eq_nan_iff :
    r.highest? = some nan ↔ r.entries ≠ [] ∧ ∀ e ∈ r.entries, e.similarity = nan := by
  constructor
  · intro h
    refine ⟨fun hn => ?_, fun e he => ?_⟩
    · rw [highest?_eq_none_iff.2 hn] at h
      cases h
    · have hr := isHighest?_highest? r
      rw [h] at hr
      exact IsHighest.number hr rfl _ (List.mem_map_of_mem he)
  · rintro ⟨hn, ha⟩
    obtain ⟨e, he, hh, -⟩ := exists_highest hn
    rw [hh, ha e he]

/-- Where there is a number at all, the highest has the greatest value. -/
theorem exists_greatest (h : ∃ e ∈ r.entries, e.similarity ≠ nan) :
    ∃ x v, r.highest? = some x ∧ x.value? = some v ∧ IsGreatest r.values v := by
  obtain ⟨d, hd, hne⟩ := h
  obtain ⟨e, he, hh, hx⟩ := exists_highest (List.ne_nil_of_mem hd)
  have hnum : e.similarity ≠ nan := fun hn => hne (hx.number hn _ (List.mem_map_of_mem hd))
  obtain ⟨v, hv⟩ := Option.ne_none_iff_exists'.1 (mt value?_eq_none_iff.1 hnum)
  refine ⟨_, v, hh, hv, ⟨e, he, hv⟩, ?_⟩
  rintro w ⟨d', hd', hw⟩
  exact value_le (hx.not_below _ (List.mem_map_of_mem hd')) hv hw

/-- There is no highest similarity without entries, and it is no number if no entry has one;
otherwise it has the greatest value. Up to the sign of a zero it does not depend on the order of
the entries, and of two reports together it is the larger of theirs. -/
theorem highest_is_greatest (r : Report) :
    (r.highest? = none ↔ r.entries = []) ∧
    (r.highest? = some nan ↔ r.entries ≠ [] ∧ ∀ e ∈ r.entries, e.similarity = nan) ∧
    ((∃ e ∈ r.entries, e.similarity ≠ nan) →
      ∃ x v, r.highest? = some x ∧ x.value? = some v ∧ IsGreatest r.values v) ∧
    (∀ r' : Report, r'.entries.Perm r.entries → Option.Rel Agree r'.highest? r.highest?) ∧
    ∀ r' : Report, Option.Rel Agree (r.append r').highest?
      (r.highest?.merge Binary64.max r'.highest?) := by
  refine ⟨highest?_eq_none_iff, highest?_eq_nan_iff, exists_greatest, ?_, ?_⟩
  · intro r' hp
    apply (isHighest?_highest? r').agree (isHighest?_highest? r)
    exact fun z => (hp.map _).mem_iff
  · intro r'
    apply (isHighest?_highest? (r.append r')).agree
      ((isHighest?_highest? r).append (isHighest?_highest? r'))
    simp [similarities, append]

/-- Zeros of both signs, of which the first is told, beside one that is no number. -/
theorem highest_is_greatest_zeros :
    let r : Report := ⟨[0x7FF8000000000000, 0xBFF0000000000000, 0x8000000000000000, 0].map
      fun bits => ⟨"a.py", "b.py", ofBits bits⟩⟩
    let r' : Report := ⟨r.entries.reverse⟩
    r.highest? = some zero.neg ∧ r'.highest? = some zero ∧
      Option.Rel Agree r'.highest? r.highest? ∧ IsGreatest r.values (.finite 0) := by
  intro r r'
  have hr : r.highest? = some zero.neg := by decide +kernel
  obtain ⟨-, -, hg, hp, -⟩ := highest_is_greatest r
  obtain ⟨x, v, hx, hv, hgv⟩ := hg (by decide +kernel)
  refine ⟨hr, by decide +kernel, hp r' (List.reverse_perm _), ?_⟩
  obtain rfl : x = zero.neg := Option.some.inj (hx.symm.trans hr)
  change some (valueOf true 0) = some v at hv
  rw [valueOf_zero, Option.some.injEq] at hv
  exact hv ▸ hgv

end Report

end SimilarityClient
