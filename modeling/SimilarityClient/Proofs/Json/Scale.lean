import SimilarityClient.Proofs.Binary64.Drift
import SimilarityClient.Proofs.Binary64.Shortest
import SimilarityClient.Proofs.Json.Number

/-! # Reading numbers back

A decimal is rounded as a significand first and once more as a quotient. Up to
22 places the power of ten is exact. Then a significand of 53 bits is read back
without a loss, and a longer one moves the result by one code at most.
-/

namespace SimilarityClient

namespace Magnitude

variable {num den code n k : Nat}

theorem codeOf_lt_infinityCode (hd : 0 < den) (h : num ≤ unitsOf (infinityCode - 1) * den) :
    codeOf num den < infinityCode := by
  have := codeOf_le hd h
  have : 0 < infinityCode := Nat.mul_pos (by decide) fractionCount_pos
  omega

theorem ofRatio_val_eq (num den : Nat) :
    (ofRatio num den).val = min (codeOf num den) infinityCode := rfl

theorem ofRatio_mono {num' : Nat} (hd : 0 < den) (h : num ≤ num') :
    ofRatio num den ≤ ofRatio num' den :=
  min_le_min_right infinityCode (codeOf_mono hd h)

theorem units_mono {m m' : Magnitude} (h : m ≤ m') : m.units ≤ m'.units :=
  unitsOf_strictMono.monotone h

theorem ofRatio_val (h : codeOf num den < infinityCode) : (ofRatio num den).val = codeOf num den :=
  Nat.min_eq_left h.le

theorem units_ofRatio (h : codeOf num den < infinityCode) :
    (ofRatio num den).units = unitsOf (codeOf num den) := by
  rw [units, ofRatio_val h]

theorem isInfinite_ofRatio (h : codeOf num den < infinityCode) :
    (ofRatio num den).isInfinite = false := by
  rw [isInfinite, ofRatio_val h, beq_eq_false_iff_ne]
  exact h.ne

theorem ten_pow_le (h : k ≤ 308) : 10 ^ k ≤ 10 ^ 308 := pow_le_pow_right₀ (by decide) h

theorem codeOf_whole_lt (h : n ≤ 10 ^ 308) : codeOf (n * unitsPerOne) 1 < infinityCode := by
  refine codeOf_lt_infinityCode Nat.one_pos ?_
  rw [Nat.mul_one]
  exact (Nat.mul_le_mul_right _ h).trans scales.2.2.2.2

def ofWhole (n : Nat) : Magnitude := ofRatio (n * unitsPerOne) 1

theorem ofWhole_val (h : n ≤ 10 ^ 308) : (ofWhole n).val = codeOf (n * unitsPerOne) 1 :=
  ofRatio_val (codeOf_whole_lt h)

theorem isInfinite_ofWhole (h : n ≤ 10 ^ 308) : (ofWhole n).isInfinite = false :=
  isInfinite_ofRatio (codeOf_whole_lt h)

theorem units_ofWhole_le (n : Nat) : (ofWhole n).units ≤ 2 * (n * unitsPerOne) := by
  have h := unitsOf_codeOf_mul_le (n * unitsPerOne) Nat.one_pos
  rw [Nat.mul_one] at h
  exact (unitsOf_strictMono.monotone (Nat.min_le_left _ _)).trans h

theorem isNearest_ofWhole (h : n ≤ 10 ^ 308) : IsNearest (n * unitsPerOne) 1 (ofWhole n).val := by
  rw [ofWhole_val h]
  exact codeOf_isNearest _ Nat.one_pos

theorem fractionCount_lt_ofWhole (hn : 0 < n) (h : n ≤ 10 ^ 308) :
    fractionCount < (ofWhole n).val := by
  have hu := (isNearest_ofWhole h).upper
  by_contra hc
  have h1 : unitsOf (ofWhole n).val ≤ 2 * fractionCount := by
    rw [unitsOf_of_le (Nat.le_of_not_lt hc)]
    omega
  have h2 : unitsOf ((ofWhole n).val + 1) ≤ 2 * fractionCount := by
    have := fractionCount_pos
    rw [unitsOf_succ, gap_of_le (Nat.le_of_not_lt hc), unitsOf_of_le (Nat.le_of_not_lt hc)]
    omega
  have hU : 4 * fractionCount < unitsPerOne := by
    rw [unitsPerOne_eq, fractionCount_eq]
    exact pow_lt_pow_right₀ (by decide : 1 < 2) (by decide : 54 < 1074)
  have := Nat.le_mul_of_pos_left unitsPerOne hn
  omega

theorem units_ofWhole_pos (hn : 0 < n) (h : n ≤ 10 ^ 308) : 0 < (ofWhole n).units :=
  Nat.pos_of_ne_zero fun h0 => by
    have := unitsOf_strictMono (Nat.lt_of_le_of_lt (Nat.zero_le _) (fractionCount_lt_ofWhole hn h))
    rw [units] at h0
    omega

theorem isClose_ofWhole (hn : 0 < n) (h : n ≤ 10 ^ 308) :
    IsClose (n * unitsPerOne) (ofWhole n).units := by
  have := (isNearest_ofWhole h).isClose (fractionCount_lt_ofWhole hn h)
  rwa [Nat.mul_one] at this

theorem units_ofWhole {t : Nat} (hn : n ≤ 2 * fractionCount) (h : n * 2 ^ t ≤ 10 ^ 308) :
    (ofWhole (n * 2 ^ t)).units = n * 2 ^ t * unitsPerOne := by
  obtain ⟨code, hc⟩ := exists_unitsOf_eq hn (t + 1074)
  have hv : n * 2 ^ t * unitsPerOne = unitsOf code * 1 := by
    rw [hc, Nat.pow_add, Nat.mul_one, ← Nat.mul_assoc, unitsPerOne_eq]
  rw [units, ofWhole_val h, hv, codeOf_unitsOf_mul code Nat.one_pos, Nat.mul_one]

theorem units_ofWhole_pow (h : k ≤ 22) : (ofWhole (10 ^ k)).units = 10 ^ k * unitsPerOne := by
  have h5 : 5 ^ k ≤ 2 * fractionCount :=
    (Nat.pow_le_pow_right (by decide) h).trans (by decide)
  have he : 10 ^ k = 5 ^ k * 2 ^ k := Nat.mul_pow 5 2 k
  have hl : 5 ^ k * 2 ^ k ≤ 10 ^ 308 := he ▸ ten_pow_le (h.trans (by decide))
  rw [he, units_ofWhole h5 hl]

theorem isZero_ofWhole (hn : 0 < n) (h : n ≤ 10 ^ 308) : (ofWhole n).isZero = false := by
  rw [isZero, beq_eq_false_iff_ne]
  exact (Nat.lt_of_le_of_lt (Nat.zero_le _) (fractionCount_lt_ofWhole hn h)).ne'

theorem isZero_pow (hk : k ≤ 308) : (ofWhole (10 ^ k)).isZero = false :=
  isZero_ofWhole (Nat.pow_pos (by decide)) (ten_pow_le hk)

theorem isInfinite_pow (hk : k ≤ 308) : (ofWhole (10 ^ k)).isInfinite = false :=
  isInfinite_ofWhole (ten_pow_le hk)

theorem isClose_pow (hk : k ≤ 308) : IsClose (10 ^ k * unitsPerOne) (ofWhole (10 ^ k)).units :=
  isClose_ofWhole (Nat.pow_pos (by decide)) (ten_pow_le hk)

end Magnitude

theorem IsNear.ofRatio {m : Magnitude} {n num den : Nat}
    (h : IsNear n m.val (Magnitude.codeOf num den)) :
    IsNear n m.val (Magnitude.ofRatio num den).val := by
  have hm := Nat.le_of_lt_succ m.isLt
  have hle := h.le
  have hge := h.ge
  constructor <;> rw [Magnitude.ofRatio_val_eq] <;> omega

namespace Json

open Magnitude Binary64

variable {significand d j k n code : Nat}

theorem div_number {s t : Bool} {a b : Magnitude} (ha : a.isInfinite = false)
    (hb : b.isInfinite = false) (hz : b.isZero = false) :
    (number s a).div (number t b) = number (s != t) (ofRatio (a.units * unitsPerOne) b.units) := by
  simp [Binary64.div, ha, hb, hz]

theorem mul_number {s t : Bool} {a b : Magnitude} (ha : a.isInfinite = false)
    (hb : b.isInfinite = false) :
    (number s a).mul (number t b) = number (s != t) (ofRatio (a.units * b.units) unitsPerOne) := by
  simp [Binary64.mul, ha, hb]

theorem ofNat_eq (n : Nat) : ofNat n = number false (ofWhole n) := rfl

theorem pow10_eq (k : Nat) : pow10 k = number false (ofWhole (10 ^ k)) := rfl

/-- A significand over a power of ten is rounded once more as a quotient. -/
theorem scale?_places (hs : significand ≤ 10 ^ 308) (hk : 0 < k) (hk' : k ≤ 308) :
    scale? significand (-k) = some (number false
      (ofRatio ((ofWhole significand).units * unitsPerOne) (ofWhole (10 ^ k)).units)) := by
  obtain ⟨e, rfl⟩ := Nat.exists_eq_add_one.2 hk
  change some (divideByPower (e + 1) (ofNat significand) (e + 1)) = _
  rw [divideByPower, if_pos hk', pow10_eq]
  change some (Binary64.div (number false (ofWhole significand)) _) = _
  rw [div_number (isInfinite_ofWhole hs) (isInfinite_pow hk') (isZero_pow hk')]
  rfl

theorem isNearest_places {i : Nat} (h : IsNearest (d * 10 ^ i) fineScale code)
    (hk : i + k = 1074) :
    IsNearest (d * unitsPerOne * unitsPerOne) (10 ^ k * unitsPerOne) code := by
  refine h.of_mul_eq fineScale_pos (Nat.mul_pos (Nat.pow_pos (by decide)) unitsPerOne_pos) ?_
  calc d * 10 ^ i * (10 ^ k * unitsPerOne) = d * 10 ^ (i + k) * unitsPerOne := by
        rw [Nat.pow_add]
        ring
    _ = d * (unitsPerOne * fineScale) * unitsPerOne := by rw [hk, unitsPerOne_mul_fineScale]
    _ = d * unitsPerOne * unitsPerOne * fineScale := by ring

section Places

variable {m : Magnitude}
  (h : IsNearest (d * unitsPerOne * unitsPerOne) (10 ^ k * unitsPerOne) m.val)
  (h0 : 0 < k)

include h h0

theorem scale?_exact (hk : k ≤ 22) (hd : d ≤ 2 * fractionCount) :
    scale? d (-k) = some (number false m) := by
  have hl : d * 2 ^ 0 ≤ 10 ^ 308 := by
    rw [Nat.pow_zero, Nat.mul_one]
    exact hd.trans ((by decide : 2 * fractionCount ≤ 10 ^ 18).trans (ten_pow_le (by decide)))
  have hu := units_ofWhole hd hl
  have hden : 0 < 10 ^ k * unitsPerOne := Nat.mul_pos (Nat.pow_pos (by decide)) unitsPerOne_pos
  rw [Nat.pow_zero, Nat.mul_one] at hl hu
  rw [scale?_places hl h0 (hk.trans (by decide)), hu, units_ofWhole_pow hk, Option.some.injEq,
    number.injEq]
  refine ⟨rfl, Fin.ext ?_⟩
  rw [ofRatio_val_eq, h.eq_codeOf hden]
  exact Nat.min_eq_left (Nat.le_of_lt_succ m.isLt)

variable (hd : 0 < d) (hl : d ≤ 10 ^ 308)

include hd hl

/-- A significand of more than 53 bits is rounded on its own. -/
theorem scale?_near_one (hk : k ≤ 22) :
    ∃ m' : Magnitude, scale? d (-k) = some (number false m') ∧ IsNear 1 m.val m'.val := by
  have hden : 0 < 10 ^ k * unitsPerOne := Nat.mul_pos (Nat.pow_pos (by decide)) unitsPerOne_pos
  refine ⟨_, scale?_places hl h0 (hk.trans (by decide)), IsNear.ofRatio ?_⟩
  rw [units_ofWhole_pow hk]
  exact h.isNear_of_isClose hden (codeOf_isNearest _ hden)
    ((isClose_ofWhole hd hl).mul_right unitsPerOne)

theorem scale?_near_two (hk : k ≤ 308) :
    ∃ m' : Magnitude, scale? d (-k) = some (number false m') ∧ IsNear 2 m.val m'.val := by
  have hden : 0 < 10 ^ k * unitsPerOne := Nat.mul_pos (Nat.pow_pos (by decide)) unitsPerOne_pos
  have hpow := ten_pow_le hk
  have hb : 0 < (ofWhole (10 ^ k)).units := units_ofWhole_pos (Nat.pow_pos (by decide)) hpow
  have hn := codeOf_isNearest (d * unitsPerOne * unitsPerOne) hb
  have h1 := h.isNear_of_isClose_den hden hb hn (isClose_pow hk)
  have h2 := hn.isNear_of_isClose hb (codeOf_isNearest _ hb)
    ((isClose_ofWhole hd hl).mul_right unitsPerOne)
  exact ⟨_, scale?_places hl h0 hk, (h1.trans h2).ofRatio⟩

end Places

theorem unitsPerOne_le_units (h : 0 < n) : unitsPerOne ≤ (ofWhole n).units := by
  have h1 : (ofWhole (1 * 2 ^ 0)).units = 1 * 2 ^ 0 * unitsPerOne :=
    units_ofWhole (Nat.mul_pos (by decide) fractionCount_pos) (ten_pow_le (by decide : 0 ≤ 308))
  have hle : ofWhole 1 ≤ ofWhole n := ofRatio_mono Nat.one_pos (Nat.mul_le_mul_right _ h)
  calc unitsPerOne
    _ = (ofWhole 1).units := by simpa using h1.symm
    _ ≤ (ofWhole n).units := units_mono hle

theorem units_far_le : unitsPerOne ≤ (ofWhole (10 ^ 308)).units := by
  have h1 : 10 ^ 1 ≤ 10 ^ 308 := ten_pow_le (by decide)
  exact unitsPerOne_le_units (Nat.lt_of_lt_of_le (by decide) h1)

theorem codeOf_far_lt (hd : d ≤ 10 ^ 18) :
    codeOf ((ofWhole d).units * unitsPerOne) (ofWhole (10 ^ 308)).units < infinityCode := by
  have h2 : 2 * d ≤ 10 ^ 308 := (show 2 * d ≤ 10 ^ 19 by omega).trans (ten_pow_le (by decide))
  have hu : (ofWhole d).units ≤ unitsOf (infinityCode - 1) := by
    refine (units_ofWhole_le d).trans ?_
    rw [← Nat.mul_assoc]
    exact (Nat.mul_le_mul_right _ h2).trans scales.2.2.2.2
  refine codeOf_lt_infinityCode (unitsPerOne_pos.trans_le units_far_le) ?_
  exact Nat.mul_le_mul hu units_far_le

/-- Beyond 308 places the quotient is divided again. -/
theorem scale?_far {l : Nat} (hd : 0 < d) (hd' : d ≤ 10 ^ 18) (h0 : 0 < l) (hl : l ≤ 22) :
    scale? d (-(308 + l : Nat)) = some (number false (ofRatio
      (unitsOf (codeOf ((ofWhole d).units * unitsPerOne) (ofWhole (10 ^ 308)).units) * unitsPerOne)
      (10 ^ l * unitsPerOne))) := by
  have hlim : d ≤ 10 ^ 308 := hd'.trans (ten_pow_le (by decide))
  have hlt := codeOf_far_lt hd'
  have hl' : l ≤ 308 := hl.trans (by decide)
  have hz : ¬(number false (ofWhole d)).isZero = true :=
    Bool.eq_false_iff.1 (isZero_ofWhole hd hlim)
  have h1 := div_number (s := false) (t := false) (isInfinite_ofWhole hlim)
    (isInfinite_pow (Nat.le_refl 308)) (isZero_pow (Nat.le_refl 308))
  have h2 := div_number (s := false) (t := false) (isInfinite_ofRatio hlt) (isInfinite_pow hl')
    (isZero_pow hl')
  rw [units_ofRatio hlt, units_ofWhole_pow hl] at h2
  obtain ⟨e, rfl⟩ := Nat.exists_eq_add_one.2 h0
  change some (divideByPower (308 + e + 1) (ofNat d) (308 + e + 1)) = _
  rw [divideByPower, if_neg (by omega), ofNat_eq, if_neg hz, pow10_eq, h1,
    show 308 + e = 307 + e + 1 by omega, divideByPower, if_pos (by omega),
    show 307 + e + 1 + 1 - 308 = e + 1 by omega, pow10_eq]
  exact congrArg some h2

theorem scale?_near_three {m : Magnitude} {l : Nat}
    (h : IsNearest (d * unitsPerOne * unitsPerOne) (10 ^ (308 + l) * unitsPerOne) m.val)
    (hd : 0 < d) (hd' : d ≤ 10 ^ 18) (h0 : 0 < l) (hl : l ≤ 22) :
    ∃ m' : Magnitude, scale? d (-(308 + l : Nat)) = some (number false m') ∧
      IsNear 3 m.val m'.val := by
  have hb : 0 < (ofWhole (10 ^ 308)).units := unitsPerOne_pos.trans_le units_far_le
  have hp : 0 < 10 ^ l := Nat.pow_pos (by decide)
  have hbp := Nat.mul_pos hb hp
  have hden : 0 < 10 ^ (308 + l) * unitsPerOne :=
    Nat.mul_pos (Nat.pow_pos (by decide)) unitsPerOne_pos
  have hlim : d ≤ 10 ^ 308 := hd'.trans (ten_pow_le (by decide))
  have hpow : IsClose (10 ^ (308 + l) * unitsPerOne) ((ofWhole (10 ^ 308)).units * 10 ^ l) := by
    have hc := (isClose_pow (Nat.le_refl 308)).mul_right (10 ^ l)
    rwa [Nat.mul_right_comm, ← pow_add] at hc
  have hn := codeOf_isNearest (d * unitsPerOne * unitsPerOne) hbp
  have h1 := h.isNear_of_isClose_den hden hbp hn hpow
  have h2 := hn.isNear_of_isClose hbp (codeOf_isNearest _ hbp)
    ((isClose_ofWhole hd hlim).mul_right unitsPerOne)
  have h3 := isNear_codeOf_div ((ofWhole d).units * unitsPerOne) hb hp unitsPerOne_pos
  exact ⟨_, scale?_far hd hd' h0 hl, ((h1.trans h2).trans h3).ofRatio⟩

/-- No more than three roundings come between a number and its text. -/
theorem scale?_near {m : Magnitude}
    (h : IsNearest (d * unitsPerOne * unitsPerOne) (10 ^ k * unitsPerOne) m.val)
    (hd : 0 < d) (hd' : d ≤ 10 ^ 18) (h0 : 0 < k) (hk : k ≤ 330) :
    ∃ m' : Magnitude, scale? d (-k) = some (number false m') ∧ IsNear 3 m.val m'.val := by
  rcases Nat.lt_or_ge 308 k with hfar | hnear
  · obtain ⟨l, rfl⟩ := Nat.exists_eq_add_of_le hfar.le
    exact scale?_near_three h hd hd' (by omega) (by omega)
  · obtain ⟨m', hm', hn⟩ := scale?_near_two h h0 hd (hd'.trans (ten_pow_le (by decide))) hnear
    exact ⟨m', hm', hn.mono (by decide)⟩

end Json

end SimilarityClient
