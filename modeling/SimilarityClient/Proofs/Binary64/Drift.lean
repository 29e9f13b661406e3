import SimilarityClient.Proofs.Binary64.Nearest

/-! # Rounding more than once

Rounding moves a quotient by no more than half of the last of its 53 bits. A
quotient that has moved so little is rounded to the same code or to one beside
it, so every rounding adds one to the distance of the codes.
-/

namespace SimilarityClient

/-- Two numbers differ by at most half of the last of 53 bits of either. -/
structure IsClose (num num' : Nat) : Prop where
  ge : 2 * fractionCount * num ≤ 2 * fractionCount * num' + num'
  le : 2 * fractionCount * num' ≤ 2 * fractionCount * num + num

theorem IsClose.symm {num num' : Nat} (h : IsClose num num') : IsClose num' num := ⟨h.le, h.ge⟩

theorem IsClose.mul_right {num num' : Nat} (h : IsClose num num') (n : Nat) :
    IsClose (num * n) (num' * n) := by
  constructor
  · simpa only [Nat.add_mul, Nat.mul_assoc] using Nat.mul_le_mul_right n h.ge
  · simpa only [Nat.add_mul, Nat.mul_assoc] using Nat.mul_le_mul_right n h.le

/-- Two codes are no further apart than `n`. -/
structure IsNear (n code code' : Nat) : Prop where
  le : code' ≤ code + n
  ge : code ≤ code' + n

namespace IsNear

variable {n k code code' code'' : Nat}

theorem refl (n code : Nat) : IsNear n code code :=
  ⟨Nat.le_add_right code n, Nat.le_add_right code n⟩

theorem mono (h : IsNear n code code') (hk : n ≤ k) : IsNear k code code' :=
  ⟨h.le.trans (Nat.add_le_add_left hk code), h.ge.trans (Nat.add_le_add_left hk code')⟩

theorem trans (h : IsNear n code code') (h' : IsNear k code' code'') :
    IsNear (n + k) code code'' := by
  have := h.le
  have := h.ge
  have := h'.le
  have := h'.ge
  constructor <;> omega

end IsNear

namespace Magnitude

variable {num num' den den' code code' : Nat}

theorem gap_le_succ (code : Nat) : gap code ≤ gap (code + 1) := by
  rcases gap_succ code with h | ⟨h, -⟩ <;> omega

/-- A rounded quotient is close, unless it has fewer than 53 bits. -/
theorem IsNearest.isClose (h : IsNearest num den code) (hc : fractionCount < code) :
    IsClose num (unitsOf code * den) := by
  obtain ⟨b, rfl⟩ := Nat.exists_eq_add_one.2 (Nat.lt_of_le_of_lt (Nat.zero_le _) hc)
  have hl := h.lower
  have hu := h.upper
  have hw := mul_gap_le hc.le
  -- The gap below a power of two is half as wide as the one above it.
  have hg : (2 * fractionCount + 1) * gap b ≤ 2 * unitsOf (b + 1) := by
    rcases gap_succ b with he | ⟨he, hs⟩
    · have hb := mul_gap_le (show fractionCount ≤ b by omega)
      rw [unitsOf_succ]
      linarith
    · have hF := Nat.mul_le_mul_right (gap b) fractionCount_pos
      rw [hs, he]
      linarith
  rw [Nat.add_sub_cancel] at hl
  have hs := unitsOf_succ b
  rw [unitsOf_succ (b + 1)] at hu
  constructor
  · have h1 := Nat.mul_le_mul_right den hw
    have h2 := Nat.mul_le_mul_left fractionCount hu
    linarith
  · have h1 := Nat.mul_le_mul_right den hg
    have h2 := Nat.mul_le_mul_left (2 * fractionCount + 1) hl
    rw [hs] at *
    linarith

/-- Two codes or more away, a quotient has moved by a gap and a half at least. -/
theorem IsNearest.three_mul_gap_le (h : IsNearest num den code) (h' : IsNearest num' den code')
    (hc : code + 1 < code') : 2 * num ≤ (2 * unitsOf code + gap code) * den ∧
      (2 * unitsOf code + 3 * gap code) * den ≤ 2 * num' := by
  have h1 : unitsOf (code + 1) ≤ unitsOf (code' - 1) := unitsOf_strictMono.monotone (by omega)
  have h2 : unitsOf (code + 2) ≤ unitsOf code' := unitsOf_strictMono.monotone (by omega)
  have hg := gap_le_succ code
  have hu := h.upper
  rw [unitsOf_succ] at h1 hu
  rw [unitsOf_succ, unitsOf_succ] at h2
  refine ⟨hu.trans (Nat.mul_le_mul_right den (by omega)),
    (Nat.mul_le_mul_right den ?_).trans h'.lower⟩
  omega

theorem IsNearest.le_of_isClose (hd : 0 < den) (h : IsNearest num den code)
    (h' : IsNearest num' den code') (hc : IsClose num num') : code' ≤ code + 1 := by
  by_contra hlt
  obtain ⟨hu, hl⟩ := h.three_mul_gap_le h' (Nat.lt_of_not_le hlt)
  have hs := unitsOf_succ_le code
  rw [unitsOf_succ] at hs
  have h1 := Nat.mul_le_mul_left (2 * fractionCount) hl
  have h2 := Nat.mul_le_mul_left (2 * fractionCount + 1) hu
  have h3 := Nat.mul_le_mul_right den hs
  have h4 := hc.le
  have h5 := Nat.mul_pos (gap_pos code) hd
  linarith

/-- Close quotients are rounded to codes beside each other. -/
theorem IsNearest.isNear_of_isClose (hd : 0 < den) (h : IsNearest num den code)
    (h' : IsNearest num' den code') (hc : IsClose num num') : IsNear 1 code code' :=
  ⟨h.le_of_isClose hd h' hc, h'.le_of_isClose hd h hc.symm⟩

theorem IsNearest.le_of_half (hd : 0 < den) (h : IsNearest num den code)
    (h' : IsNearest num' den code') (hc : 2 * num' ≤ 2 * num + den) : code' ≤ code + 1 := by
  by_contra hlt
  obtain ⟨hu, hl⟩ := h.three_mul_gap_le h' (Nat.lt_of_not_le hlt)
  have hg := Nat.mul_le_mul_right den (gap_pos code)
  linarith

theorem IsNearest.isNear_of_half (hd : 0 < den) (h : IsNearest num den code)
    (h' : IsNearest num' den code') (hle : 2 * num' ≤ 2 * num + den)
    (hge : 2 * num ≤ 2 * num' + den) : IsNear 1 code code' :=
  ⟨h.le_of_half hd h' hle, h'.le_of_half hd h hge⟩

theorem IsNearest.isNear_of_isClose_den (hd : 0 < den) (hd' : 0 < den')
    (h : IsNearest num den code) (h' : IsNearest num den' code') (hc : IsClose den den') :
    IsNear 1 code code' := by
  have hD := Nat.mul_pos hd hd'
  have h1 : IsNearest (num * den') (den * den') code := h.of_mul_eq hd hD (by ring)
  have h2 : IsNearest (num * den) (den * den') code' := h'.of_mul_eq hd' hD (by ring)
  have hc' := hc.symm.mul_right num
  rw [Nat.mul_comm den', Nat.mul_comm den] at hc'
  exact h1.isNear_of_isClose hD h2 hc'

theorem gap_of_le (h : code ≤ fractionCount) : gap code = 1 := by
  rcases h.lt_or_eq with h | rfl
  · exact gap_of_lt h
  · rw [gap, Nat.div_self fractionCount_pos]
    rfl

/-- With fewer than 53 bits a rounded quotient is half of a unit away at most. -/
theorem IsNearest.half_of_le (h : IsNearest num den code) (hc : code ≤ fractionCount) :
    2 * (unitsOf code * den) ≤ 2 * num + den ∧ 2 * num ≤ 2 * (unitsOf code * den) + den := by
  have hl := h.lower
  have hu := h.upper
  have h1 : unitsOf code ≤ unitsOf (code - 1) + 1 := by
    rw [unitsOf_of_le hc, unitsOf_of_le ((Nat.sub_le code 1).trans hc)]
    omega
  have h2 := Nat.mul_le_mul_right den h1
  rw [unitsOf_succ, gap_of_le hc] at hu
  constructor <;> linarith

/-- A rounding before a division moves the code of the result by one at most. -/
theorem isNear_codeOf_div {p u : Nat} (num : Nat) (hd : 0 < den) (hp : 0 < p) (hu : 0 < u) :
    IsNear 1 (codeOf num (den * p)) (codeOf (unitsOf (codeOf num den) * u) (p * u)) := by
  have h := codeOf_isNearest num hd
  have hdp := Nat.mul_pos hd hp
  have hpu := Nat.mul_pos hp hu
  have h2 := codeOf_isNearest num hdp
  have h3 : IsNearest (unitsOf (codeOf num den) * den) (den * p)
      (codeOf (unitsOf (codeOf num den) * u) (p * u)) :=
    (codeOf_isNearest _ hpu).of_mul_eq hpu hdp (by ring)
  rcases Nat.lt_or_ge fractionCount (codeOf num den) with hc | hc
  · exact h2.isNear_of_isClose hdp h3 (h.isClose hc)
  · obtain ⟨hle, hge⟩ := h.half_of_le hc
    have hden := Nat.le_mul_of_pos_right den hp
    exact h2.isNear_of_half hdp h3 (by omega) (by omega)

end Magnitude

end SimilarityClient
