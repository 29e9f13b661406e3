import Mathlib.Data.Nat.Log
import Mathlib.Tactic.Linarith
import Mathlib.Tactic.Ring
import SimilarityClient.Binary64.Basic

/-! # Rounding to the nearest number

Between a code and the next one lies a gap, and gaps only grow. A quotient is
rounded to the one code that has it between the middles of its two gaps, where
an even code takes the middles themselves.
-/

namespace SimilarityClient

theorem fractionCount_eq : fractionCount = 2 ^ 52 := rfl

theorem fractionCount_pos : 0 < fractionCount := Nat.two_pow_pos 52

theorem two_dvd_fractionCount : 2 ∣ fractionCount := dvd_pow_self 2 (by decide : 52 ≠ 0)

namespace Magnitude

variable {code c num den : Nat}

/-- The distance from a code to the next one. -/
def gap (code : Nat) : Nat := 2 ^ (code / fractionCount - 1)

theorem gap_pos (code : Nat) : 0 < gap code := Nat.two_pow_pos _

theorem unitsOf_add_mul {f : Nat} (h : f ≤ fractionCount) (s : Nat) :
    unitsOf (fractionCount + f + s * fractionCount) = (fractionCount + f) * 2 ^ s := by
  have hF := fractionCount_pos
  rcases h.lt_or_eq with h | rfl
  · have he : fractionCount + f + s * fractionCount = fractionCount * (s + 1) + f := by ring
    rw [he]
    simp only [unitsOf, Nat.mul_add_div hF, Nat.div_eq_of_lt h, Nat.mul_add_mod, Nat.mod_eq_of_lt h]
    simp
  · have he : fractionCount + fractionCount + s * fractionCount = fractionCount * (s + 2) := by ring
    rw [he]
    simp only [unitsOf, Nat.mul_div_cancel_left _ hF, Nat.mul_mod_right]
    simp only [Nat.add_eq_zero_iff, OfNat.ofNat_ne_zero, and_false, if_false, Nat.pow_eq]
    rw [show s + 2 - 1 = s + 1 by rfl]
    ring

theorem unitsOf_of_le (h : code ≤ fractionCount) : unitsOf code = code := by
  rcases h.lt_or_eq with h | rfl
  · simp only [unitsOf, Nat.div_eq_of_lt h, Nat.mod_eq_of_lt h, if_true]
  · simpa using unitsOf_add_mul (Nat.zero_le fractionCount) 0

@[simp] theorem unitsOf_zero : unitsOf 0 = 0 := unitsOf_of_le (Nat.zero_le _)

/-- A code is its own value, or a significand of 53 bits with a power of two. -/
theorem lt_or_exists (code : Nat) : code < fractionCount ∨
    ∃ f s, f < fractionCount ∧ code = fractionCount + f + s * fractionCount := by
  rcases Nat.lt_or_ge code fractionCount with h | h
  · exact .inl h
  · refine .inr ⟨(code - fractionCount) % fractionCount, (code - fractionCount) / fractionCount,
      Nat.mod_lt _ fractionCount_pos, ?_⟩
    have := Nat.mod_add_div' (code - fractionCount) fractionCount
    omega

theorem gap_of_lt (h : code < fractionCount) : gap code = 1 := by
  rw [gap, Nat.div_eq_of_lt h]
  rfl

theorem gap_add_mul {f : Nat} (h : f < fractionCount) (s : Nat) :
    gap (fractionCount + f + s * fractionCount) = 2 ^ s := by
  have he : fractionCount + f + s * fractionCount = fractionCount * (s + 1) + f := by ring
  rw [he, gap, Nat.mul_add_div fractionCount_pos, Nat.div_eq_of_lt h]
  rfl

theorem unitsOf_succ (code : Nat) : unitsOf (code + 1) = unitsOf code + gap code := by
  rcases lt_or_exists code with h | ⟨f, s, hf, rfl⟩
  · rw [unitsOf_of_le h.le, gap_of_lt h, unitsOf_of_le h]
  · have he : fractionCount + f + s * fractionCount + 1 =
        fractionCount + (f + 1) + s * fractionCount := by ring
    have hf' : f + 1 ≤ fractionCount := hf
    rw [he, unitsOf_add_mul hf.le, unitsOf_add_mul hf', gap_add_mul hf]
    ring

theorem unitsOf_strictMono : StrictMono unitsOf :=
  strictMono_nat_of_lt_succ fun code => by
    have := gap_pos code
    rw [unitsOf_succ]
    omega

/-- A value and the next one have 53 bits, counted in the gap between them. -/
theorem unitsOf_succ_le (code : Nat) : unitsOf (code + 1) ≤ 2 * fractionCount * gap code := by
  rw [unitsOf_succ]
  rcases lt_or_exists code with h | ⟨f, s, hf, rfl⟩
  · rw [unitsOf_of_le h.le, gap_of_lt h]
    omega
  · rw [unitsOf_add_mul hf.le, gap_add_mul hf, ← Nat.succ_mul]
    exact Nat.mul_le_mul_right _ (by omega)

theorem mul_gap_le (h : fractionCount ≤ code) : fractionCount * gap code ≤ unitsOf code := by
  rcases lt_or_exists code with h' | ⟨f, s, hf, rfl⟩
  · omega
  · rw [unitsOf_add_mul hf.le, gap_add_mul hf]
    exact Nat.mul_le_mul_right _ (by omega)

theorem gap_le_unitsOf (h : code ≠ 0) : gap code ≤ unitsOf code := by
  rcases Nat.lt_or_ge code fractionCount with h' | h'
  · rw [unitsOf_of_le h'.le, gap_of_lt h']
    omega
  · exact (Nat.le_mul_of_pos_left _ fractionCount_pos).trans (mul_gap_le h')

/-- A gap is as wide as the one before it, or twice as wide where the significand starts anew. -/
theorem gap_succ (code : Nat) : gap (code + 1) = gap code ∨
    gap (code + 1) = 2 * gap code ∧ unitsOf (code + 1) = fractionCount * gap (code + 1) := by
  rcases lt_or_exists code with h | ⟨f, s, hf, rfl⟩
  · left
    rw [gap_of_lt h]
    rcases Nat.lt_or_ge (code + 1) fractionCount with h' | h'
    · exact gap_of_lt h'
    · have he : code + 1 = fractionCount + 0 + 0 * fractionCount := by omega
      rw [he, gap_add_mul fractionCount_pos]
      rfl
  · rw [gap_add_mul hf]
    rcases Nat.lt_or_ge (f + 1) fractionCount with h' | h'
    · have he : fractionCount + f + s * fractionCount + 1 =
          fractionCount + (f + 1) + s * fractionCount := by ring
      exact .inl (by rw [he, gap_add_mul h'])
    · have he : fractionCount + f + s * fractionCount + 1 =
          fractionCount + 0 + (s + 1) * fractionCount := by
        rw [Nat.add_mul]
        omega
      refine .inr ?_
      rw [he, gap_add_mul fractionCount_pos, unitsOf_add_mul (Nat.zero_le _), pow_succ]
      exact ⟨Nat.mul_comm _ _, rfl⟩

/-- A quotient stands between the middles of the gaps around a code; at a middle
the code is even. -/
structure IsNearest (num den code : Nat) : Prop where
  lower : (unitsOf (code - 1) + unitsOf code) * den ≤ 2 * num
  upper : 2 * num ≤ (unitsOf code + unitsOf (code + 1)) * den
  lower_lt : code % 2 = 1 → (unitsOf (code - 1) + unitsOf code) * den < 2 * num
  upper_lt : code % 2 = 1 → 2 * num < (unitsOf code + unitsOf (code + 1)) * den

/-- A larger quotient has no smaller code. One middle between two codes would have to be even on
both sides. -/
theorem IsNearest.mono {num' code' : Nat} (hd : 0 < den) (h : IsNearest num den code)
    (h' : IsNearest num' den code') (hn : num ≤ num') : code ≤ code' := by
  by_contra hc
  have h1 : unitsOf code' ≤ unitsOf (code - 1) := unitsOf_strictMono.monotone (by omega)
  have h2 : unitsOf (code' + 1) ≤ unitsOf code := unitsOf_strictMono.monotone (by omega)
  have hle := Nat.mul_le_mul_right den (Nat.add_le_add h1 h2)
  have heq : code = code' + 1 := by
    by_contra hne
    have h3 : unitsOf (code' + 1) < unitsOf code := unitsOf_strictMono (by omega)
    have hlt := Nat.mul_lt_mul_of_pos_right (Nat.add_lt_add_of_le_of_lt h1 h3) hd
    have := h'.upper
    have := h.lower
    omega
  have hl := h.lower
  have hu := h'.upper
  rcases Nat.mod_two_eq_zero_or_one code' with hp | hp
  · have := h.lower_lt (by omega)
    omega
  · have := h'.upper_lt hp
    omega

theorem IsNearest.unique {code' : Nat} (hd : 0 < den) (h : IsNearest num den code)
    (h' : IsNearest num den code') : code = code' :=
  Nat.le_antisymm (h.mono hd h' (Nat.le_refl num)) (h'.mono hd h (Nat.le_refl num))

end Magnitude

/-- A rounded quotient is at most half away, and even if it is half away. -/
structure IsRounded (num den r : Nat) : Prop where
  lower : 2 * (r * den) ≤ 2 * num + den
  upper : 2 * num ≤ 2 * (r * den) + den
  lower_lt : r % 2 = 1 → 2 * (r * den) < 2 * num + den
  upper_lt : r % 2 = 1 → 2 * num < 2 * (r * den) + den

theorem roundQuotient_isRounded (num : Nat) {den : Nat} (hd : 0 < den) :
    IsRounded num den (roundQuotient num den) := by
  have hq := Nat.div_add_mod' num den
  have hr := Nat.mod_lt num hd
  rw [roundQuotient]
  generalize num / den = q at hq ⊢
  generalize num % den = r at hq hr ⊢
  have hs : (q + 1) * den = q * den + den := by ring
  split
  · constructor <;> omega
  split
  · constructor <;> omega
  have hm : 2 * r = den := by omega
  rcases Nat.mod_two_eq_zero_or_one q with hp | hp
  · rw [hp, Nat.add_zero]
    constructor <;> omega
  · rw [hp]
    constructor <;> omega

theorem IsRounded.mono {num num' den r r' : Nat} (hd : 0 < den) (h : IsRounded num den r)
    (h' : IsRounded num' den r') (hn : num ≤ num') : r ≤ r' := by
  by_contra hc
  have hm := Nat.mul_le_mul_right den (show r' + 1 ≤ r by omega)
  have hl := h.lower
  have hu := h'.upper
  rw [Nat.add_mul] at hm
  -- Both would be half away from one number, and one of them is odd.
  have hr : (r' + 1) * den = r * den := by
    rw [Nat.add_mul]
    omega
  have heq : r' + 1 = r := Nat.eq_of_mul_eq_mul_right hd hr
  rcases Nat.mod_two_eq_zero_or_one r' with hp | hp
  · have := h.lower_lt (by omega)
    omega
  · have := h'.upper_lt hp
    omega

theorem roundQuotient_mono {num num' den : Nat} (hd : 0 < den) (h : num ≤ num') :
    roundQuotient num den ≤ roundQuotient num' den :=
  (roundQuotient_isRounded num hd).mono hd (roundQuotient_isRounded num' hd) h

theorem IsRounded.le {num den r b : Nat} (h : IsRounded num den r) (hb : num < b * den) :
    r ≤ b := by
  by_contra hc
  have hm := Nat.mul_le_mul_right den (show b + 1 ≤ r by omega)
  have := h.lower
  rw [Nat.add_mul] at hm
  omega

theorem IsRounded.ge {num den r b : Nat} (hd : 0 < den) (h : IsRounded num den r)
    (hb : b * den ≤ num) : b ≤ r := by
  by_contra hc
  have hm := Nat.mul_le_mul_right den (show r + 1 ≤ b by omega)
  have := h.upper
  rw [Nat.add_mul] at hm
  omega

namespace Magnitude

theorem unitsOf_shifted {r s : Nat} (hu : r ≤ 2 * fractionCount)
    (hs : s = 0 ∨ fractionCount ≤ r) : unitsOf (r + s * fractionCount) = r * 2 ^ s := by
  rcases Nat.lt_or_ge r fractionCount with h | h
  · obtain rfl : s = 0 := by omega
    simpa using unitsOf_of_le h.le
  · obtain ⟨f, rfl⟩ := Nat.exists_eq_add_of_le h
    exact unitsOf_add_mul (by omega) s

theorem le_gap_shifted {r s : Nat} (hs : s = 0 ∨ fractionCount ≤ r) :
    2 ^ s ≤ gap (r + s * fractionCount) := by
  refine Nat.pow_le_pow_right (by omega) ?_
  rw [Nat.add_mul_div_right _ _ fractionCount_pos]
  rcases hs with rfl | hr
  · omega
  · have := Nat.div_pos hr fractionCount_pos
    omega

theorem unitsOf_succ_shifted {r s : Nat} (hs : s = 0 ∨ fractionCount ≤ r) :
    unitsOf (r + s * fractionCount) + 2 ^ s ≤ unitsOf (r + s * fractionCount + 1) := by
  rw [unitsOf_succ]
  exact Nat.add_le_add_left (le_gap_shifted hs) _

theorem unitsOf_pred_shifted {r s : Nat} (hr : 0 < r) (hs : s = 0 ∨ fractionCount < r) :
    unitsOf (r + s * fractionCount - 1) + 2 ^ s ≤ unitsOf (r + s * fractionCount) := by
  obtain ⟨r, rfl⟩ := Nat.exists_eq_add_of_le' hr
  rw [Nat.add_right_comm r 1, Nat.add_sub_cancel]
  exact unitsOf_succ_shifted (hs.imp id Nat.le_of_lt_succ)

section Shifted

variable {r s : Nat} (hd : 0 < den) (hR : IsRounded num (den * 2 ^ s) r)
  (hu : r ≤ 2 * fractionCount) (hs : s = 0 ∨ fractionCount ≤ r)

include hR hu hs

theorem upper_of_isRounded :
    2 * num ≤ (unitsOf (r + s * fractionCount) + unitsOf (r + s * fractionCount + 1)) * den ∧
      (r % 2 = 1 →
        2 * num < (unitsOf (r + s * fractionCount) + unitsOf (r + s * fractionCount + 1)) * den) := by
  have hv : unitsOf (r + s * fractionCount) * den = r * (den * 2 ^ s) := by
    rw [unitsOf_shifted hu hs, Nat.mul_comm den, Nat.mul_assoc]
  have hn := Nat.mul_le_mul_right den (unitsOf_succ_shifted hs)
  rw [Nat.add_mul, Nat.mul_comm (2 ^ s)] at hn
  have := hR.upper
  have := hR.upper_lt
  rw [Nat.add_mul]
  omega

include hd

/-- Where the gap before a code is half as wide, the quotient is not below the code. -/
theorem lower_of_isRounded (hl : s = 0 ∨ fractionCount * (den * 2 ^ s) ≤ num) :
    (unitsOf (r + s * fractionCount - 1) + unitsOf (r + s * fractionCount)) * den ≤ 2 * num ∧
      (r % 2 = 1 → (unitsOf (r + s * fractionCount - 1) + unitsOf (r + s * fractionCount)) * den <
        2 * num) := by
  have hv : unitsOf (r + s * fractionCount) * den = r * (den * 2 ^ s) := by
    rw [unitsOf_shifted hu hs, Nat.mul_comm den, Nat.mul_assoc]
  rw [Nat.add_mul, hv]
  by_cases hc : s = 0 ∨ fractionCount < r
  · rcases Nat.eq_zero_or_pos r with rfl | h0
    · obtain rfl : s = 0 := by omega
      simp
    · have hn := Nat.mul_le_mul_right den (unitsOf_pred_shifted h0 hc)
      rw [Nat.add_mul, Nat.mul_comm (2 ^ s), hv] at hn
      have := hR.lower
      have := hR.lower_lt
      omega
  · obtain rfl : r = fractionCount := by omega
    have hc0 : fractionCount + s * fractionCount ≠ 0 := by
      have := fractionCount_pos
      omega
    have hlt := Nat.mul_lt_mul_of_pos_right (unitsOf_strictMono (Nat.sub_one_lt hc0)) hd
    omega

end Shifted

theorem codeOf_eq (num den : Nat) : codeOf num den =
    roundQuotient num (den * 2 ^ (Nat.log2 (num / den) - 52)) +
      (Nat.log2 (num / den) - 52) * fractionCount := rfl

theorem shift_bounds (num : Nat) (hd : 0 < den) {s : Nat}
    (hs : Nat.log2 (num / den) - 52 = s) : num < 2 * fractionCount * (den * 2 ^ s) ∧
      (s = 0 ∨ fractionCount * (den * 2 ^ s) ≤ num) := by
  constructor
  · have hl : num / den < 2 ^ (s + 53) :=
      Nat.lt_of_lt_of_le Nat.lt_log2_self (Nat.pow_le_pow_right (by omega) (by omega))
    have hm := (Nat.div_lt_iff_lt_mul hd).1 hl
    have he : 2 * fractionCount * (den * 2 ^ s) = 2 ^ (s + 53) * den := by
      rw [fractionCount_eq, pow_add]
      ring
    omega
  · rcases Nat.eq_zero_or_pos s with h | h
    · exact .inl h
    · right
      have hl : 2 ^ (s + 52) ≤ num / den := by
        rw [show s + 52 = Nat.log2 (num / den) by omega]
        refine Nat.log2_self_le ?_
        intro hz
        rw [hz, Nat.log2_zero] at hs
        omega
      have hm := (Nat.le_div_iff_mul_le hd).1 hl
      have he : fractionCount * (den * 2 ^ s) = 2 ^ (s + 52) * den := by
        rw [fractionCount_eq, pow_add]
        ring
      omega

/-- Rounding to a code is rounding to the nearest one. -/
theorem codeOf_isNearest (num : Nat) (hd : 0 < den) : IsNearest num den (codeOf num den) := by
  rw [codeOf_eq]
  generalize hs : Nat.log2 (num / den) - 52 = s
  obtain ⟨hu, hl⟩ := shift_bounds num hd hs
  have hD : 0 < den * 2 ^ s := Nat.mul_pos hd (Nat.two_pow_pos s)
  have hR := roundQuotient_isRounded num hD
  generalize roundQuotient num (den * 2 ^ s) = r at hR
  have hr : r ≤ 2 * fractionCount := hR.le hu
  have hsr : s = 0 ∨ fractionCount ≤ r := hl.imp id (hR.ge hD)
  have hp : (r + s * fractionCount) % 2 = r % 2 := by
    obtain ⟨k, hk⟩ := two_dvd_fractionCount
    rw [hk, Nat.mul_left_comm]
    omega
  have hlow := lower_of_isRounded hd hR hr hsr hl
  have hupp := upper_of_isRounded hR hr hsr
  rw [← hp] at hlow hupp
  exact ⟨hlow.1, hupp.1, hlow.2, hupp.2⟩

theorem IsNearest.eq_codeOf (hd : 0 < den) (h : IsNearest num den code) : codeOf num den = code :=
  (codeOf_isNearest num hd).unique hd h

theorem IsNearest.of_mul_eq {num' den' : Nat} (hd : 0 < den) (hd' : 0 < den')
    (he : num * den' = num' * den) (h : IsNearest num den code) : IsNearest num' den' code := by
  have hm : 2 * num * den' = 2 * num' * den := by rw [Nat.mul_assoc, he, Nat.mul_assoc]
  have hle (a : Nat) : a * den ≤ 2 * num ↔ a * den' ≤ 2 * num' := by
    rw [← Nat.mul_le_mul_right_iff hd', hm, Nat.mul_right_comm, Nat.mul_le_mul_right_iff hd]
  have hge (a : Nat) : 2 * num ≤ a * den ↔ 2 * num' ≤ a * den' := by
    rw [← Nat.mul_le_mul_right_iff hd', hm, Nat.mul_right_comm a, Nat.mul_le_mul_right_iff hd]
  refine ⟨(hle _).1 h.lower, (hge _).1 h.upper, fun ho => ?_, fun ho => ?_⟩
  · rw [← Nat.not_le, ← hge, Nat.not_le]
    exact h.lower_lt ho
  · rw [← Nat.not_le, ← hle, Nat.not_le]
    exact h.upper_lt ho

theorem isNearest_unitsOf (code : Nat) (hd : 0 < den) :
    IsNearest (unitsOf code * den) den code := by
  have hu := Nat.mul_lt_mul_of_pos_right (unitsOf_strictMono (Nat.lt_add_one code)) hd
  have hl := Nat.mul_le_mul_right den (unitsOf_strictMono.monotone (Nat.sub_le code 1))
  have hlt (ho : code % 2 = 1) : unitsOf (code - 1) * den < unitsOf code * den :=
    Nat.mul_lt_mul_of_pos_right (unitsOf_strictMono (by omega)) hd
  refine ⟨?_, ?_, fun ho => ?_, fun _ => ?_⟩ <;> rw [Nat.add_mul]
  · omega
  · omega
  · have := hlt ho
    omega
  · omega

theorem codeOf_unitsOf_mul (code : Nat) (hd : 0 < den) : codeOf (unitsOf code * den) den = code :=
  (isNearest_unitsOf code hd).eq_codeOf hd

theorem codeOf_mono {num' : Nat} (hd : 0 < den) (h : num ≤ num') :
    codeOf num den ≤ codeOf num' den :=
  (codeOf_isNearest num hd).mono hd (codeOf_isNearest num' hd) h

theorem codeOf_le (hd : 0 < den) (h : num ≤ unitsOf code * den) : codeOf num den ≤ code :=
  (codeOf_isNearest num hd).mono hd (isNearest_unitsOf code hd) h

theorem le_codeOf (hd : 0 < den) (h : unitsOf code * den ≤ num) : code ≤ codeOf num den :=
  (isNearest_unitsOf code hd).mono hd (codeOf_isNearest num hd) h

theorem unitsOf_codeOf_mul_le (num : Nat) (hd : 0 < den) :
    unitsOf (codeOf num den) * den ≤ 2 * num :=
  Nat.le_trans (Nat.mul_le_mul_right den (Nat.le_add_left _ _)) (codeOf_isNearest num hd).lower

/-- A number of 53 bits times a power of two is the value of a code. -/
theorem exists_unitsOf_eq {n : Nat} (h : n ≤ 2 * fractionCount) (t : Nat) :
    ∃ code, unitsOf code = n * 2 ^ t := by
  induction t generalizing n with
  | zero => exact ⟨n + 0 * fractionCount, unitsOf_shifted h (.inl rfl)⟩
  | succ t ih =>
    rcases Nat.lt_or_ge fractionCount n with hn | hn
    · exact ⟨_, unitsOf_shifted h (.inr hn.le)⟩
    · obtain ⟨code, hc⟩ := ih (n := 2 * n) (by omega)
      exact ⟨code, by rw [hc, pow_succ]; ring⟩

end Magnitude

end SimilarityClient
