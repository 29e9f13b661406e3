import SimilarityClient.Proofs.Binary64.Plain
import SimilarityClient.Proofs.Binary64.Shortest

/-! # Plain texts read back

The plain text of a finite number is a decimal that this number is the nearest one
to. So the text determines the number, and even the sign of a zero.
-/

namespace SimilarityClient

open Magnitude

namespace PlainDecimal

/-- The number that is nearest to a plain decimal. -/
def nearest (d : PlainDecimal) : Binary64 :=
  .number d.negative (ofRatio (Nat.ofDigitChars 10 (d.whole ++ d.places) 0 * unitsPerOne)
    (10 ^ d.places.length))

end PlainDecimal

namespace Magnitude

variable {m : Magnitude} {d j n k : Nat}

theorem ofRatio_eq {num den : Nat} (h : codeOf num den = m.val) : ofRatio num den = m := by
  have hm : min m.val infinityCode = m.val := Nat.min_eq_left (Nat.le_of_lt_succ m.isLt)
  exact Fin.ext ((congrArg (min · infinityCode) h).trans hm)

theorem mul_pow_eq {e : Nat} (hv : (n : ℚ) / 10 ^ k = d * (10 : ℚ) ^ ((j : Int) - (e : Int))) :
    n * 10 ^ e = d * 10 ^ j * 10 ^ k := by
  rw [zpow_sub₀ (by norm_num), zpow_natCast, zpow_natCast, ← mul_div_assoc,
    div_eq_div_iff (by positivity) (by positivity)] at hv
  exact_mod_cast hv

/-- A point is rounded to its code in whatever way its value is written as a decimal fraction. -/
theorem IsPoint.codeOf_eq {code : Nat} (h : IsPoint code d j)
    (hv : (n : ℚ) / 10 ^ k = d * (10 : ℚ) ^ ((j : Int) - 1074)) :
    codeOf (n * unitsPerOne) (10 ^ k) = code := by
  have hk : 0 < 10 ^ k := Nat.pow_pos (by decide)
  have hn : n * 10 ^ 1074 = d * 10 ^ j * 10 ^ k := mul_pow_eq hv
  refine (h.nearest.of_mul_eq fineScale_pos hk ?_).eq_codeOf hk
  rw [← hn, Nat.mul_assoc, unitsPerOne_mul_fineScale]

theorem ofRatio_shortest (tie : Tie) (m : Magnitude)
    (hv : (n : ℚ) / 10 ^ k = (m.shortest tie).digits * (10 : ℚ) ^ (m.shortest tie).exponent) :
    ofRatio (n * unitsPerOne) (10 ^ k) = m := by
  refine ofRatio_eq ?_
  by_cases hm : m.val = 0
  · have h0 : n = 0 := by
      rw [shortest, if_pos hm] at hv
      simpa using hv
    have hz := codeOf_unitsOf_mul 0 (show 0 < 10 ^ k from Nat.pow_pos (by decide))
    rw [h0, hm, Nat.zero_mul]
    rwa [unitsOf_zero, Nat.zero_mul] at hz
  · obtain ⟨d, j, hs, hp⟩ := exists_shortest tie hm
    rw [hs] at hv
    exact hp.codeOf_eq hv

end Magnitude

namespace Binary64

/-- The plain text of a finite number is a plain decimal, and the number the nearest to that. -/
theorem exists_nearest {x : Binary64} (h : x.isFinite = true) :
    ∃ d : PlainDecimal, x.plain = d.text ∧ d.nearest = x := by
  cases x with
  | nan => cases h
  | number negative m =>
    have hm : m.isInfinite = false := by simpa [isFinite] using h
    obtain ⟨d, hs, ht, hv⟩ := (m.shortest .up).exists_plain negative
    refine ⟨d, ?_, ?_⟩
    · rw [plain, textWith, hm, ht]
      rfl
    · rw [PlainDecimal.nearest, hs, ofRatio_shortest .up m hv]

theorem plain_inj {x y : Binary64} (hx : x.isFinite = true) (hy : y.isFinite = true)
    (h : x.plain = y.plain) : x = y := by
  obtain ⟨d, hd, rfl⟩ := exists_nearest hx
  obtain ⟨e, he, rfl⟩ := exists_nearest hy
  rw [PlainDecimal.text_injective (hd.symm.trans (h.trans he))]

end Binary64

end SimilarityClient
