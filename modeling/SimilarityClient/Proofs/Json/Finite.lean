import SimilarityClient.Proofs.Json.Reread
import SimilarityClient.Proofs.Json.Yield

/-! # Numbers that are read are finite

A significand has 64 bits, and a product with a power of ten is refused where
it is infinite. A quotient is never larger than what is divided, since no power
of ten lies below one. An exponent of too many digits gives zero, or nothing.
-/

namespace SimilarityClient

open Text Magnitude Json

namespace Binary64

variable {x : Binary64} {k n : Nat}

theorem isFinite_neg (h : x.isFinite = true) : x.neg.isFinite = true := by
  obtain ⟨negative, m, rfl, hm⟩ := exists_number h
  exact isFinite_number hm

theorem isFinite_ofNat (h : n ≤ 10 ^ 308) : (ofNat n).isFinite = true :=
  isFinite_number (isInfinite_ofWhole h)

/-- A product of finite numbers is infinite or finite, and no third thing. -/
theorem isFinite_mul_pow10 (h : x.isFinite = true) (hk : k ≤ 308)
    (hi : (x.mul (pow10 k)).isInfinite = false) : (x.mul (pow10 k)).isFinite = true := by
  obtain ⟨negative, m, rfl, hm⟩ := exists_number h
  rw [pow10_eq, mul_number hm (isInfinite_pow hk)] at hi ⊢
  exact isFinite_number hi

/-- The powers of ten are no less than one. -/
theorem isFinite_div_pow10 (h : x.isFinite = true) (hk : k ≤ 308) :
    (x.div (pow10 k)).isFinite = true := by
  obtain ⟨negative, m, rfl, hm⟩ := exists_number h
  have hu : unitsPerOne ≤ (ofWhole (10 ^ k)).units := unitsPerOne_le_units (Nat.pow_pos (by decide))
  have hle : codeOf (m.units * unitsPerOne) (ofWhole (10 ^ k)).units ≤ m.val :=
    codeOf_le (unitsPerOne_pos.trans_le hu) (Nat.mul_le_mul_left m.units hu)
  have hlt : m.val < infinityCode := by
    have hne : m.val ≠ infinityCode := beq_eq_false_iff_ne.1 hm
    have := m.isLt
    omega
  rw [pow10_eq, div_number hm (isInfinite_pow hk) (isZero_pow hk)]
  exact isFinite_number (isInfinite_ofRatio (hle.trans_lt hlt))

end Binary64

namespace Json

open Binary64

variable {negative : Bool} {significand value : Nat} {exponent : Int} {s rest : List Char}
  {x : Binary64} {n : Numeral}

theorem max64_le : max64 ≤ 10 ^ 308 := (by decide : max64 ≤ 10 ^ 20).trans (ten_pow_le (by decide))

theorem divideByPower_isFinite (steps : Nat) (h : x.isFinite = true) (e : Nat) :
    (divideByPower steps x e).isFinite = true := by
  induction steps generalizing x e with
  | zero => exact h
  | succ steps ih =>
    unfold divideByPower
    split
    · rename_i he
      exact isFinite_div_pow10 h he
    · split
      · exact h
      · exact ih (isFinite_div_pow10 h (Nat.le_refl 308)) (e - 308)

theorem scale?_isFinite (hs : significand ≤ max64) (h : scale? significand exponent = some x) :
    x.isFinite = true := by
  have hx := isFinite_ofNat (hs.trans max64_le)
  cases exponent with
  | negSucc e =>
    cases h
    exact divideByPower_isFinite (e + 1) hx (e + 1)
  | ofNat e =>
    unfold scale? at h
    dsimp only at h
    split at h
    · rename_i he
      split at h
      · cases h
      · rename_i hi
        cases h
        exact isFinite_mul_pow10 hx he (Bool.eq_false_of_not_eq_true hi)
    · split at h
      · cases h
        exact hx
      · cases h

/-- The number that a numeral stands for is finite. -/
def Numeral.IsFinite (n : Numeral) : Prop := n.toBinary64.isFinite = true

theorem withSign_isFinite (h : x.isFinite = true) : (withSign negative x).isFinite = true := by
  cases negative with
  | false => exact h
  | true => exact isFinite_neg h

theorem whole_isFinite {z : Int} (h : z.natAbs ≤ max64) : (Numeral.whole z).IsFinite := by
  have hx := isFinite_ofNat (h.trans max64_le)
  change (if z < 0 then (ofNat z.natAbs).neg else ofNat z.natAbs).isFinite = true
  split
  · exact isFinite_neg hx
  · exact hx

theorem finish_isFinite (hs : significand ≤ max64) :
    finish negative significand exponent s = .ok (n, rest) → n.IsFinite := by
  intro h
  unfold finish at h
  split at h
  · rename_i x hx
    cases h
    exact withSign_isFinite (scale?_isFinite hs hx)
  · cases h

theorem absorb_le (hv : value ≤ max64) (ds : List Nat) : (absorb value ds).1 ≤ max64 := by
  induction ds generalizing value with
  | nil => exact hv
  | cons d ds ih =>
    unfold absorb
    split
    · exact hv
    · rename_i hd
      exact ih (Nat.le_of_not_lt hd)

theorem afterSign_isFinite (hs : significand ≤ max64) {down : Bool} :
    afterSign negative significand exponent down s = .ok (n, rest) → n.IsFinite := by
  intro h
  unfold afterSign at h
  split at h
  · exact finish_isFinite hs h
  · split at h
    · cases h
    · cases h
      exact withSign_isFinite rfl

theorem afterExponentMark_isFinite (hs : significand ≤ max64) :
    afterExponentMark negative significand exponent s = .ok (n, rest) → n.IsFinite := by
  have hd {down : Bool} {t : List Char} (h : (if t = [] then stopAt .endInValue []
      else if !startsWithDigit t then stopIn .invalidNumber t
      else afterSign negative significand exponent down t) = .ok (n, rest)) : n.IsFinite := by
    split at h
    · cases h
    split at h
    · cases h
    exact afterSign_isFinite hs h
  intro h
  unfold afterExponentMark at h
  exact hd h

theorem afterPoint_isFinite (hs : significand ≤ max64) :
    afterPoint negative significand exponent s = .ok (n, rest) → n.IsFinite := by
  intro h
  unfold afterPoint at h
  dsimp only at h
  split at h
  · split at h <;> cases h
  · have ha := absorb_le hs (takeDigits s).1
    split at h
    · exact afterExponentMark_isFinite ha h
    · exact afterExponentMark_isFinite ha h
    · exact finish_isFinite ha h

theorem readMagnitude_isFinite : readMagnitude negative s = .ok (n, rest) → n.IsFinite := by
  intro h
  unfold readMagnitude at h
  split at h
  · cases h
  split at h
  · cases h
  dsimp only at h
  split at h
  · cases h
  have ha := absorb_le (Nat.zero_le max64) (takeDigits s).1
  split at h
  · exact afterPoint_isFinite ha h
  · exact afterExponentMark_isFinite ha h
  · exact afterExponentMark_isFinite ha h
  split at h
  · exact finish_isFinite ha h
  split at h
  · cases h
    exact whole_isFinite ha
  split at h
  · cases h
    exact isFinite_neg (isFinite_ofNat (ha.trans max64_le))
  · cases h
    exact whole_isFinite (by rwa [Int.natAbs_neg])

/-- No text of digits is read as an infinity, or as no number. -/
theorem yields_readBinary64 : Yields readBinary64 fun x => x.isFinite = true := by
  intro s x rest h
  unfold readBinary64 at h
  split at h
  · cases h
  · obtain ⟨⟨n, t⟩, hn, h⟩ := Except.bind_eq_ok_iff.1 h
    cases h
    exact readMagnitude_isFinite hn
  · split at h
    · obtain ⟨⟨n, t⟩, hn, h⟩ := Except.bind_eq_ok_iff.1 h
      cases h
      exact readMagnitude_isFinite hn
    · exact absurd h stopUnexpected_ne_ok

end Json

end SimilarityClient
