import SimilarityClient.Proofs.Json.Reread
import SimilarityClient.Report.Basic

/-! # Hundredths of a percentage

A percentage is multiplied by a hundred, rounded to a whole number, divided by a
hundred and written with two places. The division and the two places give the
whole number back. The product is a rounded one: it may be a tie where the exact
product lies below it.
-/

namespace SimilarityClient

/-- A whole number is nearest to a quotient, and above it where two are equally near. -/
structure IsRoundedUp (num den n : Nat) : Prop where
  lower : 2 * (n * den) ≤ 2 * num + den
  upper : 2 * num < 2 * (n * den) + den

section Quotients

variable {num den n n' : Nat}

theorem IsRoundedUp.le (h : IsRoundedUp num den n) (h' : IsRoundedUp num den n') : n' ≤ n := by
  by_contra hlt
  have hm := Nat.mul_le_mul_right den (show n + 1 ≤ n' by omega)
  have hu := h.upper
  have hl := h'.lower
  rw [Nat.add_mul] at hm
  omega

theorem IsRoundedUp.unique (h : IsRoundedUp num den n) (h' : IsRoundedUp num den n') : n = n' :=
  Nat.le_antisymm (h'.le h) (h.le h')

theorem roundQuotient_eq (hd : 0 < den) (hl : 2 * (n * den) < 2 * num + den)
    (hu : 2 * num < 2 * (n * den) + den) : roundQuotient num den = n := by
  have hr := roundQuotient_isRounded num hd
  generalize roundQuotient num den = r at hr
  have h1 := hr.lower
  have h2 := hr.upper
  rcases Nat.lt_trichotomy r n with h | h | h
  · have hm := Nat.mul_le_mul_right den (show r + 1 ≤ n by omega)
    rw [Nat.add_mul] at hm
    omega
  · exact h
  · have hm := Nat.mul_le_mul_right den (show n + 1 ≤ r by omega)
    rw [Nat.add_mul] at hm
    omega

/-- The two ways to round differ at a tie below an odd number. -/
theorem IsRoundedUp.roundQuotient_eq_iff (hd : 0 < den) (h : IsRoundedUp num den n) :
    roundQuotient num den = n ↔ ¬(2 * (n * den) = 2 * num + den ∧ n % 2 = 1) := by
  rcases h.lower.lt_or_eq with hl | he
  · exact ⟨fun _ ht => absurd ht.1 hl.ne, fun _ => roundQuotient_eq hd hl h.upper⟩
  have hr := roundQuotient_isRounded num hd
  generalize roundQuotient num den = r at hr
  constructor
  · rintro rfl ⟨-, ho⟩
    exact absurd he (hr.lower_lt ho).ne
  · intro ht
    have hn : n % 2 = 0 := by omega
    by_contra hne
    rcases Nat.lt_or_gt_of_ne hne with hlt | hlt
    · have hm := Nat.mul_le_mul_right den (show r + 1 ≤ n by omega)
      have h2 := hr.upper
      rw [Nat.add_mul] at hm
      -- The number below is odd, and an odd number is not half away.
      have hm' : (r + 1) * den = n * den := by rw [Nat.add_mul]; omega
      have hr1 : r + 1 = n := Nat.eq_of_mul_eq_mul_right hd hm'
      have h3 := hr.upper_lt (by omega)
      omega
    · have hm := Nat.mul_le_mul_right den (show n + 1 ≤ r by omega)
      have h1 := hr.lower
      rw [Nat.add_mul] at hm
      omega

end Quotients

namespace Magnitude

variable {m : Magnitude} {code k n x : Nat}

theorem two_mul_half : 2 * (unitsPerOne / 2) = unitsPerOne :=
  Nat.mul_div_cancel' ⟨2 ^ 1073, by rw [unitsPerOne_eq, ← pow_succ']⟩

theorem exists_tie (h : k < fractionCount) :
    ∃ code, 2 * unitsOf code = (2 * k + 1) * unitsPerOne := by
  obtain ⟨code, hc⟩ := exists_unitsOf_eq (show 2 * k + 1 ≤ 2 * fractionCount by omega) 1073
  exact ⟨code, by rw [hc, unitsPerOne_eq, pow_succ' 2 1073, Nat.mul_left_comm]⟩

theorem rounded_le_tie (hk : k < fractionCount) (h : 2 * x ≤ (2 * k + 1) * unitsPerOne) :
    2 * unitsOf (codeOf x 1) ≤ (2 * k + 1) * unitsPerOne := by
  obtain ⟨code, hc⟩ := exists_tie hk
  have hle : codeOf x 1 ≤ code := codeOf_le Nat.one_pos (by omega)
  have := unitsOf_strictMono.monotone hle
  omega

theorem tie_le_rounded (hk : k < fractionCount) (h : (2 * k + 1) * unitsPerOne ≤ 2 * x) :
    (2 * k + 1) * unitsPerOne ≤ 2 * unitsOf (codeOf x 1) := by
  obtain ⟨code, hc⟩ := exists_tie hk
  have hle : code ≤ codeOf x 1 := le_codeOf Nat.one_pos (by omega)
  have := unitsOf_strictMono.monotone hle
  omega

/-- A number lies below a tie and is rounded to it as a code. -/
structure IsLifted (x k : Nat) : Prop where
  below : 2 * x < (2 * k + 1) * unitsPerOne
  lifted : 2 * unitsOf (codeOf x 1) = (2 * k + 1) * unitsPerOne

instance (x k : Nat) : Decidable (IsLifted x k) :=
  decidable_of_iff (2 * x < (2 * k + 1) * unitsPerOne ∧
    2 * unitsOf (codeOf x 1) = (2 * k + 1) * unitsPerOne) ⟨fun h => ⟨h.1, h.2⟩, fun h => ⟨h.1, h.2⟩⟩

/-- A number that is lifted is rounded to the whole number below the tie. -/
theorem IsLifted.isRoundedUp (h : IsLifted x k) (hk : k < fractionCount) :
    IsRoundedUp x unitsPerOne k := by
  have hb := h.below
  rw [Nat.add_mul, Nat.mul_assoc] at hb
  refine ⟨?_, by omega⟩
  cases k with
  | zero =>
    rw [Nat.zero_mul]
    exact Nat.zero_le _
  | succ j =>
    by_contra hlt
    have hx : 2 * x ≤ (2 * j + 1) * unitsPerOne := by
      rw [Nat.add_mul] at hlt ⊢
      rw [Nat.mul_assoc]
      omega
    -- Below the tie before, it could not have been rounded to this one.
    have ht := rounded_le_tie (Nat.lt_of_succ_lt hk) hx
    rw [h.lifted] at ht
    exact absurd (Nat.le_of_mul_le_mul_right ht unitsPerOne_pos) (by omega)

theorem IsLifted.near (h : IsLifted x k) :
    2 * fractionCount * ((2 * k + 1) * unitsPerOne) ≤ (2 * fractionCount + 1) * (2 * x) := by
  have hc : fractionCount < codeOf x 1 := by
    by_contra hle
    have hu := unitsOf_of_le (Nat.le_of_not_lt hle)
    have hU : 2 * fractionCount < unitsPerOne := by
      rw [unitsPerOne_eq, fractionCount_eq, ← pow_succ']
      exact pow_lt_pow_right₀ (by decide : 1 < 2) (by decide)
    have hl := h.lifted
    rw [Nat.add_mul] at hl
    omega
  have hn := ((codeOf_isNearest x Nat.one_pos).isClose hc).le
  rw [Nat.mul_one] at hn
  rw [← h.lifted]
  calc 2 * fractionCount * (2 * unitsOf (codeOf x 1))
    _ = 2 * (2 * fractionCount * unitsOf (codeOf x 1)) := Nat.mul_left_comm _ _ _
    _ ≤ 2 * (2 * fractionCount * x + x) := Nat.mul_le_mul_left 2 hn
    _ = (2 * fractionCount + 1) * (2 * x) := by ring

/-- Where a number is rounded to a code first and to a whole number then, the whole number is
nearest, unless the number has been lifted. -/
theorem rounded_twice (hn : n < fractionCount)
    (h : IsRoundedUp (unitsOf (codeOf x 1)) unitsPerOne n) :
    (IsRoundedUp x unitsPerOne n ∧ ¬IsLifted x n) ∨ ∃ k, n = k + 1 ∧ IsLifted x k := by
  have hl := h.lower
  have hu := h.upper
  have hux : 2 * x < 2 * (n * unitsPerOne) + unitsPerOne := by
    by_contra hlt
    have ht := tie_le_rounded (x := x) hn (by rw [Nat.add_mul, Nat.mul_assoc]; omega)
    rw [Nat.add_mul, Nat.mul_assoc] at ht
    omega
  by_cases hlx : 2 * (n * unitsPerOne) ≤ 2 * x + unitsPerOne
  · refine .inl ⟨⟨hlx, hux⟩, fun hs => ?_⟩
    have := hs.lifted
    rw [Nat.add_mul, Nat.mul_assoc] at this
    omega
  · obtain ⟨k, rfl⟩ : ∃ k, n = k + 1 := Nat.exists_eq_add_one.2 (Nat.pos_of_ne_zero fun h0 => by
      rw [h0, Nat.zero_mul] at hlx
      omega)
    have hk : (2 * k + 1) * unitsPerOne = 2 * (k * unitsPerOne) + unitsPerOne := by
      rw [Nat.add_mul, Nat.mul_assoc, Nat.one_mul]
    rw [Nat.add_mul] at hlx hl
    have hb : 2 * x < (2 * k + 1) * unitsPerOne := by omega
    have ht := rounded_le_tie (x := x) (by omega) hb.le
    exact .inr ⟨k, rfl, hb, by omega⟩

theorem small_le (h : n ≤ 10000) : n ≤ 10 ^ 308 :=
  (h.trans (by decide : 10000 ≤ 10 ^ 4)).trans (ten_pow_le (by decide))

theorem units_ofWhole_small (h : n ≤ 10000) : (ofWhole n).units = n * unitsPerOne := by
  have hF : n ≤ 2 * fractionCount := h.trans (by decide)
  have hl := small_le h
  rw [← Nat.mul_one n, ← Nat.pow_zero 2] at hl ⊢
  exact units_ofWhole hF hl

theorem units_hundred : (ofWhole 100).units = 100 * unitsPerOne :=
  units_ofWhole_small (by decide)

theorem hundred_pos : 0 < 100 * unitsPerOne := Nat.mul_pos (by decide) unitsPerOne_pos

/-- A rounded hundredth part is nearer to the exact one than half of a hundredth. -/
theorem division_near (h : n ≤ 10000) :
    2 * (n * unitsPerOne) < 2 * (unitsOf (codeOf (n * unitsPerOne * unitsPerOne)
      (100 * unitsPerOne)) * 100) + unitsPerOne ∧
    2 * (unitsOf (codeOf (n * unitsPerOne * unitsPerOne) (100 * unitsPerOne)) * 100) <
      2 * (n * unitsPerOne) + unitsPerOne := by
  have hn := codeOf_isNearest (n * unitsPerOne * unitsPerOne) hundred_pos
  have hU : 1000 < unitsPerOne := by
    rw [unitsPerOne_eq]
    exact (by decide : 1000 < 2 ^ 10).trans_le (pow_le_pow_right₀ (by decide) (by decide))
  have hm := Nat.mul_le_mul_right unitsPerOne h
  have hF : fractionCount = 4503599627370496 := rfl
  rcases Nat.lt_or_ge fractionCount (codeOf (n * unitsPerOne * unitsPerOne)
    (100 * unitsPerOne)) with hc | hc
  · have hcl := hn.isClose hc
    generalize unitsOf (codeOf _ _) = v at hcl ⊢
    have hge : 2 * fractionCount * (n * unitsPerOne) ≤
        2 * fractionCount * (v * 100) + v * 100 :=
      Nat.le_of_mul_le_mul_right (by linarith [hcl.ge]) unitsPerOne_pos
    have hle : 2 * fractionCount * (v * 100) ≤
        2 * fractionCount * (n * unitsPerOne) + n * unitsPerOne :=
      Nat.le_of_mul_le_mul_right (by linarith [hcl.le]) unitsPerOne_pos
    rw [hF] at hge hle
    generalize n * unitsPerOne = w at *
    generalize unitsPerOne = units at *
    omega
  · obtain ⟨h1, h2⟩ := hn.half_of_le hc
    generalize unitsOf (codeOf _ _) = v at h1 h2 ⊢
    have hle : 2 * (v * 100) ≤ 2 * (n * unitsPerOne) + 100 :=
      Nat.le_of_mul_le_mul_right (by linarith [h1]) unitsPerOne_pos
    have hge : 2 * (n * unitsPerOne) ≤ 2 * (v * 100) + 100 :=
      Nat.le_of_mul_le_mul_right (by linarith [h2]) unitsPerOne_pos
    generalize n * unitsPerOne = w at *
    generalize unitsPerOne = units at *
    omega

theorem codeOf_division_lt (h : n ≤ 10000) :
    codeOf (n * unitsPerOne * unitsPerOne) (100 * unitsPerOne) < infinityCode := by
  refine codeOf_lt_infinityCode hundred_pos ?_
  have h1 : n * unitsPerOne ≤ unitsOf (infinityCode - 1) :=
    (Nat.mul_le_mul_right _ (small_le h)).trans scales.2.2.2.2
  exact Nat.mul_le_mul h1 (Nat.le_mul_of_pos_left _ (by decide))

theorem roundQuotient_division (h : n ≤ 10000) : roundQuotient
    ((ofRatio (n * unitsPerOne * unitsPerOne) (100 * unitsPerOne)).units * 100) unitsPerOne = n := by
  rw [units_ofRatio (codeOf_division_lt h)]
  exact roundQuotient_eq unitsPerOne_pos (division_near h).1 (division_near h).2

def hundredfold (m : Magnitude) : Magnitude := ofRatio (m.units * (100 * unitsPerOne)) unitsPerOne

/-- The nearest whole number, the upper one at a tie. -/
def rounded (m : Magnitude) : Magnitude := ofWhole ((m.units + unitsPerOne / 2) / unitsPerOne)

def hundredth (m : Magnitude) : Magnitude :=
  if m.isInfinite then infinity else ofRatio (m.units * unitsPerOne) (100 * unitsPerOne)

/-- The magnitude that is shown with two places. -/
def toHundredths (m : Magnitude) : Magnitude := m.hundredfold.rounded.hundredth

section Order

variable {m' : Magnitude}

theorem hundredfold_mono (h : m ≤ m') : m.hundredfold ≤ m'.hundredfold :=
  ofRatio_mono unitsPerOne_pos (Nat.mul_le_mul_right _ (units_mono h))

theorem rounded_mono (h : m ≤ m') : m.rounded ≤ m'.rounded := by
  have hu := Nat.add_le_add_right (units_mono h) (unitsPerOne / 2)
  exact ofRatio_mono Nat.one_pos (Nat.mul_le_mul_right _ (Nat.div_le_div_right hu))

theorem isInfinite_iff : m.isInfinite = true ↔ m = infinity := by
  rw [isInfinite, beq_iff_eq, Fin.ext_iff]
  rfl

theorem le_infinity (m : Magnitude) : m ≤ infinity := Nat.le_of_lt_succ m.isLt

theorem hundredth_mono (h : m ≤ m') : m.hundredth ≤ m'.hundredth := by
  unfold hundredth
  split
  · rename_i hi
    -- Nothing lies above an infinity.
    rw [isInfinite_iff] at hi
    have hi' : m' = infinity := Fin.le_antisymm (le_infinity m') (hi ▸ h)
    split
    · exact le_infinity infinity
    · rename_i hf
      exact absurd (isInfinite_iff.2 hi') hf
  · split
    · exact le_infinity _
    · exact ofRatio_mono hundred_pos (Nat.mul_le_mul_right _ (units_mono h))

/-- Each of the steps keeps the order, and so do all of them. -/
theorem toHundredths_mono (h : m ≤ m') : m.toHundredths ≤ m'.toHundredths :=
  hundredth_mono (rounded_mono (hundredfold_mono h))

theorem toHundredths_zero : toHundredths 0 = 0 := by decide +kernel

end Order

/-- The hundredfold of a percentage is a code as its exact hundredfold is. -/
theorem codeOf_product (units : Nat) :
    codeOf (units * (100 * unitsPerOne)) unitsPerOne = codeOf (units * 100) 1 := by
  have hn := codeOf_isNearest (units * 100) Nat.one_pos
  exact (hn.of_mul_eq Nat.one_pos unitsPerOne_pos (by ring)).eq_codeOf unitsPerOne_pos

theorem rounded_le_whole {x : Nat} (hn : n ≤ 10000) (h : x ≤ n * unitsPerOne) :
    unitsOf (codeOf x 1) ≤ n * unitsPerOne := by
  rw [← units_ofWhole_small hn] at h ⊢
  exact unitsOf_strictMono.monotone (codeOf_le Nat.one_pos (by rwa [Nat.mul_one]))

/-- The number of hundredths that a percentage is shown to have. -/
def shownHundredths (m : Magnitude) : Nat :=
  (unitsOf (codeOf (m.units * 100) 1) + unitsPerOne / 2) / unitsPerOne

theorem shownHundredths_isRoundedUp (m : Magnitude) :
    IsRoundedUp (unitsOf (codeOf (m.units * 100) 1)) unitsPerOne m.shownHundredths := by
  have hd := Nat.div_add_mod' (unitsOf (codeOf (m.units * 100) 1) + unitsPerOne / 2) unitsPerOne
  have hm := Nat.mod_lt (unitsOf (codeOf (m.units * 100) 1) + unitsPerOne / 2) unitsPerOne_pos
  have hh := two_mul_half
  rw [← shownHundredths] at hd
  constructor <;> omega

end Magnitude

namespace Binary64

open Magnitude Json

variable {negative : Bool} {m : Magnitude}

theorem IsPercentage.units_le (h : IsPercentage (number negative m)) :
    m.units * 100 ≤ 10000 * unitsPerOne := by
  have hle := unitsOf_strictMono.monotone h.le
  rw [← units, ← units, units_hundred] at hle
  omega

theorem IsPercentage.shownHundredths_le (h : IsPercentage (number negative m)) :
    m.shownHundredths ≤ 10000 := by
  have hy := rounded_le_whole (Nat.le_refl _) h.units_le
  have hl := m.shownHundredths_isRoundedUp.lower
  by_contra hlt
  have hm := Nat.mul_le_mul_right unitsPerOne (show 10001 ≤ m.shownHundredths by omega)
  have hU := unitsPerOne_pos
  omega

theorem toHundredths_number (h : m.isInfinite = false) :
    (number negative m).toHundredths = number negative m.toHundredths := by
  have hs : (negative != false) = negative := by cases negative <;> rfl
  have hl : 100 ≤ 10 ^ 308 := small_le (by decide)
  have hi : (ofWhole 100).isInfinite = false := isInfinite_ofWhole hl
  have hz : (ofWhole 100).isZero = false := isZero_ofWhole (by decide) hl
  have hmul : (number negative m).mul hundred = number negative m.hundredfold := by
    change (number negative m).mul (number false (ofWhole 100)) = _
    rw [mul_number h hi, hs, units_hundred]
    rfl
  rw [Binary64.toHundredths, hmul]
  change (number negative m.hundredfold.rounded).div (number false (ofWhole 100)) = _
  rw [Magnitude.toHundredths, hundredth]
  split
  · rename_i hinf
    simp only [Binary64.div, hinf, hi, hz, hs, Bool.and_false, Bool.or_false, Bool.false_eq_true,
       if_false, if_true]
  · rename_i hfin
    rw [div_number (Bool.eq_false_of_not_eq_true hfin) hi hz, hs, units_hundred]

theorem IsPercentage.toHundredths_eq (h : IsPercentage (number negative m)) :
    (number negative m).toHundredths = number negative (ofRatio
      (m.shownHundredths * unitsPerOne * unitsPerOne) (100 * unitsPerOne)) := by
  have hsmall := h.shownHundredths_le
  have hfin : codeOf (m.units * 100) 1 < infinityCode := by
    refine codeOf_lt_infinityCode Nat.one_pos ?_
    rw [Nat.mul_one]
    exact h.units_le.trans ((Nat.mul_le_mul_right _ (small_le (Nat.le_refl _))).trans scales.2.2.2.2)
  have hu : m.hundredfold.units = unitsOf (codeOf (m.units * 100) 1) := by
    rw [hundredfold, units_ofRatio (by rwa [codeOf_product]), codeOf_product]
  have hr : m.hundredfold.rounded = ofWhole m.shownHundredths := by
    rw [rounded, hu, shownHundredths]
  rw [toHundredths_number h.isInfinite, Magnitude.toHundredths, hr, hundredth,
    isInfinite_ofWhole (small_le hsmall), if_neg Bool.false_ne_true, units_ofWhole_small hsmall]

theorem IsPercentage.twoPlaces_toHundredths (h : IsPercentage (number negative m)) :
    (number negative m).toHundredths.twoPlaces = sign negative ++ hundredths m.shownHundredths := by
  have hsmall := h.shownHundredths_le
  have hi := isInfinite_ofRatio (codeOf_division_lt hsmall)
  rw [h.toHundredths_eq, twoPlaces, textWith, hi, if_neg Bool.false_ne_true,
    roundQuotient_division hsmall]

def places (n : Nat) : List Char :=
  List.replicate (2 - (Text.decimal (n % 100)).length) '0' ++ Text.decimal (n % 100)

theorem length_places (n : Nat) : (places n).length = 2 := by
  have hl : (Text.decimal (n % 100)).length ≤ 2 :=
    (Nat.length_toDigits_le_iff (by decide) (by decide)).2 (Nat.mod_lt _ (by decide))
  rw [places, List.length_append, List.length_replicate]
  omega

theorem places_value (n : Nat) : Nat.ofDigitChars 10 (places n) 0 = n % 100 := by
  rw [places, Nat.ofDigitChars_append, Nat.ofDigitChars_replicate_zero, Nat.mul_zero,
    Text.ofDigitChars_decimal]

theorem hundredths_injective {a b : Nat} (h : hundredths a = hundredths b) : a = b := by
  have h' : Text.decimal (a / 100) ++ ('.' :: places a) =
      Text.decimal (b / 100) ++ ('.' :: places b) := by
    simpa [hundredths, places] using h
  obtain ⟨hw, hp⟩ := List.append_inj' h' (by simp [length_places])
  have hw := Text.decimal_injective hw
  have hv := congrArg (Nat.ofDigitChars 10 · 0) (List.tail_eq_of_cons_eq hp)
  simp only [places_value] at hv
  omega

end Binary64

end SimilarityClient
