import SimilarityClient.Binary64.Decimal
import SimilarityClient.Proofs.Binary64.Nearest

/-! # Shortest decimals read back

The point that is found lies where everything is rounded to the code. A grid as
fine as half a gap has such a point, so no more than eighteen digits are needed.
-/

namespace SimilarityClient.Magnitude

variable {tie : Tie} {code grid d : Nat}

theorem scales : unitsPerOne = 2 ^ 1074 ∧ fineScale = 5 ^ 1074 ∧ 2 * 10 ^ 750 ≤ fineScale ∧
    unitsOf infinityCode * fineScale < 10 ^ 1500 ∧
    10 ^ 308 * unitsPerOne ≤ unitsOf (infinityCode - 1) := by decide +kernel

theorem unitsPerOne_eq : unitsPerOne = 2 ^ 1074 := scales.1

theorem fineScale_eq : fineScale = 5 ^ 1074 := scales.2.1

theorem unitsPerOne_pos : 0 < unitsPerOne := by
  rw [unitsPerOne_eq]
  exact pow_pos (by decide) 1074

theorem fineScale_pos : 0 < fineScale := by
  rw [fineScale_eq]
  exact pow_pos (by decide) 1074

theorem two_pow_mul_five_pow (n : Nat) : 2 ^ n * 5 ^ n = 10 ^ n := (Nat.mul_pow 2 5 n).symm

theorem unitsPerOne_mul_fineScale : unitsPerOne * fineScale = 10 ^ 1074 := by
  rw [unitsPerOne_eq, fineScale_eq, two_pow_mul_five_pow]

theorem roundsTo_iff (code x : Nat) :
    roundsTo code (2 * x) = true ↔ IsNearest x fineScale code := by
  rw [roundsTo, lowEnd, highEnd]
  constructor
  · intro h
    split at h <;> simp only [Bool.and_eq_true, decide_eq_true_eq] at h
    · exact ⟨h.1, h.2, by omega, by omega⟩
    · exact ⟨h.1.le, h.2.le, fun _ => h.1, fun _ => h.2⟩
  · intro h
    split <;> simp only [Bool.and_eq_true, decide_eq_true_eq]
    · exact ⟨h.lower, h.upper⟩
    · exact ⟨h.lower_lt (by omega), h.upper_lt (by omega)⟩

theorem isNearest_of_gridPoint? (h : gridPoint? tie code grid = some d) :
    IsNearest (d * grid) fineScale code := by
  rw [← roundsTo_iff]
  rw [gridPoint?.eq_def] at h
  dsimp only at h
  generalize unitsOf code * fineScale / grid = q at h
  split at h
  · cases h
  · rename_i hq _
    cases h
    exact hq
  · rename_i _ hq'
    cases h
    exact hq'
  · rename_i hq hq'
    split at h
    · cases h
      exact hq
    split at h
    · cases h
      exact hq'
    cases tie with
    | up =>
      cases h
      exact hq'
    | even =>
      cases h
      rcases Nat.mod_two_eq_zero_or_one q with hp | hp <;> rw [hp]
      · exact hq
      · exact hq'

theorem isNearest_of_le {x den : Nat} (hl : unitsOf code * den ≤ x)
    (hu : 2 * x < (2 * unitsOf code + gap code) * den) (hd : 0 < den) : IsNearest x den code := by
  have hv := isNearest_unitsOf code hd
  have he : 2 * unitsOf code + gap code = unitsOf code + unitsOf (code + 1) := by
    rw [unitsOf_succ]
    ring
  rw [he] at hu
  refine ⟨?_, hu.le, fun ho => ?_, fun _ => hu⟩
  · have := hv.lower
    omega
  · have := hv.lower_lt ho
    omega

/-- A grid that is no wider than half a gap has a point near enough. -/
theorem exists_gridPoint? (tie : Tie) (hg : 0 < grid) (h : 2 * grid ≤ gap code * fineScale) :
    ∃ d, gridPoint? tie code grid = some d := by
  have hv := Nat.div_add_mod' (unitsOf code * fineScale) grid
  have hr := Nat.mod_lt (unitsOf code * fineScale) hg
  rw [gridPoint?.eq_def]
  dsimp only
  generalize hq : unitsOf code * fineScale / grid = q at hv ⊢
  have hp : roundsTo code (2 * (q * grid)) = true ∨
      roundsTo code (2 * ((q + 1) * grid)) = true := by
    have hs : (q + 1) * grid = q * grid + grid := by ring
    have hg' : (2 * unitsOf code + gap code) * fineScale =
        2 * (unitsOf code * fineScale) + gap code * fineScale := by ring
    rw [roundsTo_iff, roundsTo_iff]
    rcases Nat.eq_zero_or_pos (unitsOf code * fineScale % grid) with h0 | h0
    · left
      refine isNearest_of_le ?_ ?_ fineScale_pos <;> omega
    · right
      refine isNearest_of_le ?_ ?_ fineScale_pos <;> omega
  split
  · rename_i h0 h1
    simp [h0, h1] at hp
  · exact ⟨q, rfl⟩
  · exact ⟨q + 1, rfl⟩
  · split
    · exact ⟨q, rfl⟩
    split
    · exact ⟨q + 1, rfl⟩
    cases tie
    · exact ⟨q + 1, rfl⟩
    · exact ⟨q + q % 2, rfl⟩

/-- The search ends at a point, and no coarser grid that it tried has one. -/
theorem seek_spec (tie : Tie) (code n : Nat) : ∃ d j, seek tie code n = (d, j) ∧
    IsNearest (d * 10 ^ j) fineScale code ∧ j ≤ n ∧
    ∀ i, j < i → i ≤ n → gridPoint? tie code (10 ^ i) = none := by
  induction n with
  | zero =>
    refine ⟨_, 0, rfl, ?_, Nat.le_refl 0, fun i h h' => by omega⟩
    simpa using isNearest_unitsOf code fineScale_pos
  | succ n ih =>
    rw [seek, Nat.pow_eq]
    cases hp : gridPoint? tie code (10 ^ (n + 1)) with
    | some d =>
      exact ⟨d, n + 1, rfl, isNearest_of_gridPoint? hp, Nat.le_refl _, fun i h h' => by omega⟩
    | none =>
      obtain ⟨d, j, hs, hn, hj, hi⟩ := ih
      refine ⟨d, j, hs, hn, by omega, fun i h h' => ?_⟩
      rcases Nat.lt_or_ge n i with hlt | hle
      · obtain rfl : i = n + 1 := by omega
        exact hp
      · exact hi i h hle

/-- A point that is rounded to a code, with the bounds that its search keeps. -/
structure IsPoint (code d j : Nat) : Prop where
  nearest : IsNearest (d * 10 ^ j) fineScale code
  pos : 0 < d
  lt : d < 10 ^ 18
  ge : 750 ≤ j
  le : j ≤ 1500

theorem unitsOf_pos (h : code ≠ 0) : 0 < unitsOf code := by
  have := unitsOf_strictMono (Nat.pos_of_ne_zero h)
  omega

theorem two_mul_pow_le_fineScale {j : Nat} (h : j ≤ 750) : 2 * 10 ^ j ≤ fineScale := by
  obtain ⟨-, -, hfine, -⟩ := scales
  have hj : 10 ^ j ≤ 10 ^ 750 := pow_le_pow_right₀ (by decide) h
  generalize 10 ^ 750 = a at hfine hj
  omega

/-- On the grid of `10 ^ 750` half of every gap has a point, so none finer is needed. -/
theorem exists_gridPoint?_pow (tie : Tie) (code : Nat) {j : Nat} (h : j ≤ 750) :
    ∃ d, gridPoint? tie code (10 ^ j) = some d :=
  exists_gridPoint? tie (Nat.pow_pos (by decide))
    ((two_mul_pow_le_fineScale h).trans (Nat.le_mul_of_pos_left _ (gap_pos code)))

theorem length_decimal_le_iff {n k : Nat} (hk : 0 < k) :
    (Text.decimal n).length ≤ k ↔ n < 10 ^ k :=
  Nat.length_toDigits_le_iff (by decide) hk

theorem IsNearest.digits_pos {j : Nat} (hc : code ≠ 0)
    (h : IsNearest (d * 10 ^ j) fineScale code) : 0 < d := by
  refine Nat.pos_of_ne_zero ?_
  rintro rfl
  have hu := Nat.mul_pos (unitsOf_pos hc) fineScale_pos
  have := h.lower
  rw [Nat.add_mul] at this
  omega

/-- A point has no more than eighteen digits if the grid ten times coarser has none. -/
theorem IsNearest.digits_lt {j : Nat} (h : IsNearest (d * 10 ^ j) fineScale code)
    (hn : gridPoint? tie code (10 ^ (j + 1)) = none) : d < 10 ^ 18 := by
  have hg : gap code * fineScale < 20 * 10 ^ j := by
    by_contra hc
    obtain ⟨e, he⟩ := exists_gridPoint? tie (Nat.pow_pos (by decide))
      (show 2 * 10 ^ (j + 1) ≤ gap code * fineScale by rw [pow_succ]; omega)
    rw [hn] at he
    cases he
  have hu : unitsOf code + unitsOf (code + 1) ≤ 5 * fractionCount * gap code := by
    have hl := unitsOf_succ_le code
    have hu := unitsOf_strictMono.monotone (Nat.le_add_right code 1)
    rw [Nat.mul_assoc] at hl ⊢
    omega
  have hd : 2 * (d * 10 ^ j) < 100 * fractionCount * 10 ^ j := by
    calc 2 * (d * 10 ^ j) ≤ (unitsOf code + unitsOf (code + 1)) * fineScale := h.upper
      _ ≤ 5 * fractionCount * gap code * fineScale := Nat.mul_le_mul_right _ hu
      _ = 5 * fractionCount * (gap code * fineScale) := Nat.mul_assoc _ _ _
      _ < 5 * fractionCount * (20 * 10 ^ j) :=
        Nat.mul_lt_mul_of_pos_left hg (Nat.mul_pos (by omega) fractionCount_pos)
      _ = 100 * fractionCount * 10 ^ j := by ring
  have hd' : 2 * d < 100 * fractionCount := by
    refine Nat.lt_of_mul_lt_mul_right (a := 10 ^ j) ?_
    rwa [Nat.mul_assoc]
  have hF : 100 * fractionCount < 2 * 10 ^ 18 := by decide
  omega

theorem IsNearest.digits_le_one {j : Nat} (hc : code ≠ 0)
    (h : IsNearest (d * 10 ^ j) fineScale code) (hj : unitsOf code * fineScale < 10 ^ j) :
    d ≤ 1 := by
  have hg : unitsOf code + unitsOf (code + 1) ≤ 3 * unitsOf code := by
    have := gap_le_unitsOf hc
    rw [unitsOf_succ]
    omega
  have hm := h.upper.trans (Nat.mul_le_mul_right fineScale hg)
  rw [Nat.mul_assoc 3] at hm
  by_contra hd
  have := Nat.mul_le_mul_right (10 ^ j) (show 2 ≤ d by omega)
  omega

theorem exists_shortest (tie : Tie) {m : Magnitude} (hm : m.val ≠ 0) :
    ∃ d j : Nat, m.shortest tie = ⟨d, (j : Int) - 1074⟩ ∧ IsPoint m.val d j := by
  have hu := unitsOf_pos hm
  have hlow : 10 ^ 750 ≤ m.units * fineScale := by
    have := two_mul_pow_le_fineScale (Nat.le_refl 750)
    have := Nat.mul_le_mul_right fineScale hu
    rw [units]
    omega
  have hupp : m.units * fineScale < 10 ^ 1500 :=
    Nat.lt_of_le_of_lt (Nat.mul_le_mul_right _ (unitsOf_strictMono.monotone (Nat.le_of_lt_succ m.isLt)))
      scales.2.2.2.1
  have hn0 : 750 < (Text.decimal (m.units * fineScale)).length := by
    rw [← Nat.not_le, length_decimal_le_iff (by decide)]
    exact Nat.not_lt.2 hlow
  have hn1 := (length_decimal_le_iff (by decide)).2 hupp
  have hval := (length_decimal_le_iff (by omega)).1
    (Nat.le_refl (Text.decimal (m.units * fineScale)).length)
  generalize hn : (Text.decimal (m.units * fineScale)).length = n at hn0 hn1 hval
  obtain ⟨d, j, hs, hnear, hj, hnone⟩ := seek_spec tie m.val n
  refine ⟨d, j, ?_, hnear, hnear.digits_pos hm, ?_, ?_, hj.trans hn1⟩
  · rw [shortest, if_neg hm, hn, hs]
  · rcases hj.lt_or_eq with hlt | rfl
    · exact hnear.digits_lt (hnone (j + 1) (Nat.lt_succ_self j) hlt)
    · have := hnear.digits_le_one hm hval
      omega
  · by_contra hc
    obtain ⟨e, he⟩ := exists_gridPoint?_pow tie m.val (show j + 1 ≤ 750 by omega)
    rw [hnone (j + 1) (Nat.lt_succ_self j) (by omega)] at he
    cases he

end SimilarityClient.Magnitude
