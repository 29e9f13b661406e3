import SimilarityClient.Proofs.Binary64.Hundredths

/-! # The percentage of an entry

A percentage is shown with the nearest number of hundredths, the upper one at a
tie. The number is sought after the similarity was multiplied, and a product
just below a tie may have been rounded to it.
-/

namespace SimilarityClient

open Magnitude Binary64

namespace Entry

def ofHundredths (negative : Bool) (n : Nat) : String :=
  String.ofList (sign negative ++ hundredths n ++ ['%'])

variable {e : Entry} {negative : Bool} {m : Magnitude} {n : Nat}

theorem percentage_eq (hs : e.similarity = number negative m) (h : e.similarity.IsPercentage) :
    e.percentage = ofHundredths negative m.shownHundredths := by
  rw [hs] at h
  rw [percentage, hs, h.twoPlaces_toHundredths, ofHundredths]

/-- What is shown is the nearest number of hundredths, or the one above it where the similarity
is lifted to a tie. -/
theorem exists_shownHundredths (h : (number negative m).IsPercentage) :
    ∃ n, IsRoundedUp (m.units * 100) unitsPerOne n ∧
      m.shownHundredths = if IsLifted (m.units * 100) n then n + 1 else n := by
  have hle := h.shownHundredths_le
  have hlt : m.shownHundredths < fractionCount := hle.trans_lt (by decide)
  rcases rounded_twice hlt m.shownHundredths_isRoundedUp with ⟨hr, hn⟩ | ⟨k, hk, hl⟩
  · exact ⟨_, hr, (if_neg hn).symm⟩
  · have hkf : k < fractionCount := by omega
    exact ⟨k, hl.isRoundedUp hkf, by rw [if_pos hl, hk]⟩

theorem val_eq_zero_of_negative (h : (number true m).IsPercentage) : m.val = 0 := by
  have hn := h.not_below
  have h0 : ((0 : Magnitude).val : Int) = 0 := rfl
  simp only [lt, zero, place, if_true, Bool.false_eq_true, if_false, decide_eq_false_iff_not] at hn
  omega

/-- A percentage from zero to a hundred is shown with the nearest number of hundredths, and with
the upper one at a tie, but for one that lies below a tie by at most half of the last bit of its
hundredfold. Only the negative zero is shown with a sign. -/
theorem percentage_rounds (e : Entry) (h : e.similarity.IsPercentage) :
    ∃ negative m n, e.similarity = number negative m ∧ (negative = true → m.val = 0) ∧
      IsRoundedUp (m.units * 100) unitsPerOne n ∧
      (¬IsLifted (m.units * 100) n → e.percentage = ofHundredths negative n) ∧
      (IsLifted (m.units * 100) n → e.percentage = ofHundredths negative (n + 1) ∧
        2 * fractionCount * ((2 * n + 1) * unitsPerOne) ≤
          (2 * fractionCount + 1) * (2 * (m.units * 100))) := by
  cases hs : e.similarity with
  | nan => exact absurd hs h.not_nan
  | number negative m =>
    have hp := percentage_eq hs h
    rw [hs] at h
    obtain ⟨n, hr, hn⟩ := exists_shownHundredths h
    refine ⟨negative, m, n, rfl, ?_, hr, fun hl => ?_, fun hl => ⟨?_, hl.near⟩⟩
    · rintro rfl
      exact val_eq_zero_of_negative h
    · rw [hp, hn, if_neg hl]
    · rw [hp, hn, if_pos hl]

/-- A tie is shown with the upper number of hundredths. -/
theorem percentage_rounds_tie :
    (⟨"a.py", "b.py", ofBits 0x4028400000000000⟩ : Entry).percentage = "12.13%" := by
  obtain ⟨negative, m, n, hs, -, hr, hp, -⟩ :=
    percentage_rounds ⟨"a.py", "b.py", ofBits 0x4028400000000000⟩ (by decide +kernel)
  obtain ⟨rfl, rfl⟩ : false = negative ∧ (⟨0x4028400000000000, by decide⟩ : Magnitude) = m := by
    injection hs with h1 h2
    exact ⟨h1, h2⟩
  have hn : n = 1213 := hr.unique ⟨by decide +kernel, by decide +kernel⟩
  rw [hn] at hp
  exact hp (by decide +kernel)

/-- The nearest number of hundredths is one, the lower one, and two are shown. -/
theorem percentage_lifted :
    (ofBits 0x3F8EB851EB851EB8).IsPercentage ∧
      IsRoundedUp (units ⟨0x3F8EB851EB851EB8, by decide⟩ * 100) unitsPerOne 1 ∧
      (⟨"a.py", "b.py", ofBits 0x3F8EB851EB851EB8⟩ : Entry).percentage = "0.02%" ∧
      ofHundredths false 1 = "0.01%" :=
  ⟨by decide +kernel, ⟨by decide +kernel, by decide +kernel⟩, by decide +kernel, by decide +kernel⟩

/-- A percentage with two places of the similarity itself, the even one at a tie. -/
def exactPercentage (e : Entry) : String := String.ofList (e.similarity.twoPlaces ++ ['%'])

theorem ofHundredths_inj {k : Nat} : ofHundredths negative n = ofHundredths negative k ↔ n = k := by
  constructor
  · intro h
    have hl := String.ofList_injective h
    exact hundredths_injective (List.append_cancel_left (List.append_cancel_right hl))
  · rintro rfl
    rfl

theorem exactPercentage_eq (hs : e.similarity = number negative m)
    (h : e.similarity.IsPercentage) :
    e.exactPercentage = ofHundredths negative (roundQuotient (m.units * 100) unitsPerOne) := by
  rw [hs] at h
  rw [exactPercentage, hs, twoPlaces, textWith, h.isInfinite, if_neg Bool.false_ne_true,
    ofHundredths]

/-- Both percentages of an entry have one text, unless the similarity is lifted to a tie or is
a tie with an even number of hundredths below. -/
theorem exactPercentage_eq_iff (hs : e.similarity = number negative m)
    (h : e.similarity.IsPercentage) (hr : IsRoundedUp (m.units * 100) unitsPerOne n) :
    e.exactPercentage = e.percentage ↔ ¬IsLifted (m.units * 100) n ∧
      ¬(2 * (n * unitsPerOne) = 2 * (m.units * 100) + unitsPerOne ∧ n % 2 = 1) := by
  have hp := h
  rw [hs] at hp
  obtain ⟨n', hr', hn⟩ := exists_shownHundredths hp
  obtain rfl : n = n' := hr.unique hr'
  rw [exactPercentage_eq hs h, percentage_eq hs h, ofHundredths_inj, hn,
    ← hr.roundQuotient_eq_iff unitsPerOne_pos]
  by_cases hl : IsLifted (m.units * 100) n
  · simp only [hl, if_true, not_true_eq_false, false_and, iff_false]
    -- Rounding once never goes above the nearest number.
    intro he
    have hq := (roundQuotient_isRounded (m.units * 100) unitsPerOne_pos).lower
    have hu := hr.upper
    rw [he, Nat.add_mul] at hq
    omega
  · simp only [hl, if_false, not_false_eq_true, true_and]

end Entry

end SimilarityClient
