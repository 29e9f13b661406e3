import Mathlib.Order.WithBot
import SimilarityClient.Proofs.Binary64.Hundredths
import SimilarityClient.Proofs.Binary64.Plain

/-! # The order of percentages

Percentages stand in the order of the similarities that they are shown for. A
similarity whose hundredfold is too large is shown as an infinity, and these
stand at the ends of the order.
-/

namespace SimilarityClient

open Magnitude Binary64 Text

/-- The rational numbers with both infinities. -/
abbrev Level := WithBot (WithTop ℚ)

def Level.finite (q : ℚ) : Level := ((q : WithTop ℚ) : WithBot (WithTop ℚ))

theorem Level.finite_le_finite {p q : ℚ} : finite p ≤ finite q ↔ p ≤ q := by
  rw [finite, finite, WithBot.coe_le_coe, WithTop.coe_le_coe]

/-- What a percentage shows: a plain decimal, or an infinity. -/
inductive Shown
  | decimal (d : PlainDecimal)
  | infinite (negative : Bool)

namespace Shown

def number : Shown → List Char
  | decimal d => d.text
  | infinite negative => sign negative ++ "inf".toList

def text (x : Shown) : String := String.ofList (x.number ++ ['%'])

/-- Where it stands among the numbers. -/
def level : Shown → Level
  | decimal d => .finite d.value
  | infinite true => ⊥
  | infinite false => ⊤

theorem number_infinite_ne (d : PlainDecimal) (negative : Bool) :
    (infinite negative).number ≠ d.text := by
  intro h
  have hm : 'f' ∈ (infinite negative).number :=
    List.mem_append_right _ (by decide : 'f' ∈ "inf".toList)
  rw [h] at hm
  rcases d.mem_text hm with hc | hc | hc <;> cases hc

theorem text_injective : Function.Injective text := by
  intro x y h
  have hn : x.number = y.number := List.append_cancel_right (String.ofList_injective h)
  cases x with
  | decimal c =>
    cases y with
    | decimal d => exact congrArg decimal (PlainDecimal.text_injective hn)
    | infinite t => exact absurd hn.symm (number_infinite_ne c t)
  | infinite s =>
    cases y with
    | decimal d => exact absurd hn (number_infinite_ne d s)
    | infinite t =>
      cases s <;> cases t <;> first | rfl | exact absurd hn (by decide)

variable {m m' : Magnitude} {negative : Bool} {n n' : Nat}

def hundredthsOf (negative : Bool) (n : Nat) : PlainDecimal where
  negative := negative
  whole := Text.decimal (n / 100)
  places := places n
  whole_digits := isDigits_decimal _
  whole_ne_nil := decimal_ne_nil _
  places_digits := (isDigits_replicate _).append (isDigits_decimal _)

theorem text_hundredthsOf : (hundredthsOf negative n).text = sign negative ++ hundredths n := by
  have hp : places n ≠ [] := List.ne_nil_of_length_eq_add_one (length_places n)
  rw [PlainDecimal.text_of_places hp, hundredths]
  simp only [hundredthsOf, places, List.cons_append, List.append_assoc]

theorem magnitude_hundredthsOf : (hundredthsOf negative n).magnitude = n / 100 := by
  have hv : Nat.ofDigitChars 10 (Text.decimal (n / 100) ++ places n) 0 = n := by
    rw [Nat.ofDigitChars_append, ofDigitChars_decimal, Nat.ofDigitChars_eq_ofDigitChars_zero,
      places_value, length_places]
    omega
  have hd := PlainDecimal.magnitude_eq (d := hundredthsOf negative n) hv (length_places n)
  rw [hd]
  norm_num

theorem level_false : (decimal (hundredthsOf false n)).level = .finite (n / 100) := by
  rw [level, PlainDecimal.value, magnitude_hundredthsOf]
  rfl

theorem level_true : (decimal (hundredthsOf true n)).level = .finite (-(n / 100)) := by
  rw [level, PlainDecimal.value, magnitude_hundredthsOf]
  rfl

theorem div_hundred_le (h : n ≤ n') : (n / 100 : ℚ) ≤ n' / 100 :=
  div_le_div_of_nonneg_right (Nat.cast_le.2 h) (by norm_num)

/-- What is shown for a magnitude of which the hundredths are taken. -/
def ofMagnitude (negative : Bool) (m : Magnitude) : Shown :=
  if m.isInfinite then infinite negative
  else decimal (hundredthsOf negative (roundQuotient (m.units * 100) unitsPerOne))

theorem roundQuotient_units_le (h : m ≤ m') :
    roundQuotient (m.units * 100) unitsPerOne ≤ roundQuotient (m'.units * 100) unitsPerOne :=
  roundQuotient_mono unitsPerOne_pos (Nat.mul_le_mul_right 100 (units_mono h))

theorem isInfinite_of_le (h : m ≤ m') (hi : m.isInfinite = true) : m'.isInfinite = true := by
  rw [isInfinite_iff] at hi ⊢
  exact Fin.le_antisymm (le_infinity m') (hi ▸ h)

theorem level_mono (h : m ≤ m') : (ofMagnitude false m).level ≤ (ofMagnitude false m').level := by
  unfold ofMagnitude
  split
  · rename_i hi
    rw [if_pos (isInfinite_of_le h hi)]
  · split
    · exact le_top
    · rw [level_false, level_false, Level.finite_le_finite]
      exact div_hundred_le (roundQuotient_units_le h)

theorem level_anti (h : m ≤ m') : (ofMagnitude true m').level ≤ (ofMagnitude true m).level := by
  unfold ofMagnitude
  split
  · exact bot_le
  · rename_i hf
    rw [if_neg fun hi => hf (isInfinite_of_le h hi), level_true, level_true,
      Level.finite_le_finite]
    exact neg_le_neg (div_hundred_le (roundQuotient_units_le h))

theorem ofMagnitude_zero : ofMagnitude negative 0 = decimal (hundredthsOf negative 0) := by
  have hq : roundQuotient (units 0 * 100) unitsPerOne = 0 := by decide +kernel
  have hi : isInfinite 0 = false := by decide +kernel
  rw [ofMagnitude, hi, hq, if_neg Bool.false_ne_true]

theorem level_zero : (ofMagnitude negative 0).level = .finite 0 := by
  rw [ofMagnitude_zero]
  cases negative with
  | false =>
    rw [level_false]
    norm_num
  | true =>
    rw [level_true]
    norm_num

theorem zero_le (m : Magnitude) : 0 ≤ m := Nat.zero_le m.val

/-- The order of numbers is the one of what is shown for them, whatever their signs are. -/
theorem level_le {s t : Bool} (h : place s m ≤ place t m') :
    (ofMagnitude s m.toHundredths).level ≤ (ofMagnitude t m'.toHundredths).level := by
  cases s with
  | false =>
    cases t with
    | false =>
      have hm : m ≤ m' := Int.ofNat_le.1 h
      exact level_mono (toHundredths_mono hm)
    | true =>
      -- Of a positive and a negative number in this order both are zero.
      have hp : (m.val : Int) ≤ -(m'.val : Int) := h
      have hm : m = 0 := Fin.ext (by rw [Fin.val_zero]; omega)
      have hm' : m' = 0 := Fin.ext (by rw [Fin.val_zero]; omega)
      rw [hm, hm', toHundredths_zero, level_zero, level_zero]
  | true =>
    cases t with
    | false =>
      calc (ofMagnitude true m.toHundredths).level
        _ ≤ (ofMagnitude true 0).level := level_anti (zero_le _)
        _ = (ofMagnitude false 0).level := by rw [level_zero, level_zero]
        _ ≤ (ofMagnitude false m'.toHundredths).level := level_mono (zero_le _)
    | true =>
      have hp : -(m.val : Int) ≤ -(m'.val : Int) := h
      have hm : m' ≤ m := Int.ofNat_le.1 (neg_le_neg_iff.1 hp)
      exact level_anti (toHundredths_mono hm)

end Shown

namespace Entry

variable {e e' : Entry} {negative : Bool} {m : Magnitude}

theorem percentage_eq_text (hs : e.similarity = number negative m) (hf : m.isInfinite = false) :
    e.percentage = (Shown.ofMagnitude negative m.toHundredths).text := by
  rw [percentage, hs, toHundredths_number hf, twoPlaces, textWith, Shown.text, Shown.ofMagnitude]
  split
  · rfl
  · rw [Shown.number, Shown.text_hundredthsOf]

/-- What the percentage of an entry shows does not stand above what the one of another shows. -/
def ShownBelow (e e' : Entry) : Prop :=
  ∃ x y : Shown, e.percentage = x.text ∧ e'.percentage = y.text ∧ x.level ≤ y.level

theorem ShownBelow.level_le (h : e.ShownBelow e') {x y : Shown} (hx : e.percentage = x.text)
    (hy : e'.percentage = y.text) : x.level ≤ y.level := by
  obtain ⟨x', y', hx', hy', hle⟩ := h
  obtain rfl : x = x' := Shown.text_injective (hx.symm.trans hx')
  obtain rfl : y = y' := Shown.text_injective (hy.symm.trans hy')
  exact hle

theorem shownBelow (h : e.similarity.isFinite = true) (h' : e'.similarity.isFinite = true)
    (hle : e'.similarity.lt e.similarity = false) : e.ShownBelow e' := by
  obtain ⟨s, m, hs, hm⟩ := exists_number h
  obtain ⟨t, m', ht, hm'⟩ := exists_number h'
  rw [hs, ht, lt, decide_eq_false_iff_not, Int.not_lt] at hle
  exact ⟨_, _, percentage_eq_text hs hm, percentage_eq_text ht hm', Shown.level_le hle⟩

end Entry

/-- Percentages stand in the order of the similarities, infinities at its ends; so a report that
is sorted is shown so. -/
theorem percentages_in_order :
    (∀ e e' : Entry, e.similarity.isFinite = true → e'.similarity.isFinite = true →
      e'.similarity.lt e.similarity = false → e.ShownBelow e') ∧
    ∀ r : Report, (∀ e ∈ r.entries, e.similarity.isFinite = true) →
      (r.entries.Pairwise (fun e e' => e'.similarity.lt e.similarity = false) →
        r.entries.Pairwise Entry.ShownBelow) ∧
      (r.entries.Pairwise (fun e e' => e.similarity.lt e'.similarity = false) →
        r.entries.Pairwise fun e e' => e'.ShownBelow e) := by
  refine ⟨fun e e' h h' hle => Entry.shownBelow h h' hle, fun r hf => ⟨fun hs => ?_, fun hs => ?_⟩⟩
  · refine hs.imp_of_mem ?_
    intro e e' he he' hle
    exact Entry.shownBelow (hf e he) (hf e' he') hle
  · refine hs.imp_of_mem ?_
    intro e e' he he' hle
    exact Entry.shownBelow (hf e' he') (hf e he) hle

/-- A hundredfold that is too large, a zero with a sign and a number below it, going down. -/
theorem percentages_in_order_overflow :
    [0x7FEFFFFFFFFFFFFF, 0x8000000000000000, 0xC059000000000000].map (fun bits =>
      (⟨"a.py", "b.py", ofBits bits⟩ : Entry).percentage) = ["inf%", "-0.00%", "-100.00%"] ∧
    ([0x7FEFFFFFFFFFFFFF, 0x8000000000000000, 0xC059000000000000].map fun bits =>
      (⟨"a.py", "b.py", ofBits bits⟩ : Entry)).Pairwise fun e e' => e'.ShownBelow e :=
  ⟨by decide +kernel, (percentages_in_order.2 ⟨_⟩ (by decide +kernel)).2 (by decide +kernel)⟩

end SimilarityClient
