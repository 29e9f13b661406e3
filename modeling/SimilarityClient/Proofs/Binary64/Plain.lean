import Mathlib.Algebra.Order.Field.Rat
import Mathlib.Tactic.Positivity
import Mathlib.Tactic.Ring
import SimilarityClient.Binary64.Text
import SimilarityClient.Proofs.Text.Numeral

/-! # Plain decimals

A number without an exponent: digits, a point with digits behind it where there
are any, and a sign before. A text has one reading as a plain decimal.
-/

namespace SimilarityClient

open Text (IsDigits)

structure PlainDecimal where
  negative : Bool
  whole : List Char
  places : List Char
  whole_digits : IsDigits whole
  whole_ne_nil : whole ≠ []
  places_digits : IsDigits places

namespace PlainDecimal

def fraction (d : PlainDecimal) : List Char := if d.places = [] then [] else '.' :: d.places

def text (d : PlainDecimal) : List Char := Binary64.sign d.negative ++ (d.whole ++ d.fraction)

def magnitude (d : PlainDecimal) : ℚ :=
  Nat.ofDigitChars 10 (d.whole ++ d.places) 0 / 10 ^ d.places.length

def value (d : PlainDecimal) : ℚ := if d.negative then -d.magnitude else d.magnitude

variable {d : PlainDecimal}

theorem exists_cons (d : PlainDecimal) : ∃ x s, d.whole = x :: s ∧ x.isDigit = true := by
  obtain ⟨x, s, hs⟩ := List.exists_cons_of_ne_nil d.whole_ne_nil
  exact ⟨x, s, hs, d.whole_digits x (hs ▸ List.mem_cons_self)⟩

theorem negative_iff (d : PlainDecimal) : d.negative = true ↔ d.text.head? = some '-' := by
  obtain ⟨x, s, hs, hx⟩ := d.exists_cons
  rw [text, hs]
  cases d.negative with
  | true => exact ⟨fun _ => rfl, fun _ => rfl⟩
  | false =>
    refine ⟨nofun, fun h => ?_⟩
    obtain rfl : x = '-' := Option.some.inj h
    cases hx

theorem mem_text {c : Char} (h : c ∈ d.text) : c.isDigit = true ∨ c = '.' ∨ c = '-' := by
  rw [text, List.mem_append, List.mem_append] at h
  rcases h with h | h | h
  · unfold Binary64.sign at h
    split at h
    · exact .inr (.inr (List.mem_singleton.1 h))
    · cases h
  · exact .inl (d.whole_digits c h)
  · unfold fraction at h
    split at h
    · cases h
    · rcases List.mem_cons.1 h with h | h
      · exact .inr (.inl h)
      · exact .inl (d.places_digits c h)

theorem takeWhile_digits (d : PlainDecimal) :
    (d.whole ++ d.fraction).takeWhile Char.isDigit = d.whole := by
  have hf : d.fraction.takeWhile Char.isDigit = [] := by
    unfold fraction
    split <;> rfl
  rw [List.takeWhile_append_of_pos d.whole_digits, hf, List.append_nil]

theorem places_eq (d : PlainDecimal) : d.fraction.tail = d.places := by
  unfold fraction
  split
  · rename_i h
    exact h.symm
  · rfl

theorem text_injective : Function.Injective text := by
  intro c d h
  have hn : c.negative = d.negative := by
    rw [Bool.eq_iff_iff, negative_iff, negative_iff, h]
  have hb : c.whole ++ c.fraction = d.whole ++ d.fraction := by
    rw [text, text, hn] at h
    exact List.append_cancel_left h
  have hw : c.whole = d.whole := by
    rw [← c.takeWhile_digits, hb, d.takeWhile_digits]
  have hp : c.places = d.places := by
    rw [hw] at hb
    rw [← c.places_eq, List.append_cancel_left hb, d.places_eq]
  cases c
  cases d
  cases hn
  cases hw
  cases hp
  rfl

theorem text_of_places (h : d.places ≠ []) :
    d.text = Binary64.sign d.negative ++ (d.whole ++ '.' :: d.places) := by
  rw [text, fraction, if_neg h]

theorem magnitude_eq {n k : Nat} (hn : Nat.ofDigitChars 10 (d.whole ++ d.places) 0 = n)
    (hk : d.places.length = k) : d.magnitude = n / 10 ^ k := by
  rw [magnitude, hn, hk]

theorem magnitude_nonneg (d : PlainDecimal) : 0 ≤ d.magnitude := by
  unfold magnitude
  positivity

end PlainDecimal

namespace Decimal

open PlainDecimal Text

variable {negative : Bool} {n e : Nat}

theorem plain_ofNat (n e : Nat) :
    (⟨n, .ofNat e⟩ : Decimal).plain = decimal n ++ List.replicate e '0' := rfl

theorem plain_of_le (h : (decimal n).length ≤ e + 1) : (⟨n, .negSucc e⟩ : Decimal).plain =
    ['0'] ++ '.' :: (List.replicate (e + 1 - (decimal n).length) '0' ++ decimal n) :=
  if_pos h

theorem plain_of_lt (h : ¬(decimal n).length ≤ e + 1) : (⟨n, .negSucc e⟩ : Decimal).plain =
    (decimal n).take ((decimal n).length - (e + 1)) ++
      '.' :: (decimal n).drop ((decimal n).length - (e + 1)) :=
  if_neg h

theorem exists_plain_ofNat (negative : Bool) (n e : Nat) : ∃ d : PlainDecimal,
    d.negative = negative ∧ d.text = Binary64.sign negative ++ (⟨n, .ofNat e⟩ : Decimal).plain ∧
      d.magnitude = n * 10 ^ e := by
  refine ⟨⟨negative, decimal n ++ List.replicate e '0', [],
    (isDigits_decimal n).append (isDigits_replicate e),
    List.append_ne_nil_of_left_ne_nil (decimal_ne_nil n) _, List.forall_mem_nil _⟩, rfl, ?_, ?_⟩
  · rw [plain_ofNat, text, fraction, if_pos rfl, List.append_nil]
  · rw [magnitude, List.append_nil, Nat.ofDigitChars_append, ofDigitChars_decimal,
      Nat.ofDigitChars_replicate_zero, List.length_nil, pow_zero, div_one, Nat.mul_comm]
    push_cast
    rfl

theorem exists_plain_negSucc (negative : Bool) (n e : Nat) : ∃ d : PlainDecimal,
    d.negative = negative ∧ d.text = Binary64.sign negative ++ (⟨n, .negSucc e⟩ : Decimal).plain ∧
      d.magnitude = n / 10 ^ (e + 1) := by
  have hd := isDigits_decimal n
  -- The point stands among the digits, or zeros are written between it and them.
  by_cases hl : (decimal n).length ≤ e + 1
  · refine ⟨⟨negative, ['0'], List.replicate (e + 1 - (decimal n).length) '0' ++ decimal n,
      isDigits_replicate 1, List.cons_ne_nil _ _, (isDigits_replicate _).append hd⟩, rfl, ?_, ?_⟩
    · rw [plain_of_le hl, text_of_places (List.append_ne_nil_of_right_ne_nil _ (decimal_ne_nil n))]
    · apply magnitude_eq
      · rw [Nat.ofDigitChars_append, Nat.ofDigitChars_append, Nat.ofDigitChars_replicate_zero]
        exact ofDigitChars_decimal n
      · rw [List.length_append, List.length_replicate]
        omega
  · have hlen : ((decimal n).drop ((decimal n).length - (e + 1))).length = e + 1 := by
      rw [List.length_drop]
      omega
    have htake : ((decimal n).take ((decimal n).length - (e + 1))).length ≠ 0 := by
      rw [List.length_take]
      omega
    refine ⟨⟨negative, (decimal n).take ((decimal n).length - (e + 1)),
      (decimal n).drop ((decimal n).length - (e + 1)), hd.subset (List.take_subset _ _),
      List.length_eq_zero_iff.not.1 htake, hd.subset (List.drop_subset _ _)⟩, rfl, ?_, ?_⟩
    · rw [plain_of_lt hl, text_of_places (List.ne_nil_of_length_eq_add_one hlen)]
    · apply magnitude_eq
      · rw [List.take_append_drop, ofDigitChars_decimal]
      · exact hlen

/-- The plain text of a decimal is a plain decimal of the same value. -/
theorem exists_plain (x : Decimal) (negative : Bool) : ∃ d : PlainDecimal,
    d.negative = negative ∧ d.text = Binary64.sign negative ++ x.plain ∧
      d.magnitude = x.digits * (10 : ℚ) ^ x.exponent := by
  obtain ⟨n, exponent⟩ := x
  cases exponent with
  | ofNat e => exact exists_plain_ofNat negative n e
  | negSucc e => exact exists_plain_negSucc negative n e

end Decimal

end SimilarityClient
