import Mathlib.Tactic.Ring
import SimilarityClient.Json.Number
import SimilarityClient.Proofs.Text.Numeral

/-! # Reading numbers that were written

A text of digits with a point, an exponent or both is read as the significand of
all its digits, while they fit, and the exponent less the digits behind the
point. So the text of a decimal is read as the decimal, or one of equal value.
-/

namespace SimilarityClient.Json

open Text

variable {negative : Bool} {s w f rest : List Char} {significand value limit : Nat} {exponent : Int}

/-- A rest that does not go on with a number. -/
def Delimited (rest : List Char) : Prop :=
  ∀ c ∈ rest.head?, digit? c = none ∧ c ≠ '.' ∧ c ≠ 'e' ∧ c ≠ 'E'

theorem startsWithDigit_append (hs : IsDigits s) (hn : s ≠ []) :
    startsWithDigit (s ++ rest) = true := by
  obtain ⟨c, t, rfl⟩ := List.exists_cons_of_ne_nil hn
  simp [startsWithDigit, digit?_of_isDigit hs.of_cons.1]

theorem takeDigits_append (hs : IsDigits s) (hr : ∀ c ∈ rest.head?, digit? c = none) :
    takeDigits (s ++ rest) = (s.map digitValue, rest) := by
  induction s with
  | nil =>
    cases rest with
    | nil => rfl
    | cons c r =>
      have hc := hr c rfl
      simp only [List.nil_append, List.map_nil, takeDigits, hc]
  | cons c s ih =>
    have hc := digit?_of_isDigit hs.of_cons.1
    simp only [List.cons_append, List.map_cons, takeDigits, hc, ih hs.of_cons.2]

theorem takeDigits_append_cons {c : Char} (hs : IsDigits s) (hc : digit? c = none) :
    takeDigits (s ++ c :: rest) = (s.map digitValue, c :: rest) :=
  takeDigits_append hs fun _ h => Option.some.inj h ▸ hc

theorem absorb_map (h : Nat.ofDigitChars 10 s value ≤ max64) :
    absorb value (s.map digitValue) = (Nat.ofDigitChars 10 s value, s.length) := by
  induction s generalizing value with
  | nil => rfl
  | cons c s ih =>
    rw [Nat.ofDigitChars_cons] at h
    have hle := (le_ofDigitChars s _).trans h
    rw [List.map_cons, absorb, if_neg (Nat.not_lt.2 hle), digitValue, ih h]
    rfl

theorem readExponent_append (hs : IsDigits s) (h : Nat.ofDigitChars 10 s value ≤ max31)
    (hr : ∀ c ∈ rest.head?, digit? c = none) :
    readExponent value (s ++ rest) = (some (Nat.ofDigitChars 10 s value), rest) := by
  induction s generalizing value with
  | nil =>
    cases rest with
    | nil => rfl
    | cons c r =>
      have hc := hr c rfl
      simp only [List.nil_append, readExponent, hc, Nat.ofDigitChars_nil]
  | cons c s ih =>
    rw [Nat.ofDigitChars_cons] at h ⊢
    have hc := digit?_of_isDigit hs.of_cons.1
    have hle := (le_ofDigitChars s _).trans h
    rw [List.cons_append, readExponent]
    simp only [hc]
    rw [if_neg (Nat.not_lt.2 hle)]
    exact ih hs.of_cons.2 h

theorem afterExponentMark_signed {z : Int} (hz : z.natAbs ≤ max31)
    (hr : ∀ c ∈ rest.head?, digit? c = none) :
    afterExponentMark negative significand exponent (Decimal.signed z ++ rest) =
      finish negative significand (exponent + z) rest := by
  have hd : startsWithDigit (decimal z.natAbs ++ rest) = true :=
    startsWithDigit_append (isDigits_decimal _) (decimal_ne_nil _)
  have hn : decimal z.natAbs ++ rest ≠ [] := List.append_ne_nil_of_left_ne_nil (decimal_ne_nil _) _
  have he :=
    readExponent_append (isDigits_decimal z.natAbs) ((ofDigitChars_decimal _).le.trans hz) hr
  rw [ofDigitChars_decimal] at he
  rw [Decimal.signed, List.cons_append]
  rcases lt_or_ge z 0 with h | h
  · rw [if_pos h, afterExponentMark]
    simp only [if_neg hn, hd, he, Bool.not_true, Bool.false_eq_true, if_false, if_true]
    rw [show exponent - (z.natAbs : Int) = exponent + z by omega]
  · rw [if_neg (Int.not_lt.2 h), afterExponentMark]
    simp only [if_neg hn, hd, he, Bool.not_true, Bool.false_eq_true, if_false]
    rw [show exponent + (z.natAbs : Int) = exponent + z by omega]

theorem afterPoint_digits (hf : IsDigits f) (hn : f ≠ [])
    (hv : Nat.ofDigitChars 10 f significand ≤ max64) (hr : Delimited rest) :
    afterPoint negative significand exponent (f ++ rest) =
      finish negative (Nat.ofDigitChars 10 f significand) (exponent - f.length) rest := by
  have ht := takeDigits_append hf fun c hc => (hr c hc).1
  have hn' : f.map digitValue ≠ [] := by simpa using hn
  rw [afterPoint, ht]
  simp only [if_neg hn', absorb_map hv]
  split
  · exact absurd rfl (hr 'e' rfl).2.2.1
  · exact absurd rfl (hr 'E' rfl).2.2.2
  · rfl

theorem afterPoint_exponent {z : Int} (hf : IsDigits f) (hn : f ≠ [])
    (hv : Nat.ofDigitChars 10 f significand ≤ max64) (hz : z.natAbs ≤ max31)
    (hr : ∀ c ∈ rest.head?, digit? c = none) :
    afterPoint negative significand exponent (f ++ 'e' :: (Decimal.signed z ++ rest)) =
      finish negative (Nat.ofDigitChars 10 f significand) (exponent - f.length + z) rest := by
  have hn' : f.map digitValue ≠ [] := by simpa using hn
  rw [afterPoint, takeDigits_append_cons hf rfl]
  simp only [if_neg hn', absorb_map hv]
  exact afterExponentMark_signed hz hr

/-- Digits that may stand before the point: no zero but the last one comes first. -/
structure IsWhole (w : List Char) : Prop where
  digits : IsDigits w
  ne_nil : w ≠ []
  first : w.head? = some '0' → w.length = 1

theorem IsWhole.not_leadingZero (hw : IsWhole w) :
    ¬((w.map digitValue).head? = some 0 ∧ 1 < w.length) := by
  rintro ⟨h, hl⟩
  obtain ⟨c, t, rfl⟩ := List.exists_cons_of_ne_nil hw.ne_nil
  rw [List.map_cons, List.head?_cons, Option.some.injEq,
    digitValue_eq_zero hw.digits.of_cons.1] at h
  rw [hw.first (by rw [h, List.head?_cons])] at hl
  omega

section Whole

variable (hw : IsWhole w) (hv : Nat.ofDigitChars 10 w 0 ≤ max64)

include hw hv

theorem readMagnitude_point : readMagnitude negative (w ++ '.' :: rest) =
    afterPoint negative (Nat.ofDigitChars 10 w 0) 0 rest := by
  have hs : startsWithDigit (w ++ '.' :: rest) = true :=
    startsWithDigit_append hw.digits hw.ne_nil
  have hn : w ++ '.' :: rest ≠ [] := List.append_ne_nil_of_left_ne_nil hw.ne_nil _
  rw [readMagnitude, takeDigits_append_cons hw.digits rfl]
  simp only [if_neg hn, hs, Bool.not_true, Bool.false_eq_true, if_false, List.length_map,
    if_neg hw.not_leadingZero, absorb_map hv, Int.sub_self]

theorem readMagnitude_exponent : readMagnitude negative (w ++ 'e' :: rest) =
    afterExponentMark negative (Nat.ofDigitChars 10 w 0) 0 rest := by
  have hs : startsWithDigit (w ++ 'e' :: rest) = true :=
    startsWithDigit_append hw.digits hw.ne_nil
  have hn : w ++ 'e' :: rest ≠ [] := List.append_ne_nil_of_left_ne_nil hw.ne_nil _
  rw [readMagnitude, takeDigits_append_cons hw.digits rfl]
  simp only [if_neg hn, hs, Bool.not_true, Bool.false_eq_true, if_false, List.length_map,
    if_neg hw.not_leadingZero, absorb_map hv, Int.sub_self]

end Whole

theorem readMagnitude_fraction (hw : IsWhole w) (hf : IsDigits f) (hn : f ≠ [])
    (hv : Nat.ofDigitChars 10 (w ++ f) 0 ≤ max64) (hr : Delimited rest) :
    readMagnitude negative (w ++ '.' :: (f ++ rest)) =
      finish negative (Nat.ofDigitChars 10 (w ++ f) 0) (-f.length) rest := by
  rw [Nat.ofDigitChars_append] at hv ⊢
  rw [readMagnitude_point hw ((le_ofDigitChars f _).trans hv), afterPoint_digits hf hn hv hr,
    Int.zero_sub]

theorem readMagnitude_scientific {z : Int} (hw : IsWhole w) (hf : IsDigits f)
    (hv : Nat.ofDigitChars 10 (w ++ f) 0 ≤ max64) (hz : z.natAbs ≤ max31)
    (hr : ∀ c ∈ rest.head?, digit? c = none) :
    readMagnitude negative
        (w ++ (if f = [] then [] else '.' :: f) ++ 'e' :: (Decimal.signed z ++ rest)) =
      finish negative (Nat.ofDigitChars 10 (w ++ f) 0) (z - f.length) rest := by
  by_cases hn : f = []
  · subst hn
    rw [List.append_nil] at hv
    rw [if_pos rfl, List.append_nil, readMagnitude_exponent hw hv, afterExponentMark_signed hz hr,
      List.length_nil, Int.zero_add, Int.ofNat_zero, Int.sub_zero]
  · rw [Nat.ofDigitChars_append] at hv ⊢
    rw [if_neg hn, List.append_assoc, List.cons_append,
      readMagnitude_point hw ((le_ofDigitChars f _).trans hv), afterPoint_exponent hf hn hv hz hr]
    rw [show (0 : Int) - f.length + z = z - f.length by ring]

theorem isWhole_zero : IsWhole ['0'] := ⟨isDigits_replicate 1, List.cons_ne_nil _ _, fun _ => rfl⟩

theorem isWhole_decimal_append {n : Nat} (hn : 0 < n) (hw : IsDigits w) :
    IsWhole (decimal n ++ w) := by
  refine ⟨(isDigits_decimal n).append hw, List.append_ne_nil_of_left_ne_nil (decimal_ne_nil n) w,
    fun h => absurd ?_ (head?_decimal_ne hn)⟩
  obtain ⟨c, t, ht⟩ := List.exists_cons_of_ne_nil (decimal_ne_nil n)
  rw [ht] at h ⊢
  exact h

theorem isWhole_take_decimal {n k : Nat} (hn : 0 < n) (hk : 0 < k) :
    IsWhole ((decimal n).take k) := by
  obtain ⟨c, t, ht⟩ := List.exists_cons_of_ne_nil (decimal_ne_nil n)
  obtain ⟨k, rfl⟩ := Nat.exists_eq_add_of_le' hk
  have hd : IsDigits ((decimal n).take (k + 1)) := fun c hc =>
    isDigits_decimal n c (List.mem_of_mem_take hc)
  have hc := head?_decimal_ne hn
  rw [ht] at hd hc ⊢
  exact ⟨hd, List.cons_ne_nil _ _, fun h => absurd h hc⟩

end SimilarityClient.Json

namespace SimilarityClient.Decimal

open Text Json

variable {negative : Bool} {rest : List Char} {x : Decimal}

theorem readMagnitude_plain_ofNat {d e : Nat} (hd : 0 < d) (hl : d * 10 ^ (e + 1) ≤ max64)
    (hr : Delimited rest) :
    readMagnitude negative ((⟨d, .ofNat e⟩ : Decimal).plain ++ ['.', '0'] ++ rest) =
      finish negative (d * 10 ^ (e + 1)) (-1) rest := by
  have hv : Nat.ofDigitChars 10 (decimal d ++ List.replicate e '0' ++ ['0']) 0 =
      d * 10 ^ (e + 1) := by
    rw [List.append_assoc, ← List.replicate_succ', Nat.ofDigitChars_append, ofDigitChars_decimal,
      Nat.ofDigitChars_replicate_zero, Nat.mul_comm]
  have ht : (⟨d, .ofNat e⟩ : Decimal).plain ++ ['.', '0'] ++ rest =
      decimal d ++ List.replicate e '0' ++ '.' :: (['0'] ++ rest) := by
    rw [plain, List.append_assoc]
    rfl
  have h0 : IsDigits ['0'] := isDigits_replicate 1
  rw [ht, readMagnitude_fraction (isWhole_decimal_append hd (isDigits_replicate e)) h0
    (List.cons_ne_nil _ _) (hv.le.trans hl) hr, hv]
  rfl

theorem readMagnitude_plain_negSucc {d e : Nat} (hd : 0 < d) (hl : d ≤ max64)
    (hr : Delimited rest) :
    readMagnitude negative ((⟨d, .negSucc e⟩ : Decimal).plain ++ rest) =
      finish negative d (.negSucc e) rest := by
  have hds := isDigits_decimal d
  have hlen := List.length_pos_iff.2 (decimal_ne_nil d)
  rw [plain]
  dsimp only
  split
  · rename_i hle
    have hv : Nat.ofDigitChars 10
        (['0'] ++ (List.replicate (e + 1 - (decimal d).length) '0' ++ decimal d)) 0 = d := by
      rw [Nat.ofDigitChars_append, Nat.ofDigitChars_append, Nat.ofDigitChars_cons,
        Nat.ofDigitChars_nil, Nat.ofDigitChars_replicate_zero]
      exact ofDigitChars_decimal d
    have ht : '0' :: '.' :: List.replicate (e + 1 - (decimal d).length) '0' ++ decimal d ++ rest =
        ['0'] ++ '.' :: ((List.replicate (e + 1 - (decimal d).length) '0' ++ decimal d) ++ rest) :=
      rfl
    rw [ht, readMagnitude_fraction isWhole_zero
      ((isDigits_replicate (e + 1 - (decimal d).length)).append hds)
      (List.append_ne_nil_of_right_ne_nil _ (decimal_ne_nil d)) (hv.le.trans hl) hr, hv,
      List.length_append, List.length_replicate, Nat.sub_add_cancel hle]
    rfl
  · rename_i hgt
    generalize hk : (decimal d).length - (e + 1) = k
    have hf : ((decimal d).drop k).length = e + 1 := by
      rw [List.length_drop]
      omega
    have hv : Nat.ofDigitChars 10 ((decimal d).take k ++ (decimal d).drop k) 0 = d := by
      rw [List.take_append_drop, ofDigitChars_decimal]
    have hn : (decimal d).drop k ≠ [] := List.ne_nil_of_length_pos (by omega)
    rw [List.append_assoc, List.cons_append, readMagnitude_fraction
      (isWhole_take_decimal hd (by omega)) (fun c hc => hds c (List.mem_of_mem_drop hc)) hn
      (hv.le.trans hl) hr, hv, hf]
    rfl

theorem readMagnitude_scientific (hd : 0 < x.digits) (hl : x.digits ≤ max64)
    (hp : (x.pointAt - 1).natAbs ≤ max31) (hr : ∀ c ∈ rest.head?, digit? c = none) :
    readMagnitude negative (x.scientific ++ rest) = finish negative x.digits x.exponent rest := by
  have hlen := List.length_pos_iff.2 (decimal_ne_nil x.digits)
  have hv : Nat.ofDigitChars 10 ((decimal x.digits).take 1 ++ (decimal x.digits).drop 1) 0 =
      x.digits := by
    rw [List.take_append_drop, ofDigitChars_decimal]
  have hpoint : (if (decimal x.digits).length ≤ 1 then [] else ['.']) ++ (decimal x.digits).drop 1 =
      if (decimal x.digits).drop 1 = [] then [] else '.' :: (decimal x.digits).drop 1 := by
    by_cases h1 : (decimal x.digits).length ≤ 1
    · rw [if_pos h1, if_pos (List.drop_eq_nil_iff.2 h1), List.nil_append, List.drop_eq_nil_iff.2 h1]
    · rw [if_neg h1, if_neg (List.drop_eq_nil_iff.not.2 h1)]
      rfl
  have ht : x.scientific ++ rest = (decimal x.digits).take 1 ++
      (if (decimal x.digits).drop 1 = [] then [] else '.' :: (decimal x.digits).drop 1) ++
      'e' :: (signed (x.pointAt - 1) ++ rest) := by
    rw [← hpoint, scientific]
    simp only [List.append_assoc, List.cons_append]
  rw [ht, Json.readMagnitude_scientific (isWhole_take_decimal hd Nat.one_pos)
    (fun c hc => isDigits_decimal x.digits c (List.mem_of_mem_drop hc)) (hv.le.trans hl) hp hr, hv]
  rw [show x.pointAt - 1 - (((decimal x.digits).drop 1).length : Int) = x.exponent by
    rw [List.length_drop, pointAt]
    omega]

/-- The significand and the exponent that the text of a decimal is read as. -/
def spelled : Decimal → Decimal
  | ⟨d, .ofNat e⟩ =>
    if (decimal d).length + e ≤ 16 then ⟨d * 10 ^ (e + 1), -1⟩ else ⟨d, .ofNat e⟩
  | ⟨d, .negSucc e⟩ => ⟨d, .negSucc e⟩

/-- A decimal whose digits and exponent are read without loss. -/
structure Fits (x : Decimal) : Prop where
  digits_lt : x.digits < 10 ^ 18
  pointAt_le : (x.pointAt - 1).natAbs ≤ max31
  zero : x.digits = 0 → x.exponent = 0

theorem lt_pow_length_decimal (n : Nat) : n < 10 ^ (decimal n).length :=
  (Nat.length_toDigits_le_iff (by decide) Nat.length_toDigits_pos).1 (Nat.le_refl _)

theorem spelled_digits_lt {d e : Nat} (h : (decimal d).length + e ≤ 16) :
    d * 10 ^ (e + 1) < 10 ^ 17 := by
  calc d * 10 ^ (e + 1) < 10 ^ (decimal d).length * 10 ^ (e + 1) :=
        Nat.mul_lt_mul_of_pos_right (lt_pow_length_decimal d) (Nat.pow_pos (by decide))
    _ = 10 ^ ((decimal d).length + (e + 1)) := (Nat.pow_add _ _ _).symm
    _ ≤ 10 ^ 17 := Nat.pow_le_pow_right (by decide) (by omega)

theorem pointAt_ofNat (d e : Nat) :
    (⟨d, .ofNat e⟩ : Decimal).pointAt = ((decimal d).length + e : Nat) := rfl

/-- The text of a decimal is read as a decimal of equal value. -/
theorem readMagnitude_json (hx : x.Fits) (hr : Delimited rest) :
    readMagnitude negative (x.json ++ rest) =
      finish negative x.spelled.digits x.spelled.exponent rest := by
  have hmax : 10 ^ 18 ≤ max64 := by decide
  have hl : x.digits ≤ max64 := (Nat.le_of_lt hx.digits_lt).trans hmax
  have hz := hx.zero
  have hp := hx.pointAt_le
  obtain ⟨d, e⟩ := x
  dsimp only at hl hz
  rw [json]
  split
  · rename_i h0
    dsimp only at h0
    subst h0
    rw [hz rfl]
    have hd0 : IsDigits ['0'] := isDigits_replicate 1
    exact readMagnitude_fraction isWhole_zero hd0 (List.cons_ne_nil _ _) (Nat.zero_le _) hr
  rename_i h0
  have h0 := Nat.pos_of_ne_zero h0
  split
  · rename_i hpos
    cases e with
    | ofNat e =>
      rw [pointAt_ofNat] at hpos
      have hle : (decimal d).length + e ≤ 16 := by omega
      have hlt := spelled_digits_lt hle
      have he : 0 ≤ Int.ofNat e := Int.natCast_nonneg e
      rw [spelled, if_pos hle, if_pos he]
      exact readMagnitude_plain_ofNat h0 (by omega) hr
    | negSucc e =>
      rw [spelled, if_neg (by simp), List.append_nil]
      exact readMagnitude_plain_negSucc h0 hl hr
  · rename_i hpos
    rw [readMagnitude_scientific h0 hl hp fun c hc => (hr c hc).1]
    cases e with
    | ofNat e =>
      rw [pointAt_ofNat] at hpos
      rw [spelled, if_neg (by omega)]
    | negSucc e => rfl

end SimilarityClient.Decimal
