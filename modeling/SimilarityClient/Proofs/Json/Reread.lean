import SimilarityClient.Json.Record
import SimilarityClient.Proofs.Json.Scale
import SimilarityClient.Report.Basic

/-! # Numbers of a document that was written

The text of a finite number is the sign and the shortest decimal of its
magnitude. What a reader makes of it depends on the number alone, not on what
follows the text.
-/

namespace SimilarityClient

open Text Json Magnitude

namespace Decimal

variable {d j n k : Nat}

theorem pow_le_of_length_decimal (hn : 0 < n) (h : k < (decimal n).length) : 10 ^ k ≤ n := by
  rcases Nat.eq_zero_or_pos k with rfl | hk
  · exact hn
  · rw [← Nat.not_lt, ← length_decimal_le_iff hk]
    omega

/-- The decimal that a text is read as is a point if the written one was. Only
large numbers keep a positive exponent. -/
theorem exists_spelled {code : Nat} (h : IsPoint code d j) : ∃ d' i : Nat,
    (⟨d, (j : Int) - 1074⟩ : Decimal).spelled = ⟨d', (i : Int) - 1074⟩ ∧ IsPoint code d' i ∧
      (1074 ≤ i → 10 ^ 16 ≤ d' * 10 ^ (i - 1074)) := by
  rcases Nat.lt_or_ge j 1074 with hj | hj
  · refine ⟨d, j, ?_, h, by omega⟩
    rw [show (j : Int) - 1074 = .negSucc (1073 - j) by omega]
    rfl
  · obtain ⟨e, rfl⟩ := Nat.exists_eq_add_of_le' hj
    have he : ((e + 1074 : Nat) : Int) - 1074 = .ofNat e := by
      rw [Int.ofNat_eq_natCast]
      omega
    rw [he, spelled]
    split
    · rename_i hle
      refine ⟨d * 10 ^ (e + 1), 1073, rfl, ⟨?_, ?_, ?_, by omega, by omega⟩, by omega⟩
      · have hn := h.nearest
        rwa [show e + 1074 = e + 1 + 1073 by rfl, Nat.pow_add, ← Nat.mul_assoc] at hn
      · exact Nat.mul_pos h.pos (Nat.pow_pos (by decide))
      · have := spelled_digits_lt hle
        omega
    · rename_i hgt
      refine ⟨d, e + 1074, by rw [he], h, fun _ => ?_⟩
      rw [Nat.add_sub_cancel]
      have hlen : 0 < (decimal d).length := Nat.length_toDigits_pos
      calc 10 ^ 16 ≤ 10 ^ ((decimal d).length - 1 + e) :=
            Nat.pow_le_pow_right (by decide) (by omega)
        _ = 10 ^ ((decimal d).length - 1) * 10 ^ e := Nat.pow_add _ _ _
        _ ≤ d * 10 ^ e :=
          Nat.mul_le_mul_right _ (pow_le_of_length_decimal h.pos (Nat.sub_one_lt hlen.ne'))

end Decimal

namespace Magnitude

variable {m : Magnitude} {tie : Tie} {d e n code : Nat}

theorem shortest_zero (hm : m.val = 0) : m.shortest tie = ⟨0, 0⟩ := if_pos hm

/-- Every decimal that is written is read without loss. -/
theorem shortest_fits (tie : Tie) (m : Magnitude) : (m.shortest tie).Fits := by
  by_cases hm : m.val = 0
  · rw [shortest_zero hm]
    exact ⟨by decide, by decide, fun _ => rfl⟩
  · obtain ⟨d, j, hs, hp⟩ := exists_shortest tie hm
    have hlen := (length_decimal_le_iff (by decide)).2 hp.lt
    have hmax : 1000 ≤ max31 := by decide
    have := hp.ge
    have := hp.le
    have := hp.pos
    rw [hs]
    refine ⟨hp.lt, ?_, fun h0 => ?_⟩
    · rw [Decimal.pointAt]
      dsimp only
      omega
    · dsimp only at h0
      omega

/-- What is rounded to a code is not much larger than its value. -/
theorem IsNearest.mul_pow_le (hc : code ≠ 0) (h : IsNearest (d * 10 ^ (e + 1074)) fineScale code)
    (hu : unitsOf code ≤ 2 * (n * unitsPerOne)) : d * 10 ^ e ≤ 3 * n := by
  have hg := gap_le_unitsOf hc
  have hs : unitsOf code + unitsOf (code + 1) ≤ 6 * (n * unitsPerOne) := by
    rw [unitsOf_succ]
    omega
  have hm : 2 * (d * 10 ^ e) * (unitsPerOne * fineScale) ≤
      6 * n * (unitsPerOne * fineScale) := by
    calc 2 * (d * 10 ^ e) * (unitsPerOne * fineScale) = 2 * (d * 10 ^ (e + 1074)) := by
          rw [unitsPerOne_mul_fineScale, Nat.pow_add, Nat.mul_assoc, Nat.mul_assoc]
      _ ≤ (unitsOf code + unitsOf (code + 1)) * fineScale := h.upper
      _ ≤ 6 * (n * unitsPerOne) * fineScale := Nat.mul_le_mul_right _ hs
      _ = 6 * n * (unitsPerOne * fineScale) := by ring
  have := Nat.le_of_mul_le_mul_right hm (Nat.mul_pos unitsPerOne_pos fineScale_pos)
  omega

end Magnitude

namespace Json

open Binary64

variable {negative : Bool} {m : Magnitude} {d e i : Nat}

theorem le_of_mul_pow_le {n : Nat} (hd : 0 < d) (h : d * 10 ^ e ≤ 3 * 10 ^ n) : e ≤ n := by
  by_contra hc
  have h1 : 10 ^ (n + 1) ≤ 10 ^ e := Nat.pow_le_pow_right (by decide) (Nat.lt_of_not_le hc)
  have h2 := Nat.le_mul_of_pos_left (10 ^ e) hd
  have h3 : 0 < 10 ^ n := Nat.pow_pos (by decide)
  rw [Nat.pow_succ] at h1
  omega

theorem mul_pow_le {k : Nat} (hk : k ≤ 100) : k * 10 ^ 300 ≤ 10 ^ 308 := by
  have h1 : 10 ^ (300 + 2) ≤ 10 ^ 308 := pow_le_pow_right₀ (by decide) (by decide)
  refine Nat.le_trans ?_ h1
  rw [pow_add, Nat.mul_comm]
  exact Nat.mul_le_mul_left _ hk

theorem scale?_ofNat (he : e ≤ 308) : scale? d (.ofNat e) =
    let y := (number false (ofWhole d)).mul (number false (ofWhole (10 ^ e)))
    if y.isInfinite then none else some y := by
  rw [← pow10_eq]
  exact if_pos he

theorem scale?_ofNat_isSome (hd : 0 < d) (h : d * 10 ^ e ≤ 3 * 10 ^ 300) :
    (scale? d (.ofNat e)).isSome = true := by
  have he : e ≤ 308 := (le_of_mul_pow_le hd h).trans (by decide)
  have hl : d ≤ 10 ^ 308 :=
    ((Nat.le_mul_of_pos_right d (Nat.pow_pos (by decide))).trans h).trans (mul_pow_le (by decide))
  have hprod : (ofWhole d).units * (ofWhole (10 ^ e)).units ≤
      unitsOf (infinityCode - 1) * unitsPerOne := by
    calc (ofWhole d).units * (ofWhole (10 ^ e)).units ≤
          2 * (d * unitsPerOne) * (2 * (10 ^ e * unitsPerOne)) :=
          Nat.mul_le_mul (units_ofWhole_le d) (units_ofWhole_le _)
      _ = 4 * (d * 10 ^ e) * unitsPerOne * unitsPerOne := by ring
      _ ≤ 4 * (3 * 10 ^ 300) * unitsPerOne * unitsPerOne :=
        Nat.mul_le_mul_right _ (Nat.mul_le_mul_right _ (Nat.mul_le_mul_left 4 h))
      _ = 12 * 10 ^ 300 * unitsPerOne * unitsPerOne := by rw [← Nat.mul_assoc]
      _ ≤ 10 ^ 308 * unitsPerOne * unitsPerOne :=
        Nat.mul_le_mul_right _ (Nat.mul_le_mul_right _ (mul_pow_le (by decide)))
      _ ≤ unitsOf (infinityCode - 1) * unitsPerOne := Nat.mul_le_mul_right _ scales.2.2.2.2
  have hfin := isInfinite_ofRatio (codeOf_lt_infinityCode unitsPerOne_pos hprod)
  rw [scale?_ofNat he, mul_number (isInfinite_ofWhole hl) (isInfinite_ofWhole (ten_pow_le he)),
    if_neg]
  · rfl
  · rw [Binary64.isInfinite, hfin]
    decide

theorem scale?_negative_isSome (h : i < 1074) : (scale? d ((i : Int) - 1074)).isSome = true := by
  rw [show (i : Int) - 1074 = .negSucc (1073 - i) by omega]
  rfl

end Json

namespace Binary64

variable {x y : Binary64} {rest : List Char}

/-- The decimal that the text of a number is read as. -/
def spelling : Binary64 → Decimal
  | nan => ⟨0, 0⟩
  | number _ m => (m.shortest .even).spelled

/-- The number that the text of a finite number is read as. -/
def reread? : Binary64 → Option Binary64
  | nan => none
  | number negative m =>
    let x := (number negative m).spelling
    if m.isInfinite then none else (scale? x.digits x.exponent).map (withSign negative)

theorem startsWithDigit_of_readMagnitude {negative : Bool} {s : List Char}
    {r : Numeral × List Char} (h : readMagnitude negative s = .ok r) :
    startsWithDigit s = true := by
  rw [readMagnitude] at h
  split at h
  · cases h
  split at h
  · cases h
  · rename_i hs
    simpa using hs

theorem isSpace_of_digit {c : Char} (h : (digit? c).isSome = true) : isSpace c = false := by
  by_contra hs
  simp only [isSpace, Bool.not_eq_false, Bool.or_eq_true, beq_iff_eq] at hs
  rcases hs with ((rfl | rfl) | rfl) | rfl <;> cases h

theorem exists_cons_of_startsWithDigit {s : List Char} (h : startsWithDigit s = true) :
    ∃ c r, s = c :: r ∧ isSpace c = false ∧ c ≠ '-' := by
  cases s with
  | nil => cases h
  | cons c r =>
    refine ⟨c, r, rfl, isSpace_of_digit h, ?_⟩
    rintro rfl
    cases h

theorem readBinary64_sign {negative : Bool} {s : List Char} {z : Binary64}
    (h : readMagnitude negative s = .ok (.fractional z, rest)) :
    readBinary64 (sign negative ++ s) = .ok (z, rest) := by
  cases negative with
  | true =>
    have hs : skipSpace (sign true ++ s) = '-' :: s := rfl
    rw [readBinary64, hs]
    simp only [h]
    rfl
  | false =>
    have hd := startsWithDigit_of_readMagnitude h
    obtain ⟨c, r, rfl, hc, hne⟩ := exists_cons_of_startsWithDigit hd
    have hs : skipSpace (sign false ++ c :: r) = c :: r :=
      List.dropWhile_cons_of_neg (Bool.not_eq_true _ ▸ hc)
    rw [readBinary64, hs]
    split
    · rename_i heq
      cases heq
    · rename_i heq
      exact absurd (List.cons.inj heq).1 hne
    · rw [if_pos hd, h]
      rfl

theorem exists_number (h : x.isFinite = true) :
    ∃ negative m, x = number negative m ∧ m.isInfinite = false := by
  cases x with
  | nan => cases h
  | number negative m => exact ⟨negative, m, rfl, Bool.not_eq_true' _ ▸ h⟩

theorem isFinite_number {negative : Bool} {m : Magnitude} (h : m.isInfinite = false) :
    (number negative m).isFinite = true := by
  rw [isFinite, h]
  rfl

theorem json_number {negative : Bool} {m : Magnitude} (h : m.isInfinite = false) :
    (number negative m).json = sign negative ++ (m.shortest .even).json := by
  rw [json, isFinite, h, finiteJson, textWith, h]
  rfl

theorem readBinary64_json (h : x.reread? = some y) (hr : Delimited rest) :
    readBinary64 (x.json ++ rest) = .ok (y, rest) := by
  cases x with
  | nan => cases h
  | number negative m =>
    rw [reread?] at h
    split at h
    · cases h
    rename_i hfin
    rw [Option.map_eq_some_iff] at h
    obtain ⟨z, hz, rfl⟩ := h
    rw [spelling] at hz
    have hm : readMagnitude negative ((m.shortest .even).json ++ rest) =
        .ok (.fractional (withSign negative z), rest) := by
      rw [Decimal.readMagnitude_json (shortest_fits .even m) hr, finish, hz]
    rw [json_number (Bool.eq_false_iff.2 hfin), List.append_assoc, readBinary64_sign hm]

variable {negative : Bool} {m : Magnitude}

theorem isNearest_zero {code : Nat} (hc : code = 0) (n : Nat) :
    IsNearest (0 * n) fineScale code := by
  have h := isNearest_unitsOf 0 fineScale_pos
  rw [unitsOf_zero, Nat.zero_mul] at h
  rwa [Nat.zero_mul, hc]

theorem spelling_zero (hm : m.val = 0) : (number negative m).spelling = ⟨0, -1⟩ := by
  rw [spelling, shortest_zero hm]
  rfl

theorem exists_spelling (negative : Bool) (hm : m.val ≠ 0) : ∃ d i : Nat,
    (number negative m).spelling = ⟨d, (i : Int) - 1074⟩ ∧ IsPoint m.val d i ∧
      (1074 ≤ i → 10 ^ 16 ≤ d * 10 ^ (i - 1074)) := by
  obtain ⟨d, j, hs, hp⟩ := exists_shortest .even hm
  rw [spelling, hs]
  exact Decimal.exists_spelled hp

theorem reread?_number (hm : m.isInfinite = false) : (number negative m).reread? =
    (scale? (number negative m).spelling.digits (number negative m).spelling.exponent).map
      (withSign negative) := by
  rw [reread?, hm]
  rfl

/-- Finite numbers that are no further from zero than a power of ten. -/
structure IsWithin (e : Nat) (x : Binary64) : Prop where
  finite : x.isFinite = true
  not_above : (pow10 e).lt x = false
  not_below : x.lt (pow10 e).neg = false

instance (e : Nat) (x : Binary64) : Decidable (IsWithin e x) :=
  decidable_of_iff (x.isFinite = true ∧ (pow10 e).lt x = false ∧ x.lt (pow10 e).neg = false)
    ⟨fun h => ⟨h.1, h.2.1, h.2.2⟩, fun h => ⟨h.1, h.2, h.3⟩⟩

theorem IsWithin.le {e : Nat} {negative : Bool} {m : Magnitude}
    (h : IsWithin e (number negative m)) : m.val ≤ (ofWhole (10 ^ e)).val := by
  have h1 := h.not_above
  have h2 := h.not_below
  rw [pow10_eq] at h1 h2
  cases negative <;>
    simp only [lt, neg, place, Bool.not_false, if_true, Bool.false_eq_true, if_false,
      decide_eq_false_iff_not] at h1 h2 <;> omega

theorem IsWithin.exists_reread? (h : IsWithin 300 x) : ∃ y, x.reread? = some y := by
  cases x with
  | nan => cases h.finite
  | number negative m =>
    have hfin := h.finite
    have hle := h.le
    rw [isFinite, Bool.not_eq_true'] at hfin
    rw [← Option.isSome_iff_exists, reread?_number hfin, Option.isSome_map]
    by_cases hm : m.val = 0
    · rw [spelling_zero hm]
      rfl
    · obtain ⟨d, i, hs, hp, -⟩ := exists_spelling negative hm
      rw [hs]
      rcases Nat.lt_or_ge i 1074 with hi | hi
      · exact scale?_negative_isSome hi
      · obtain ⟨e, rfl⟩ := Nat.exists_eq_add_of_le' hi
        have hu := (unitsOf_strictMono.monotone hle).trans (units_ofWhole_le _)
        have := scale?_ofNat_isSome hp.pos (hp.nearest.mul_pow_le hm hu)
        rwa [show ((e + 1074 : Nat) : Int) - 1074 = .ofNat e by rw [Int.ofNat_eq_natCast]; omega]

/-- Numbers from zero to a hundred, with both zeros among them. -/
structure IsPercentage (x : Binary64) : Prop where
  not_nan : x ≠ nan
  not_below : x.lt zero = false
  not_above : hundred.lt x = false

instance (x : Binary64) : Decidable x.IsPercentage :=
  decidable_of_iff (x ≠ nan ∧ x.lt zero = false ∧ hundred.lt x = false)
    ⟨fun h => ⟨h.1, h.2.1, h.2.2⟩, fun h => ⟨h.1, h.2, h.3⟩⟩

theorem IsPercentage.le {negative : Bool} {m : Magnitude} (h : IsPercentage (number negative m)) :
    m.val ≤ (ofWhole 100).val := by
  have h1 := h.not_above
  have h2 := h.not_below
  have h0 : ((0 : Magnitude).val : Int) = 0 := rfl
  change (number false (ofWhole 100)).lt _ = false at h1
  cases negative <;>
    simp only [lt, zero, place, if_true, Bool.false_eq_true, if_false,
      decide_eq_false_iff_not] at h1 h2 <;> omega

/-- Numbers of one sign whose codes are no further apart than `n`. -/
def IsNear (n : Nat) : Binary64 → Binary64 → Prop
  | number s a, number t b => s = t ∧ SimilarityClient.IsNear n a.val b.val
  | _, _ => False

/-- The text of a number has at most 22 places. -/
def HasFewPlaces (x : Binary64) : Prop := -22 ≤ x.spelling.exponent

/-- The digits of the text of a number, without the point, make a number of 53 bits. -/
def HasFewDigits (x : Binary64) : Prop := x.spelling.digits ≤ 2 * fractionCount

instance (x : Binary64) : Decidable x.HasFewPlaces := inferInstanceAs (Decidable (_ ≤ _))
instance (x : Binary64) : Decidable x.HasFewDigits := inferInstanceAs (Decidable (_ ≤ _))

theorem IsPercentage.isInfinite (h : IsPercentage (number negative m)) : m.isInfinite = false := by
  have hl : 100 ≤ 10 ^ 308 := (by decide : 100 ≤ 10 ^ 2).trans (ten_pow_le (by decide))
  have hlt := codeOf_whole_lt hl
  have hle := h.le
  rw [ofWhole_val hl] at hle
  rw [Magnitude.isInfinite, beq_eq_false_iff_ne]
  omega

theorem IsPercentage.exists_places (h : IsPercentage (number negative m)) : ∃ d k : Nat,
    (number negative m).spelling = ⟨d, -(k : Int)⟩ ∧
      IsNearest (d * unitsPerOne * unitsPerOne) (10 ^ k * unitsPerOne) m.val ∧
      d < 10 ^ 18 ∧ (d = 0 → k ≤ 22) ∧ 0 < k ∧ k ≤ 330 := by
  by_cases hm : m.val = 0
  · exact ⟨0, 1, spelling_zero hm, isNearest_places (i := 1073) (isNearest_zero hm _) rfl, by decide,
      fun _ => by decide, by decide, by decide⟩
  · obtain ⟨d, i, hs, hp, hlarge⟩ := exists_spelling negative hm
    have hi : i < 1074 := by
      by_contra hi
      obtain ⟨e, rfl⟩ := Nat.exists_eq_add_of_le' (Nat.le_of_not_lt hi)
      have hu := (unitsOf_strictMono.monotone h.le).trans (units_ofWhole_le 100)
      have := hp.nearest.mul_pow_le hm hu
      have := hlarge (Nat.le_of_not_lt hi)
      rw [Nat.add_sub_cancel] at this
      omega
    have hge := hp.ge
    have hpos := hp.pos
    refine ⟨d, 1074 - i, ?_, isNearest_places hp.nearest (by omega), hp.lt, by omega, by omega,
      by omega⟩
    rw [hs, show (i : Int) - 1074 = -(1074 - i : Nat) by omega]

theorem withSign_number (negative : Bool) (m : Magnitude) :
    withSign negative (number false m) = number negative m := by
  cases negative <;> rfl

/-- How near a number stays that is written and read again. Three roundings come
between at most, only one with few places, and none with few digits besides. -/
structure IsKeptAs (x y : Binary64) : Prop where
  near : IsNear 3 x y
  near_of_places : x.HasFewPlaces → IsNear 1 x y
  eq_of_digits : x.HasFewPlaces → x.HasFewDigits → y = x

/-- The text of a percentage is read as a number close to it. -/
theorem IsPercentage.exists_reread? (h : IsPercentage x) :
    ∃ y, x.reread? = some y ∧ IsKeptAs x y := by
  cases x with
  | nan => exact absurd rfl h.not_nan
  | number negative m =>
    obtain ⟨d, k, hs, hn, hd, hd0, h0, hk⟩ := h.exists_places
    have hplaces : (number negative m).HasFewPlaces ↔ k ≤ 22 := by
      rw [HasFewPlaces, hs]
      dsimp only
      omega
    have hdigits : (number negative m).HasFewDigits ↔ d ≤ 2 * fractionCount := by
      rw [HasFewDigits, hs]
    have hread {m' : Magnitude} (hm' : scale? d (-k) = some (number false m')) :
        (number negative m).reread? = some (number negative m') := by
      rw [reread?_number h.isInfinite, hs, hm', Option.map_some, withSign_number]
    have hl : d ≤ 10 ^ 308 := hd.le.trans (ten_pow_le (by decide))
    rcases Nat.lt_or_ge 22 k with hfar | hnear
    · obtain ⟨m', hm', hnear⟩ := scale?_near hn (by omega) hd.le h0 hk
      exact ⟨_, hread hm', ⟨rfl, hnear⟩, fun hp => by rw [hplaces] at hp; omega,
        fun hp => by rw [hplaces] at hp; omega⟩
    rcases Nat.lt_or_ge (2 * fractionCount) d with hlong | hshort
    · obtain ⟨m', hm', hone⟩ := scale?_near_one hn h0 (Nat.zero_lt_of_lt hlong) hl hnear
      exact ⟨_, hread hm', ⟨rfl, hone.mono (by decide)⟩, fun _ => ⟨rfl, hone⟩,
        fun _ hd => by rw [hdigits] at hd; omega⟩
    · exact ⟨_, hread (scale?_exact hn h0 hnear hshort), ⟨rfl, .refl 3 _⟩, fun _ => ⟨rfl, .refl 1 _⟩,
        fun _ _ => rfl⟩

end Binary64

end SimilarityClient
