import SimilarityClient.Text.Numeral

/-! # Numerals made of digits

The value of a text of digits is `Nat.ofDigitChars 10`, which also goes on from
digits that have been read before.
-/

namespace SimilarityClient.Text

/-- A text of digits, none of them missing and none of them another character. -/
def IsDigits (s : List Char) : Prop := ∀ c ∈ s, c.isDigit = true

abbrev digitValue (c : Char) : Nat := c.toNat - '0'.toNat

theorem IsDigits.of_cons {c : Char} {s : List Char} (h : IsDigits (c :: s)) :
    c.isDigit = true ∧ IsDigits s :=
  List.forall_mem_cons.1 h

theorem IsDigits.subset {s t : List Char} (hs : IsDigits s) (h : t ⊆ s) : IsDigits t :=
  fun c hc => hs c (h hc)

theorem IsDigits.append {s t : List Char} (hs : IsDigits s) (ht : IsDigits t) :
    IsDigits (s ++ t) := by
  intro c hc
  rcases List.mem_append.1 hc with h | h
  · exact hs c h
  · exact ht c h

theorem isDigits_replicate (n : Nat) : IsDigits (List.replicate n '0') := by
  intro c hc
  rw [List.eq_of_mem_replicate hc]
  rfl

theorem isDigits_decimal (n : Nat) : IsDigits (decimal n) := by
  intro c hc
  exact Nat.isDigit_of_mem_toDigits (by decide) (by decide) hc

theorem decimal_ne_nil (n : Nat) : decimal n ≠ [] := Nat.toDigits_ne_nil

@[simp] theorem ofDigitChars_decimal (n : Nat) : Nat.ofDigitChars 10 (decimal n) 0 = n :=
  Nat.ofDigitChars_toDigits (by decide) (by decide)

theorem decimal_injective {m n : Nat} (h : decimal m = decimal n) : m = n := by
  rw [← ofDigitChars_decimal m, h, ofDigitChars_decimal]

theorem digit?_of_isDigit {c : Char} (h : c.isDigit = true) : digit? c = some (digitValue c) := by
  rw [Char.isDigit, Bool.and_eq_true, decide_eq_true_iff, decide_eq_true_iff] at h
  exact if_pos h

theorem digitValue_eq_zero {c : Char} (h : c.isDigit = true) : digitValue c = 0 ↔ c = '0' := by
  rw [Char.isDigit, Bool.and_eq_true, decide_eq_true_iff, decide_eq_true_iff] at h
  have h0 : '0'.toNat ≤ c.toNat := h.1
  constructor
  · intro hz
    refine Char.toNat_inj.1 ?_
    rw [digitValue] at hz
    omega
  · rintro rfl
    rfl

theorem le_ofDigitChars (s : List Char) (value : Nat) : value ≤ Nat.ofDigitChars 10 s value := by
  induction s generalizing value with
  | nil => exact Nat.le_refl value
  | cons c s ih =>
    rw [Nat.ofDigitChars_cons]
    have := ih (10 * value + (c.toNat - '0'.toNat))
    omega

theorem head?_decimal_ne {n : Nat} (h : 0 < n) : (decimal n).head? ≠ some '0' := by
  induction n using Nat.strongRecOn with
  | ind n ih =>
    rw [decimal, Nat.toDigits_eq_if (by decide)]
    split
    · rw [List.head?_cons, ne_eq, Option.some.injEq, Nat.digitChar_eq_zero]
      omega
    · have hi := ih (n / 10) (by omega) (by omega)
      obtain ⟨c, s, hs⟩ := List.exists_cons_of_ne_nil (decimal_ne_nil (n / 10))
      rw [hs, List.head?_cons] at hi
      rw [decimal] at hs
      rwa [hs, List.cons_append, List.head?_cons]

/-- Digits are read as the number that they go on to, if it is within the limit. -/
theorem readDigits_of_isDigits {limit value : Nat} {s : List Char} (hs : IsDigits s)
    (h : Nat.ofDigitChars 10 s value ≤ limit) :
    readDigits limit value s = .ok (Nat.ofDigitChars 10 s value) := by
  induction s generalizing value with
  | nil => rfl
  | cons c s ih =>
    rw [Nat.ofDigitChars_cons] at h ⊢
    have hle := Nat.le_trans (le_ofDigitChars s _) h
    simp only [readDigits, digit?_of_isDigit hs.of_cons.1]
    rw [if_neg (Nat.not_lt.2 hle)]
    exact ih hs.of_cons.2 h

theorem readDigits_le {limit value n : Nat} {s : List Char} (hv : value ≤ limit)
    (h : readDigits limit value s = .ok n) : n ≤ limit := by
  induction s generalizing value with
  | nil =>
    cases h
    exact hv
  | cons c s ih =>
    rw [readDigits] at h
    split at h
    · cases h
    · split at h
      · cases h
      · exact ih (by omega) h

theorem readUnsigned_le {limit n : Nat} {s : List Char} (h : readUnsigned limit s = .ok n) :
    n ≤ limit := by
  unfold readUnsigned at h
  split at h
  · cases h
  · cases h
  · exact readDigits_le (Nat.zero_le _) h
  · exact readDigits_le (Nat.zero_le _) h

theorem isDigit_of_digit? {c : Char} {d : Nat} (h : digit? c = some d) :
    c.isDigit = true ∧ d = digitValue c := by
  unfold digit? at h
  split at h
  · rename_i hc
    cases h
    rw [Char.isDigit, Bool.and_eq_true, decide_eq_true_iff, decide_eq_true_iff]
    exact ⟨hc, rfl⟩
  · cases h

theorem isDigits_of_readDigits {limit value n : Nat} {s : List Char}
    (h : readDigits limit value s = .ok n) : IsDigits s ∧ Nat.ofDigitChars 10 s value = n := by
  induction s generalizing value with
  | nil =>
    cases h
    exact ⟨List.forall_mem_nil _, rfl⟩
  | cons c s ih =>
    unfold readDigits at h
    split at h
    · cases h
    · rename_i d hd
      obtain ⟨hc, rfl⟩ := isDigit_of_digit? hd
      split at h
      · cases h
      · obtain ⟨hs, hn⟩ := ih h
        exact ⟨List.forall_mem_cons.2 ⟨hc, hs⟩, by rw [Nat.ofDigitChars_cons, hn]⟩

/-- What is read as a number is made of digits, and of a plus sign before them at most. -/
theorem exists_digits_of_readUnsigned {limit n : Nat} {s : List Char}
    (h : readUnsigned limit s = .ok n) : ∃ ds, (s = ds ∨ s = '+' :: ds) ∧ IsDigits ds ∧ ds ≠ [] ∧
      Nat.ofDigitChars 10 ds 0 = n := by
  unfold readUnsigned at h
  split at h
  · cases h
  · cases h
  · rename_i ds hne
    obtain ⟨hd, hn⟩ := isDigits_of_readDigits h
    refine ⟨ds, .inr rfl, hd, ?_, hn⟩
    rintro rfl
    exact hne rfl
  · rename_i hne _ _
    obtain ⟨hd, hn⟩ := isDigits_of_readDigits h
    exact ⟨s, .inl rfl, hd, hne, hn⟩

theorem readUnsigned_decimal {limit n : Nat} (h : n ≤ limit) :
    readUnsigned limit (decimal n) = .ok n := by
  obtain ⟨c, s, hs⟩ := List.exists_cons_of_ne_nil (decimal_ne_nil n)
  have hd := isDigits_decimal n
  have hn := ofDigitChars_decimal n
  rw [hs] at hd hn ⊢
  have hc : c ≠ '+' := by
    rintro rfl
    cases hd.of_cons.1
  have hu : readUnsigned limit (c :: s) = readDigits limit 0 (c :: s) := by
    simp [readUnsigned, hc]
  rw [hu, readDigits_of_isDigits hd (hn.symm ▸ h), hn]

end SimilarityClient.Text
