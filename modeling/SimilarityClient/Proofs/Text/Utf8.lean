import SimilarityClient.Text.Utf8

/-! # Texts as bytes

A text is read back from its bytes. A byte below `0x80` stands for itself and
is never a part of another character. The first byte of a character shows how
many follow, and where the next one may be so that no character has two
encodings.
-/

namespace SimilarityClient.Text

theorem toNat_ofNat_of_lt {n : Nat} (h : n < 256) : (UInt8.ofNat n).toNat = n := by
  simpa using h

theorem isValidChar_toNat (c : Char) : c.toNat < 0xD800 ∨ 0xDFFF < c.toNat ∧ c.toNat < 0x110000 :=
  c.valid

theorem utf8EncodeChar_of_lt {c : Char} (h : c.toNat < 0x80) :
    String.utf8EncodeChar c = [UInt8.ofNat c.toNat] := by
  have hc : c.val.toNat ≤ 127 := Nat.le_of_lt_succ h
  simp only [String.utf8EncodeChar, if_pos hc]
  rfl

theorem le_of_mem_utf8EncodeChar {c : Char} (h : 0x80 ≤ c.toNat) {b : UInt8}
    (hb : b ∈ String.utf8EncodeChar c) : 0x80 ≤ b.toNat := by
  have hc : ¬ c.val.toNat ≤ 127 := Nat.not_le.2 h
  have hn : ∀ n, 128 ≤ n → n < 256 → b = UInt8.ofNat n → 0x80 ≤ b.toNat := by
    rintro n hl hu rfl
    rwa [toNat_ofNat_of_lt hu]
  simp only [String.utf8EncodeChar, if_neg hc] at hb
  split at hb
  · simp only [List.mem_cons, List.not_mem_nil, or_false] at hb
    rcases hb with hb | hb <;> exact hn _ (by omega) (by omega) hb
  · split at hb
    · simp only [List.mem_cons, List.not_mem_nil, or_false] at hb
      rcases hb with hb | hb | hb <;> exact hn _ (by omega) (by omega) hb
    · simp only [List.mem_cons, List.not_mem_nil, or_false] at hb
      rcases hb with hb | hb | hb | hb <;> exact hn _ (by omega) (by omega) hb

section Sequence

variable {missing first last code n d : Nat}

theorem readUtf8From_start {p : Pending} (hn : n < 256) (h : startSequence n = .inr p)
    (r : Bytes) : readUtf8From none (UInt8.ofNat n :: r) = readUtf8From (some p) r := by
  rw [readUtf8From, toNat_ofNat_of_lt hn, h]

theorem readUtf8From_continue (hd : d < 64) (hf : first ≤ d + 128) (hl : d + 128 ≤ last)
    (r : Bytes) :
    readUtf8From (some ⟨missing + 2, first, last, code⟩) (UInt8.ofNat (d + 128) :: r) =
      readUtf8From (some ⟨missing + 1, 0x80, 0xBF, code * 64 + d⟩) r := by
  have hm : missing + 2 ≠ 1 := by omega
  simp only [readUtf8From, toNat_ofNat_of_lt (show d + 128 < 256 by omega), Nat.add_sub_cancel,
    if_pos (And.intro hf hl), if_neg hm]
  rfl

theorem readUtf8From_end (hd : d < 64) (hf : first ≤ d + 128) (hl : d + 128 ≤ last) (r : Bytes) :
    readUtf8From (some ⟨1, first, last, code⟩) (UInt8.ofNat (d + 128) :: r) =
      Char.ofNat (code * 64 + d) :: readUtf8From none r := by
  simp only [readUtf8From, toNat_ofNat_of_lt (show d + 128 < 256 by omega), Nat.add_sub_cancel,
    if_pos (And.intro hf hl), if_true]

end Sequence

variable {n : Nat}

theorem startSequence_two (h : 0x80 ≤ n) (h' : n < 0x800) :
    startSequence (n / 64 % 32 + 192) = .inr ⟨1, 0x80, 0xBF, n / 64⟩ := by
  rw [startSequence, if_neg (by omega), if_pos (by omega), show n / 64 % 32 = n / 64 by omega,
    Nat.add_sub_cancel]

theorem startSequence_three (h : n < 0x10000) : startSequence (n / 4096 % 16 + 224) =
    .inr ⟨2, if n / 4096 = 0 then 0xA0 else 0x80, if n / 4096 = 13 then 0x9F else 0xBF,
      n / 4096⟩ := by
  rw [startSequence, if_neg (by omega), if_neg (by omega), if_pos (by omega),
    show n / 4096 % 16 = n / 4096 by omega, Nat.add_sub_cancel]
  simp

theorem startSequence_four (h : n < 0x110000) : startSequence (n / 262144 % 8 + 240) =
    .inr ⟨3, if n / 262144 = 0 then 0x90 else 0x80, if n / 262144 = 4 then 0x8F else 0xBF,
      n / 262144⟩ := by
  rw [startSequence, if_neg (by omega), if_neg (by omega), if_neg (by omega), if_pos (by omega),
    show n / 262144 % 8 = n / 262144 by omega, Nat.add_sub_cancel]
  simp

/-- The bytes of a character are read as it, whatever follows them. -/
theorem readUtf8From_utf8EncodeChar (c : Char) (r : Bytes) :
    readUtf8From none (String.utf8EncodeChar c ++ r) = c :: readUtf8From none r := by
  have hv := isValidChar_toNat c
  have ho : Char.ofNat c.toNat = c := Char.ofNat_toNat c
  generalize hn : c.toNat = n at hv ho
  have he : c.val.toNat = n := hn
  -- one case for every number of bytes, the surrogates missing from the third
  simp only [String.utf8EncodeChar, he]
  split
  · have hs : startSequence n = .inl (Char.ofNat n) := by
      rw [startSequence, if_pos (by omega)]
    rw [List.singleton_append, readUtf8From, toNat_ofNat_of_lt (by omega), hs, ho]
  split
  · have hc : n / 64 * 64 + n % 64 = n := by omega
    simp only [List.cons_append, List.nil_append]
    rw [readUtf8From_start (by omega) (startSequence_two (by omega) (by omega)),
      readUtf8From_end (by omega) (by omega) (by omega), hc, ho]
  split
  · have hc : (n / 4096 * 64 + n / 64 % 64) * 64 + n % 64 = n := by omega
    simp only [List.cons_append, List.nil_append]
    rw [readUtf8From_start (by omega) (startSequence_three (by omega)),
      readUtf8From_continue (by omega) (by split <;> omega) (by split <;> omega),
      readUtf8From_end (by omega) (by omega) (by omega), hc, ho]
  · have hc : ((n / 262144 * 64 + n / 4096 % 64) * 64 + n / 64 % 64) * 64 + n % 64 = n := by omega
    simp only [List.cons_append, List.nil_append]
    rw [readUtf8From_start (by omega) (startSequence_four (by omega)),
      readUtf8From_continue (by omega) (by split <;> omega) (by split <;> omega),
      readUtf8From_continue (by omega) (by omega) (by omega),
      readUtf8From_end (by omega) (by omega) (by omega), hc, ho]

theorem readUtf8_utf8 (s : List Char) : readUtf8 (utf8 s) = s := by
  induction s with
  | nil => rfl
  | cons c s ih => rw [utf8_cons, readUtf8, readUtf8From_utf8EncodeChar, ← readUtf8, ih]

def IsAscii (t : List Char) : Prop := ∀ c ∈ t, c.toNat < 0x80

variable {s t : List Char}

theorem toNat_ofNat_toNat {c : Char} (h : c.toNat < 0x80) :
    (UInt8.ofNat c.toNat).toNat = c.toNat :=
  toNat_ofNat_of_lt (by omega)

theorem utf8_cons_of_lt {c : Char} (h : c.toNat < 0x80) (s : List Char) :
    utf8 (c :: s) = UInt8.ofNat c.toNat :: utf8 s := by
  rw [utf8_cons, utf8EncodeChar_of_lt h, List.singleton_append]

theorem eq_of_mem_utf8EncodeChar {a c : Char} (ha : a.toNat < 0x80)
    (h : UInt8.ofNat a.toNat ∈ String.utf8EncodeChar c) : a = c := by
  by_cases hc : c.toNat < 0x80
  · rw [utf8EncodeChar_of_lt hc, List.mem_singleton] at h
    have he := congrArg UInt8.toNat h
    rwa [toNat_ofNat_toNat ha, toNat_ofNat_toNat hc, Char.toNat_inj] at he
  · have hl := le_of_mem_utf8EncodeChar (Nat.not_lt.1 hc) h
    rw [toNat_ofNat_toNat ha] at hl
    omega

theorem mem_of_mem_utf8 {a : Char} (ha : a.toNat < 0x80) (h : UInt8.ofNat a.toNat ∈ utf8 s) :
    a ∈ s := by
  obtain ⟨c, hc, hm⟩ := List.mem_flatMap.1 h
  exact eq_of_mem_utf8EncodeChar ha hm ▸ hc

theorem prefix_of_utf8 (ht : IsAscii t) (h : utf8 t <+: utf8 s) : t <+: s := by
  induction t generalizing s with
  | nil => exact List.nil_prefix
  | cons a t ih =>
    have ha : a.toNat < 0x80 := ht a List.mem_cons_self
    cases s with
    | nil => simp [utf8_cons_of_lt ha] at h
    | cons c s =>
      obtain ⟨b, r, hb⟩ := List.exists_cons_of_ne_nil (String.utf8EncodeChar_ne_nil (c := c))
      have hm : UInt8.ofNat a.toNat ∈ String.utf8EncodeChar c := by
        rw [utf8_cons_of_lt ha, utf8_cons, hb] at h
        rw [hb, (List.cons_prefix_cons.1 h).1]
        exact List.mem_cons_self
      obtain rfl := eq_of_mem_utf8EncodeChar ha hm
      rw [utf8_cons_of_lt ha, utf8_cons_of_lt ha, List.cons_prefix_cons] at h
      exact List.cons_prefix_cons.2 ⟨rfl, ih (fun d hd => ht d (List.mem_cons_of_mem _ hd)) h.2⟩

theorem infix_of_infix_append {α : Type} {a : α} {p u v : List α} (ha : a ∉ u)
    (h : a :: p <:+: u ++ v) : a :: p <:+: v := by
  induction u with
  | nil => exact h
  | cons b u ih =>
    rw [List.mem_cons, not_or] at ha
    rcases List.infix_cons_iff.1 h with hp | hi
    · exact absurd (List.cons_prefix_cons.1 hp).1 ha.1
    · exact ih ha.2 hi

/-- An ASCII text stands in the bytes of a text only where it stands in the text. -/
theorem infix_of_utf8 (ht : IsAscii t) (h : utf8 t <:+: utf8 s) : t <:+: s := by
  cases t with
  | nil => exact List.nil_infix
  | cons a t =>
    have ha : a.toNat < 0x80 := ht a List.mem_cons_self
    induction s with
    | nil => simp [utf8_cons_of_lt ha] at h
    | cons c s ih =>
      have hs := (List.suffix_cons c s).isInfix
      by_cases hm : UInt8.ofNat a.toNat ∈ String.utf8EncodeChar c
      · obtain rfl := eq_of_mem_utf8EncodeChar ha hm
        rw [utf8_cons_of_lt ha s, List.infix_cons_iff, ← utf8_cons_of_lt ha s] at h
        rcases h with hp | hi
        · exact (prefix_of_utf8 ht hp).isInfix
        · exact (ih hi).trans hs
      · rw [utf8_cons_of_lt ha, utf8_cons] at h
        rw [utf8_cons_of_lt ha] at ih
        exact (ih (infix_of_infix_append hm h)).trans hs

end SimilarityClient.Text
