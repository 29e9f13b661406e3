import Mathlib.Data.List.DropRight
import SimilarityClient.Text.Blank

/-! # Trimmed texts

Trimming takes the blanks off both ends, and leaves a text alone that has none
of them. Slashes at the end are taken off until another character ends the text.
-/

namespace SimilarityClient.Text

variable {p : Char → Bool} {s before after : List Char}

theorem isBlank_of_isDigit {c : Char} (h : c.isDigit = true) : isBlank c = false := by
  rw [Char.isDigit, Bool.and_eq_true, decide_eq_true_iff, decide_eq_true_iff] at h
  have h0 : 48 ≤ c.toNat := h.1
  have h9 : c.toNat ≤ 57 := h.2
  simp only [isBlank, Bool.or_eq_false_iff, Bool.and_eq_false_iff, decide_eq_false_iff_not,
    beq_eq_false_iff_ne]
  omega

theorem dropEndWhile_eq_rdropWhile (p : Char → Bool) (s : List Char) :
    dropEndWhile p s = s.rdropWhile p := rfl

theorem dropEndWhile_eq_self (h : ∀ c ∈ s.getLast?, p c = false) : dropEndWhile p s = s := by
  rw [dropEndWhile_eq_rdropWhile, List.rdropWhile_eq_self_iff]
  intro hs
  rw [h _ (List.getLast?_eq_some_getLast hs)]
  exact Bool.false_ne_true

theorem trim_surrounded (hb : ∀ c ∈ before, isBlank c = true) (ha : ∀ c ∈ after, isBlank c = true)
    (hf : ∀ c ∈ s.head?, isBlank c = false) (hl : ∀ c ∈ s.getLast?, isBlank c = false) :
    trim (before ++ s ++ after) = s := by
  rw [trim, List.append_assoc, List.dropWhile_append_of_pos hb]
  cases s with
  | nil => rw [List.nil_append, List.dropWhile_eq_nil_iff.2 ha]; rfl
  | cons c s =>
    have hc : ¬isBlank c = true := by simp [hf c rfl]
    rw [List.cons_append, List.dropWhile_cons_of_neg hc, ← List.cons_append,
      dropEndWhile_append_of_all ha]
    exact dropEndWhile_eq_self hl

theorem trim_append (hb : ∀ c ∈ before, isBlank c = true) (hs : ∀ c ∈ s, isBlank c = false)
    (ha : ∀ c ∈ after, isBlank c = true) : trim (before ++ s ++ after) = s :=
  trim_surrounded hb ha (fun c hc => hs c (List.mem_of_head? hc))
    fun c hc => hs c (List.mem_of_getLast? hc)

theorem trim_eq_self_of_ends (hf : ∀ c ∈ s.head?, isBlank c = false)
    (hl : ∀ c ∈ s.getLast?, isBlank c = false) : trim s = s := by
  have he : ∀ c ∈ ([] : List Char), isBlank c = true := List.forall_mem_nil _
  have h := trim_surrounded he he hf hl
  rwa [List.nil_append, List.append_nil] at h

theorem trim_eq_self (hs : ∀ c ∈ s, isBlank c = false) : trim s = s :=
  trim_eq_self_of_ends (fun c hc => hs c (List.mem_of_head? hc))
    fun c hc => hs c (List.mem_of_getLast? hc)

theorem exists_dropEndWhile (p : Char → Bool) (s : List Char) :
    ∃ t, s = dropEndWhile p s ++ t ∧ ∀ c ∈ t, p c = true := by
  refine ⟨(s.reverse.takeWhile p).reverse, ?_, ?_⟩
  · rw [dropEndWhile, ← List.reverse_append, List.takeWhile_append_dropWhile, List.reverse_reverse]
  · intro c hc
    exact List.mem_takeWhile_imp (List.mem_reverse.1 hc)

theorem dropEndWhile_prefix (p : Char → Bool) (s : List Char) : dropEndWhile p s <+: s :=
  List.rdropWhile_prefix p s

/-- What trimming takes off a text is blank, and what it leaves has no blank at its ends. -/
theorem exists_trim (s : List Char) : ∃ before after, s = before ++ trim s ++ after ∧
    (∀ c ∈ before, isBlank c = true) ∧ (∀ c ∈ after, isBlank c = true) ∧
    (∀ c ∈ (trim s).head?, isBlank c = false) ∧ ∀ c ∈ (trim s).getLast?, isBlank c = false := by
  obtain ⟨after, hs, ha⟩ := exists_dropEndWhile isBlank (s.dropWhile isBlank)
  refine ⟨s.takeWhile isBlank, after, ?_, ?_, ha, ?_, ?_⟩
  · rw [List.append_assoc, trim, ← hs, List.takeWhile_append_dropWhile]
  · exact fun c hc => List.mem_takeWhile_imp hc
  · intro c hc
    obtain ⟨r, hr⟩ := List.head?_eq_some_iff.1 hc
    rw [← trim, hr] at hs
    have hd := List.head?_dropWhile_not isBlank s
    rw [hs] at hd
    simpa using hd
  · exact fun c hc => getLast?_dropEndWhile hc

theorem dropEndSlashes_append_replicate (h : s.getLast? ≠ some '/') (n : Nat) :
    dropEndSlashes (s ++ List.replicate n '/') = s := by
  rw [dropEndSlashes, dropEndWhile_append_of_all]
  · refine dropEndWhile_eq_self fun c hc => ?_
    rw [beq_eq_false_iff_ne]
    rintro rfl
    exact h hc
  · intro c hc
    rw [List.eq_of_mem_replicate hc]
    rfl

theorem getLast?_dropEndSlashes (s : List Char) : (dropEndSlashes s).getLast? ≠ some '/' := by
  intro h
  cases getLast?_dropEndWhile h

end SimilarityClient.Text
