import Mathlib.Data.List.Basic
import SimilarityClient.Text.Blank
import SimilarityClient.Text.Case

/-! # Lower case twice

Lower case leads to characters that it leaves alone, so that a text in lower case
stays as it is. Blanks and points come of blanks and points only.
-/

namespace SimilarityClient.Text

variable {run other : CaseRun} {n : Nat} {c d : Char} {before after s : List Char}

def CaseRun.targets (run : CaseRun) : List Nat :=
  (List.range ((run.last - run.first) / run.stride + 1)).map fun k => run.target + k * run.stride

theorem CaseRun.mem_targets (h : run.covers n = true) :
    run.target + (n - run.first) ∈ run.targets := by
  simp only [covers, Bool.and_eq_true, decide_eq_true_eq, beq_iff_eq] at h
  obtain ⟨⟨-, hl⟩, hs⟩ := h
  refine List.mem_map.2 ⟨(n - run.first) / run.stride, ?_, ?_⟩
  · have hd : (n - run.first) / run.stride ≤ (run.last - run.first) / run.stride :=
      Nat.div_le_div_right (Nat.sub_le_sub_right hl _)
    exact List.mem_range.2 (Nat.lt_succ_of_le hd)
  · rw [Nat.div_mul_cancel (Nat.dvd_of_mod_eq_zero hs)]

/-- The targets of a run stand before or behind another run, or between the code points of one
that takes every other. -/
def CaseRun.apart (run other : CaseRun) : Bool :=
  Nat.blt (run.target + (run.last - run.first)) other.first || Nat.blt other.last run.target ||
    (other.stride == 2 && (run.stride == 2 || run.first == run.last) &&
      (run.target + other.first) % 2 == 1)

theorem CaseRun.not_covers_of_apart (h : run.apart other = true) (hn : run.covers n = true) :
    other.covers (run.target + (n - run.first)) = false := by
  simp only [apart, Bool.or_eq_true, Bool.and_eq_true, beq_iff_eq, Nat.blt_eq] at h
  simp only [covers, Bool.and_eq_true, decide_eq_true_eq, beq_iff_eq] at hn
  obtain ⟨⟨hf, hl⟩, hs⟩ := hn
  rw [Bool.eq_false_iff]
  intro ho
  simp only [covers, Bool.and_eq_true, decide_eq_true_eq, beq_iff_eq] at ho
  obtain ⟨⟨hf', hl'⟩, hs'⟩ := ho
  rcases h with (h | h) | ⟨⟨h, h' | h'⟩, hp⟩
  · omega
  · omega
  · rw [h'] at hs
    rw [h] at hs'
    omega
  · rw [h] at hs'
    omega

theorem apart_of_mem (hr : run ∈ lowerRuns) (ho : other ∈ lowerRuns) : run.apart other = true := by
  have h : (lowerRuns.all fun run => lowerRuns.all run.apart) = true := by decide +kernel
  exact List.all_eq_true.1 (List.all_eq_true.1 h run hr) other ho

/-- A code point of a character that lower case leaves alone, neither a blank nor a point. -/
structure IsTarget (n : Nat) : Prop where
  valid : n.isValidChar
  ne_dotted : n ≠ 0x130
  not_covers : ∀ run ∈ lowerRuns, run.covers n = false
  not_blank : isBlank (Char.ofNat n) = false
  ne_point : Char.ofNat n ≠ '.'

/-- What a target is, as far as the target alone tells. -/
def isMild (n : Nat) : Bool :=
  decide n.isValidChar && n != 0x130 && !isBlank (Char.ofNat n) && Char.ofNat n != '.'

theorem isTarget_of_isMild (h : isMild n = true)
    (hc : ∀ run ∈ lowerRuns, run.covers n = false) : IsTarget n := by
  simp only [isMild, Bool.and_eq_true, decide_eq_true_eq, bne_iff_ne, Bool.not_eq_true'] at h
  exact ⟨h.1.1.1, h.1.1.2, hc, h.1.2, h.2⟩

theorem isTarget_of_covers (hr : run ∈ lowerRuns) (hn : run.covers n = true) :
    IsTarget (run.target + (n - run.first)) := by
  have h : (lowerRuns.all fun run => run.targets.all isMild) = true := by decide +kernel
  refine isTarget_of_isMild ?_ fun other ho => ?_
  · exact List.all_eq_true.1 (List.all_eq_true.1 h run hr) _ (CaseRun.mem_targets hn)
  · exact CaseRun.not_covers_of_apart (apart_of_mem hr ho) hn

theorem isTarget_of_mem (hn : n ∈ [0x69, 0x307, 0x3C2, 0x3C3]) : IsTarget n := by
  have h : [0x69, 0x307, 0x3C2, 0x3C3].all (fun n =>
      isMild n && lowerRuns.all fun run => !run.covers n) = true := by decide +kernel
  have hm := List.all_eq_true.1 h n hn
  rw [Bool.and_eq_true, List.all_eq_true] at hm
  exact isTarget_of_isMild hm.1 fun run hr => by simpa using hm.2 run hr

structure IsLower (c : Char) : Prop where
  ne_sigma : c ≠ 'Σ'
  lowerChar_eq : lowerChar c = [c]

theorem IsTarget.isLower (h : IsTarget n) : IsLower (Char.ofNat n) := by
  have hn : (Char.ofNat n).toNat = n := by
    rw [Char.ofNat, dif_pos h.valid]
    rfl
  constructor
  · intro hs
    have hc : lowerRuns.any (·.covers 'Σ'.toNat) = true := by decide +kernel
    obtain ⟨run, hr, hc⟩ := List.any_eq_true.1 hc
    rw [← hs, hn, h.not_covers run hr] at hc
    cases hc
  · have hf : lowerRuns.find? (·.covers n) = none := by
      rw [List.find?_eq_none]
      intro run hr
      simp [h.not_covers run hr]
    rw [lowerChar, hn, if_neg h.ne_dotted, hf]

def IsForm (c : Char) : Prop := ∃ n, IsTarget n ∧ c = Char.ofNat n

theorem lowerChar_cases (c : Char) :
    lowerChar c = [c] ∨ lowerChar c ≠ [] ∧ ∀ d ∈ lowerChar c, IsForm d := by
  unfold lowerChar
  split
  · right
    simp only [ne_eq, reduceCtorEq, not_false_eq_true, true_and, List.forall_mem_cons]
    exact ⟨⟨0x69, isTarget_of_mem (by simp), rfl⟩, ⟨0x307, isTarget_of_mem (by simp), rfl⟩, by simp⟩
  · split
    · rename_i run hr
      right
      have hc : run.covers c.toNat = true := by simpa using List.find?_some hr
      have ht := isTarget_of_covers (List.mem_of_find?_eq_some hr) hc
      exact ⟨List.cons_ne_nil _ _, List.forall_mem_singleton.2 ⟨_, ht, rfl⟩⟩
    · exact .inl rfl

/-- What stands for a character between others. -/
def formOf (before : List Char) (c : Char) (after : List Char) : List Char :=
  if c = 'Σ' then [if meetsCased before && !meetsCased after then 'ς' else 'σ'] else lowerChar c

theorem lowerFrom_cons (before : List Char) (c : Char) (s : List Char) :
    lowerFrom before (c :: s) = formOf before c s ++ lowerFrom (c :: before) s := rfl

theorem formOf_ne_nil (before : List Char) (c : Char) (after : List Char) :
    formOf before c after ≠ [] := by
  unfold formOf
  split
  · exact List.cons_ne_nil _ _
  · rcases lowerChar_cases c with h | h
    · simp [h]
    · exact h.1

/-- What stands for a character is in lower case, and the character itself or no blank or point. -/
theorem mem_formOf (h : d ∈ formOf before c after) :
    IsLower d ∧ (d = c ∨ isBlank d = false ∧ d ≠ '.') := by
  have hf : ∀ {d}, IsForm d → IsLower d ∧ (d = c ∨ isBlank d = false ∧ d ≠ '.') := by
    rintro _ ⟨n, hn, rfl⟩
    exact ⟨hn.isLower, .inr ⟨hn.not_blank, hn.ne_point⟩⟩
  unfold formOf at h
  split at h
  · rw [List.mem_singleton] at h
    split at h
    · exact hf ⟨0x3C2, isTarget_of_mem (by simp), h⟩
    · exact hf ⟨0x3C3, isTarget_of_mem (by simp), h⟩
  · rename_i hs
    rcases lowerChar_cases c with hc | hc
    · rw [hc, List.mem_singleton] at h
      subst h
      exact ⟨⟨hs, hc⟩, .inl rfl⟩
    · exact hf (hc.2 d h)

theorem isLower_of_mem_lowerFrom (h : c ∈ lowerFrom before s) : IsLower c := by
  induction s generalizing before with
  | nil => cases h
  | cons d s ih =>
    rw [lowerFrom_cons, List.mem_append] at h
    rcases h with h | h
    · exact (mem_formOf h).1
    · exact ih h

theorem lowerFrom_of_isLower (h : ∀ c ∈ s, IsLower c) : lowerFrom before s = s := by
  induction s generalizing before with
  | nil => rfl
  | cons c s ih =>
    have hc := h c List.mem_cons_self
    rw [lowerFrom_cons, formOf, if_neg hc.ne_sigma, hc.lowerChar_eq,
      ih fun d hd => h d (List.mem_cons_of_mem _ hd)]
    rfl

theorem lower_lower (s : List Char) : lower (lower s) = lower s :=
  lowerFrom_of_isLower fun _ => isLower_of_mem_lowerFrom

@[simp] theorem lower_eq_nil_iff : lower s = [] ↔ s = [] := by
  constructor
  · intro h
    cases s with
    | nil => rfl
    | cons c s => exact absurd (List.append_eq_nil_iff.1 h).1 (formOf_ne_nil [] c s)
  · rintro rfl
    rfl

theorem head?_lower_ne (h : s.head? ≠ some '.') : (lower s).head? ≠ some '.' := by
  cases s with
  | nil => exact h
  | cons c s =>
    obtain ⟨d, r, hf⟩ := List.exists_cons_of_ne_nil (formOf_ne_nil [] c s)
    rw [lower, lowerFrom_cons, hf, List.cons_append, List.head?_cons, ne_eq, Option.some.injEq]
    have hd : d ∈ formOf [] c s := hf ▸ List.mem_cons_self
    rcases (mem_formOf hd).2 with rfl | ⟨-, hne⟩
    · simpa using h
    · exact hne

theorem exists_lowerFrom_concat (before s : List Char) (c : Char) :
    ∃ t, lowerFrom before (s ++ [c]) = t ++ formOf (s.reverse ++ before) c [] := by
  induction s generalizing before with
  | nil => exact ⟨[], by simp [lowerFrom_cons, lowerFrom]⟩
  | cons d s ih =>
    obtain ⟨t, ht⟩ := ih (d :: before)
    refine ⟨formOf before d (s ++ [c]) ++ t, ?_⟩
    rw [List.cons_append, lowerFrom_cons, ht]
    simp

theorem getLast?_lower_not_blank (h : ∀ c ∈ s.getLast?, isBlank c = false) :
    ∀ c ∈ (lower s).getLast?, isBlank c = false := by
  rcases s.eq_nil_or_concat with rfl | ⟨s, c, rfl⟩
  · exact h
  · rw [List.concat_eq_append] at h ⊢
    intro d hd
    obtain ⟨t, ht⟩ := exists_lowerFrom_concat [] s c
    rw [lower, ht, List.getLast?_append_of_ne_nil _ (formOf_ne_nil _ _ _)] at hd
    rcases (mem_formOf (List.mem_of_getLast? hd)).2 with rfl | ⟨hb, -⟩
    · exact h d (by simp)
    · exact hb

end SimilarityClient.Text
