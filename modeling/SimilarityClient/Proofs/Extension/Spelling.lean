import SimilarityClient.Extension
import SimilarityClient.Proofs.Text.Blank
import SimilarityClient.Proofs.Text.Lower

/-! # Spellings of extensions

An extension may be written down with points in front of it and blanks around,
and in any case. Its normal form shows none of that, and is its own normal form.
-/

namespace SimilarityClient.Extension

open Text

variable {item text text' : List Char} {items forms : List String} {x : String}

/-- Points may stand in front of a text, and blanks around both. The text itself does not begin
with a point, and neither it nor the points end at a blank. -/
inductive Spells (text : List Char) : List Char → Prop
  | intro {before after : List Char} (n : Nat) :
      (∀ c ∈ before, isBlank c = true) → (∀ c ∈ after, isBlank c = true) →
      text.head? ≠ some '.' → (n = 0 → ∀ c ∈ text.head?, isBlank c = false) →
      (∀ c ∈ text.getLast?, isBlank c = false) →
      Spells text (before ++ (List.replicate n '.' ++ text) ++ after)

theorem dropWhile_points (h : text.head? ≠ some '.') (n : Nat) :
    (List.replicate n '.' ++ text).dropWhile (· == '.') = text := by
  rw [List.dropWhile_append_of_pos (by simp)]
  cases text with
  | nil => rfl
  | cons c text => exact List.dropWhile_cons_of_neg (by simpa using h)

theorem exists_points (s : List Char) :
    ∃ n text, s = List.replicate n '.' ++ text ∧ text.head? ≠ some '.' := by
  obtain ⟨n, hn⟩ : ∃ n, s.takeWhile (· == '.') = List.replicate n '.' :=
    ⟨_, List.eq_replicate_of_mem fun c hc => by simpa using List.mem_takeWhile_imp hc⟩
  refine ⟨n, s.dropWhile (· == '.'), ?_, fun hd => ?_⟩
  · rw [← hn, List.takeWhile_append_dropWhile]
  · have hp := List.head?_dropWhile_not (· == '.') s
    rw [hd] at hp
    simp at hp

/-- Whatever the spelling, what counts is the text in lower case. -/
theorem Spells.core_eq (h : Spells text item) : core item = lower text := by
  obtain ⟨n, hb, ha, hp, hf, hl⟩ := h
  have hpoint : isBlank '.' = false := rfl
  have hf' : ∀ c ∈ (List.replicate n '.' ++ text).head?, isBlank c = false := by
    cases n with
    | zero => simpa using hf rfl
    | succ n => simp [List.replicate_succ, hpoint]
  have hl' : ∀ c ∈ (List.replicate n '.' ++ text).getLast?, isBlank c = false := by
    intro c hc
    rw [List.getLast?_append] at hc
    cases hg : text.getLast? with
    | none =>
      rw [hg, Option.none_or] at hc
      rw [List.eq_of_mem_replicate (List.mem_of_getLast? hc), hpoint]
    | some d =>
      rw [hg, Option.some_or] at hc
      exact hl c (hg.trans hc)
  rw [core, trim_surrounded hb ha hf' hl', dropWhile_points hp]

theorem exists_spells (item : List Char) : ∃ text, Spells text item := by
  obtain ⟨before, after, hi, hb, ha, hf, hl⟩ := exists_trim item
  obtain ⟨n, text, ht, hp⟩ := exists_points (trim item)
  rw [ht] at hi hf hl
  refine ⟨text, hi ▸ .intro n hb ha hp ?_ ?_⟩
  · rintro rfl
    exact hf
  · intro c hc
    apply hl
    rw [List.getLast?_append, hc]
    rfl

theorem core_eq_nil_iff : core item = [] ↔ Spells [] item := by
  constructor
  · intro h
    obtain ⟨text, ht⟩ := exists_spells item
    rw [ht.core_eq, lower_eq_nil_iff] at h
    exact h ▸ ht
  · intro h
    rw [h.core_eq, lower_eq_nil_iff]

/-- The normal form of what spells a text. -/
def normalForm (text : List Char) : String := String.ofList ('.' :: lower text)

theorem normalForm_lower (text : List Char) : normalForm (lower text) = normalForm text := by
  rw [normalForm, lower_lower, normalForm]

/-- A point and a text in lower case that does not begin with one. -/
structure IsForm (x : String) (text : List Char) : Prop where
  toList_eq : x.toList = '.' :: text
  ne_nil : text ≠ []
  head?_ne : text.head? ≠ some '.'
  lower_eq : lower text = text

theorem Spells.isForm (h : Spells text item) (hn : text ≠ []) :
    IsForm (normalForm text) (lower text) := by
  obtain ⟨-, -, -, hp, -, -⟩ := h
  exact ⟨String.toList_ofList, mt lower_eq_nil_iff.1 hn, head?_lower_ne hp, lower_lower text⟩

theorem Spells.again (h : Spells text item) :
    Spells (lower text) (normalForm text).toList := by
  obtain ⟨-, -, -, hp, -, hl⟩ := h
  have he : ∀ c ∈ ([] : List Char), isBlank c = true := List.forall_mem_nil _
  have hs := Spells.intro 1 he he (head?_lower_ne hp) nofun (getLast?_lower_not_blank hl)
  rw [normalForm, String.toList_ofList]
  simpa using hs

theorem Spells.normalForm_eq (h : Spells text item) (h' : Spells text' item) :
    normalForm text = normalForm text' := by
  rw [normalForm, normalForm, ← h.core_eq, h'.core_eq]

theorem Spells.eq_nil (h : Spells [] item) (h' : Spells text item) : text = [] := by
  rw [← lower_eq_nil_iff, ← h'.core_eq, core_eq_nil_iff]
  exact h

/-- Items without a text vanish, and of the others the normal forms are kept in order. -/
inductive Normalizes : List String → List String → Prop
  | nil : Normalizes [] []
  | skip {x : String} {items forms : List String} :
      Spells [] x.toList → Normalizes items forms → Normalizes (x :: items) forms
  | keep {x : String} {text : List Char} {items forms : List String} :
      Spells text x.toList → text ≠ [] → Normalizes items forms →
      Normalizes (x :: items) (normalForm text :: forms)

theorem normalize_cons (x : String) (items : List String) : normalize (x :: items) =
    if core x.toList = [] then normalize items
    else String.ofList ('.' :: core x.toList) :: normalize items := by
  unfold normalize
  split <;> simp [*]

theorem normalize_of_spells (h : Spells text x.toList) (hn : text ≠ []) (items : List String) :
    normalize (x :: items) = normalForm text :: normalize items := by
  have hc : core x.toList ≠ [] := by simpa [h.core_eq] using hn
  rw [normalize_cons, if_neg hc, h.core_eq, normalForm]

theorem normalizes_normalize (items : List String) : Normalizes items (normalize items) := by
  induction items with
  | nil => exact .nil
  | cons x items ih =>
    obtain ⟨text, ht⟩ := exists_spells x.toList
    by_cases hn : text = []
    · subst hn
      rw [normalize_cons, if_pos (core_eq_nil_iff.2 ht)]
      exact .skip ht ih
    · rw [normalize_of_spells ht hn]
      exact .keep ht hn ih

theorem Normalizes.eq_normalize (h : Normalizes items forms) : normalize items = forms := by
  induction h with
  | nil => rfl
  | skip hs _ ih => rw [normalize_cons, if_pos (core_eq_nil_iff.2 hs), ih]
  | keep hs hn _ ih => rw [normalize_of_spells hs hn, ih]

theorem normalize_eq_iff : normalize items = forms ↔ Normalizes items forms := by
  constructor
  · rintro rfl
    exact normalizes_normalize items
  · exact Normalizes.eq_normalize

theorem Normalizes.again (h : Normalizes items forms) : Normalizes forms forms := by
  induction h with
  | nil => exact .nil
  | skip _ _ ih => exact ih
  | keep hs hn _ ih =>
    have hk := Normalizes.keep hs.again (mt lower_eq_nil_iff.1 hn) ih
    rwa [normalForm_lower] at hk

theorem Normalizes.exists_isForm (h : Normalizes items forms) (hx : x ∈ forms) :
    ∃ text, IsForm x text := by
  induction h with
  | nil => cases hx
  | skip _ _ ih => exact ih hx
  | keep hs hn _ ih =>
    rcases List.mem_cons.1 hx with rfl | hx
    · exact ⟨_, hs.isForm hn⟩
    · exact ih hx

theorem Normalizes.mem_iff (h : Normalizes items forms) :
    x ∈ forms ↔ ∃ text ≠ [], x = normalForm text ∧ ∃ y ∈ items, Spells text y.toList := by
  induction h with
  | nil => simp
  | @skip y items forms hs _ ih =>
    rw [ih]
    constructor
    · rintro ⟨text, hn, hx, z, hz, ht⟩
      exact ⟨text, hn, hx, z, List.mem_cons_of_mem _ hz, ht⟩
    · rintro ⟨text, hn, hx, z, hz, ht⟩
      rcases List.mem_cons.1 hz with rfl | hz
      · exact absurd (hs.eq_nil ht) hn
      · exact ⟨text, hn, hx, z, hz, ht⟩
  | @keep y text items forms hs hn _ ih =>
    rw [List.mem_cons, ih]
    constructor
    · rintro (rfl | ⟨text', hn', hx, z, hz, ht⟩)
      · exact ⟨text, hn, rfl, y, List.mem_cons_self, hs⟩
      · exact ⟨text', hn', hx, z, List.mem_cons_of_mem _ hz, ht⟩
    · rintro ⟨text', hn', rfl, z, hz, ht⟩
      rcases List.mem_cons.1 hz with rfl | hz
      · exact .inl (ht.normalForm_eq hs)
      · exact .inr ⟨text', hn', rfl, z, hz, ht⟩

/-- The same texts, in whatever spellings and order, have the same normal forms. -/
theorem mem_normalize_congr {items' : List String}
    (h : ∀ text ≠ [], (∃ y ∈ items, Spells text y.toList) ↔ ∃ y ∈ items', Spells text y.toList)
    (x : String) : x ∈ normalize items ↔ x ∈ normalize items' := by
  rw [(normalizes_normalize items).mem_iff, (normalizes_normalize items').mem_iff]
  constructor
  · rintro ⟨text, hn, hx, hy⟩
    exact ⟨text, hn, hx, (h text hn).1 hy⟩
  · rintro ⟨text, hn, hx, hy⟩
    exact ⟨text, hn, hx, (h text hn).2 hy⟩

end SimilarityClient.Extension
