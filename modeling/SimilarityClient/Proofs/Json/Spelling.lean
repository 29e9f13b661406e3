import SimilarityClient.Proofs.Json.Skip
import SimilarityClient.Proofs.Json.Text

/-! # Spellings of texts

A text is read from any of its spellings. Codes may also name no character;
then nothing is read, whatever stands behind the text.
-/

namespace SimilarityClient.Json

open Text

variable {s rest : List Char}

theorem readTextFrom_code {n : Nat} {u : List Char} (hu : Code n u) (hl : isLeading n = false)
    (ht : isTrailing n = false) (t : List Char) :
    readTextFrom 0 ('\\' :: 'u' :: (u ++ t)) = (readTextFrom 0 t).map (push (Char.ofNat n)) := by
  refine readTextFrom_escape (s := 'u' :: u) ?_
  have hc : readCode (u ++ t) = .ok (Char.ofNat n, 4) := by
    rw [readCode, readHex4_code hu, Except.ok_bind]
    simp only [ht, hl, Bool.not_false, Bool.false_eq_true, if_false, if_true]
    rfl
  rw [List.cons_append, readEscape, hc, List.length_cons, hu.length]
  rfl

theorem not_trailing {n : Nat} (hl : isLeading n = true) : isTrailing n = false := by
  simp only [isLeading, Bool.and_eq_true, decide_eq_true_eq] at hl
  rw [isTrailing, decide_eq_false (by omega), Bool.false_and]

theorem readTextFrom_pair {n m : Nat} {u v : List Char} (hu : Code n u) (hv : Code m v)
    (hl : isLeading n = true) (ht : isTrailing m = true) (t : List Char) :
    readTextFrom 0 ('\\' :: 'u' :: (u ++ ('\\' :: 'u' :: (v ++ t)))) = (readTextFrom 0 t).map
      (push (Char.ofNat ((n - 0xD800) * 0x400 + (m - 0xDC00) + 0x10000))) := by
  have hs : ('u' :: (u ++ ('\\' :: 'u' :: (v ++ t)))) =
      ('u' :: (u ++ ('\\' :: 'u' :: v))) ++ t := by simp
  rw [hs]
  refine readTextFrom_escape ?_
  have hc : readCode (u ++ ('\\' :: 'u' :: (v ++ t))) =
      .ok (Char.ofNat ((n - 0xD800) * 0x400 + (m - 0xDC00) + 0x10000), 10) := by
    rw [readCode, readHex4_code hu, Except.ok_bind]
    simp only [not_trailing hl, hl, Bool.not_true, Bool.false_eq_true, if_false,
      readHex4_code hv, Except.ok_bind, ht, if_true]
    rfl
  rw [← hs, readEscape, hc]
  simp [hu.length, hv.length]

theorem readTextFrom_simple {e c : Char} (he : (e, c) ∈ escapes) (t : List Char) :
    readTextFrom 0 ('\\' :: e :: t) = (readTextFrom 0 t).map (push c) := by
  refine readTextFrom_escape (s := [e]) ?_
  simp only [escapes, List.mem_cons, Prod.mk.injEq, List.not_mem_nil, or_false] at he
  rcases he with ⟨rfl, rfl⟩ | ⟨rfl, rfl⟩ | ⟨rfl, rfl⟩ | ⟨rfl, rfl⟩ | ⟨rfl, rfl⟩ | ⟨rfl, rfl⟩ |
    ⟨rfl, rfl⟩ | ⟨rfl, rfl⟩ <;> rfl

/-- Every spelling of a text is read as the text. -/
theorem readText_spells {t : List Char} (h : Spells s t) (rest : List Char) :
    readText (s ++ '"' :: rest) = .ok (t, rest) := by
  rw [readText]
  induction h with
  | nil => rfl
  | plain hc _ ih =>
    rw [List.cons_append, readTextFrom_plain hc.not_mark hc.not_escape hc.not_control, ih]
    rfl
  | escape he _ ih =>
    rw [List.cons_append, List.cons_append, readTextFrom_simple he, ih]
    rfl
  | code hu hl ht _ ih =>
    rw [List.cons_append, List.cons_append, List.append_assoc, readTextFrom_code hu hl ht, ih]
    rfl
  | pair hu hv hl ht _ ih =>
    simp only [List.cons_append, List.append_assoc]
    rw [readTextFrom_pair hu hv hl ht, ih]
    rfl

theorem code_control {n : Nat} (hn : n < 0x20) : Code n (lowerHex4 n) := by
  have h0 : hexDigit? '0' = some 0 := rfl
  have hc := Code.digits h0 h0 (hexDigit?_digitChar (n / 16) (by omega))
    (hexDigit?_digitChar (n % 16) (by omega))
  rwa [show ((0 * 16 + 0) * 16 + n / 16) * 16 + n % 16 = n by omega, ← lowerHex4_of_lt n hn] at hc

theorem spells_escaped (t : List Char) : Spells (t.flatMap escaped) t := by
  induction t with
  | nil => exact .nil
  | cons c t ih =>
    rw [List.flatMap_cons]
    unfold escaped
    split
    · exact .escape (by decide) ih
    · exact .escape (by decide) ih
    · exact .escape (by decide) ih
    · exact .escape (by decide) ih
    · exact .escape (by decide) ih
    · exact .escape (by decide) ih
    · exact .escape (by decide) ih
    · rename_i hq hb _ _ _ _ _
      split
      · rename_i hc
        have hl : isLeading c.toNat = false := by
          rw [isLeading, decide_eq_false (by omega), Bool.false_and]
        have ht : isTrailing c.toNat = false := by
          rw [isTrailing, decide_eq_false (by omega), Bool.false_and]
        have hs := Spells.code (code_control hc) hl ht ih
        rw [Char.ofNat_toNat] at hs
        exact hs
      · rename_i hc
        exact .plain ⟨hq, hb, hc⟩ ih

theorem toOption_readTextFrom_code {u t : List Char}
    (h : (readCode (u ++ t)).toOption = none) :
    (readTextFrom 0 ('\\' :: 'u' :: (u ++ t))).toOption = none := by
  rw [readTextFrom, if_neg (by decide), if_pos rfl, readEscape]
  cases hc : readCode (u ++ t) with
  | error e => rfl
  | ok x =>
    rw [hc] at h
    cases h

theorem readTextFrom_trailing {n : Nat} {u : List Char} (hu : Code n u) (ht : isTrailing n = true)
    (t : List Char) : (readTextFrom 0 ('\\' :: 'u' :: (u ++ t))).toOption = none := by
  refine toOption_readTextFrom_code ?_
  rw [readCode, readHex4_code hu, Except.ok_bind]
  simp only [ht, if_true]
  rfl

/-- A leading code is lost without another code behind it. -/
theorem readTextFrom_leading {n : Nat} {u t : List Char} (hu : Code n u) (hl : isLeading n = true)
    (ht : ∀ r, t ≠ '\\' :: 'u' :: r) :
    (readTextFrom 0 ('\\' :: 'u' :: (u ++ t))).toOption = none := by
  refine toOption_readTextFrom_code ?_
  rw [readCode, readHex4_code hu, Except.ok_bind]
  simp only [not_trailing hl, hl, Bool.not_true, Bool.false_eq_true, if_false]
  split
  · rfl
  · exact absurd rfl (ht _)
  · rfl
  · rfl
  · rfl

theorem readTextFrom_unpaired {n m : Nat} {u v : List Char} (hu : Code n u) (hv : Code m v)
    (hl : isLeading n = true) (hm : isTrailing m = false) (t : List Char) :
    (readTextFrom 0 ('\\' :: 'u' :: (u ++ ('\\' :: 'u' :: (v ++ t))))).toOption = none := by
  refine toOption_readTextFrom_code ?_
  rw [readCode, readHex4_code hu, Except.ok_bind]
  simp only [not_trailing hl, hl, Bool.not_true, Bool.false_eq_true, if_false,
    readHex4_code hv, Except.ok_bind, hm]
  rfl

/-- What a text is read as does not depend on what stands behind its mark. -/
def TextSettles (s : List Char) : Prop :=
  ∃ t? : Option (List Char), ∀ rest,
    (readTextFrom 0 (s ++ '"' :: rest)).toOption = t?.map (·, rest)

theorem TextSettles.push {c : Char} {s' : List Char} (h : TextSettles s)
    (hs : ∀ rest, readTextFrom 0 (s' ++ '"' :: rest) =
      (readTextFrom 0 (s ++ '"' :: rest)).map (push c)) : TextSettles s' := by
  obtain ⟨t?, h⟩ := h
  refine ⟨t?.map (c :: ·), fun rest => ?_⟩
  rw [hs, Except.toOption_map, h, Option.map_map, Option.map_map]
  rfl

theorem ne_of_mem_escapes {e c : Char} (he : (e, c) ∈ escapes) : e ≠ 'u' := by
  rintro rfl
  simp [escapes] at he

theorem IsText.exists_code {r : List Char} (h : IsText s)
    (hs : s ++ '"' :: rest = '\\' :: 'u' :: r) :
    ∃ n u t, Code n u ∧ s = '\\' :: 'u' :: (u ++ t) := by
  cases h with
  | nil => cases hs
  | plain hc _ => exact absurd (List.cons.inj hs).1 hc.not_escape
  | escape he _ => exact absurd (List.cons.inj (List.cons.inj hs).2).1 (ne_of_mem_escapes he)
  | code hu _ => exact ⟨_, _, _, hu, rfl⟩

/-- Two codes may make one character, so the texts behind a first code are settled as well. -/
theorem IsText.settles_tails (h : IsText s) : TextSettles s ∧
    ∀ {m v t}, Code m v → s = '\\' :: 'u' :: (v ++ t) → TextSettles t := by
  induction h with
  | nil => exact ⟨⟨some [], fun _ => rfl⟩, fun _ h => by cases h⟩
  | plain hc _ ih =>
    refine ⟨ih.1.push fun rest =>
      readTextFrom_plain hc.not_mark hc.not_escape hc.not_control, fun _ h => ?_⟩
    cases h
    exact absurd rfl hc.not_escape
  | escape he _ ih =>
    refine ⟨ih.1.push fun rest => readTextFrom_simple he _, fun _ h => ?_⟩
    cases h
    exact absurd rfl (ne_of_mem_escapes he)
  | @code n u s hu hs ih =>
    refine ⟨?_, fun {m v t} hv h => ?_⟩
    · have hassoc (rest : List Char) : '\\' :: 'u' :: (u ++ s) ++ '"' :: rest =
          '\\' :: 'u' :: (u ++ (s ++ '"' :: rest)) := by simp
      cases hl : isLeading n with
      | false =>
        cases ht : isTrailing n with
        | false =>
          refine ih.1.push (c := Char.ofNat n) fun rest => ?_
          rw [hassoc, readTextFrom_code hu hl ht]
        | true => exact ⟨none, fun rest => by rw [hassoc, readTextFrom_trailing hu ht]; rfl⟩
      | true =>
        by_cases hx : ∃ m v t, Code m v ∧ s = '\\' :: 'u' :: (v ++ t)
        · obtain ⟨m, v, t, hv, rfl⟩ := hx
          have hassoc' (rest : List Char) :
              '\\' :: 'u' :: (u ++ '\\' :: 'u' :: (v ++ t)) ++ '"' :: rest =
                '\\' :: 'u' :: (u ++ ('\\' :: 'u' :: (v ++ (t ++ '"' :: rest)))) := by simp
          cases hm : isTrailing m with
          | false =>
            exact ⟨none, fun rest => by rw [hassoc', readTextFrom_unpaired hu hv hl hm]; rfl⟩
          | true =>
            refine (ih.2 hv rfl).push
              (c := Char.ofNat ((n - 0xD800) * 0x400 + (m - 0xDC00) + 0x10000)) fun rest => ?_
            rw [hassoc', readTextFrom_pair hu hv hl hm]
        · refine ⟨none, fun rest => ?_⟩
          rw [hassoc, readTextFrom_leading hu hl]
          · rfl
          · exact fun r hr => hx (hs.exists_code hr)
    · have hi := List.append_inj (List.cons.inj (List.cons.inj h).2).2
        (hu.length.trans hv.length.symm)
      rw [← hi.2]
      exact ih.1

end SimilarityClient.Json
