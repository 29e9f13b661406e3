import SimilarityClient.Json.Record
import SimilarityClient.Proofs.Json.Spelling

/-! # Values where they stand

What a reader makes of a value does not depend on what stands behind it, and
the value is read to its end: a number because no more of it can follow, all
others because they show where they end.
-/

namespace SimilarityClient.Json

open Text

variable {α β : Type} {read : Reader α} {s v rest : List Char} {x? : Option α}

def value? (read : Reader α) (v : List Char) : Option α := (read v).toOption.map Prod.fst

/-- A value is read in one way wherever it stands, to its end, or fails everywhere. -/
def Settles (read : Reader α) (v : List Char) (x? : Option α) : Prop :=
  ∀ rest, Delimited rest → (read (v ++ rest)).toOption = x?.map (·, rest)

theorem Settles.value?_eq (h : Settles read v x?) : value? read v = x? := by
  have h0 := h [] delimited_nil
  rw [List.append_nil] at h0
  rw [value?, h0, Option.map_map]
  exact Option.map_id'

def IsSettled (read : Reader α) (v : List Char) : Prop := ∃ x?, Settles read v x?

theorem IsSettled.settles (h : IsSettled read v) : Settles read v (value? read v) := by
  obtain ⟨x?, h⟩ := h
  rwa [h.value?_eq]

/-- A reader that passes over blanks in front of a value. -/
def IgnoresBlanks (read : Reader α) : Prop := ∀ b s, IsBlank b → read (b ++ s) = read s

section Numbers

variable (negative : Bool) (significand : Nat) (exponent : Int)

theorem isSettled_finish : IsSettled (finish negative significand exponent) [] := by
  cases h : scale? significand exponent with
  | none => exact ⟨none, fun rest _ => by rw [List.nil_append, finish, h]; rfl⟩
  | some x => exact ⟨some _, fun rest _ => by rw [List.nil_append, finish, h]; rfl⟩

theorem readExponent_digits {ds : List Char} (hd : IsDigits ds) (value : Nat) :
    (∃ e, ∀ rest, Delimited rest → readExponent value (ds ++ rest) = (some e, rest)) ∨
      ∃ left, IsDigits left ∧ ∀ rest, readExponent value (ds ++ rest) = (none, left ++ rest) := by
  induction ds generalizing value with
  | nil =>
    refine .inl ⟨value, fun rest hr => ?_⟩
    cases rest with
    | nil => rfl
    | cons c r => simp only [List.nil_append, readExponent, hr.not_digit c rfl]
  | cons c ds ih =>
    have hc := digit?_of_isDigit hd.of_cons.1
    by_cases hm : max31 < 10 * value + digitValue c
    · refine .inr ⟨ds, hd.of_cons.2, fun rest => ?_⟩
      rw [List.cons_append, readExponent]
      simp only [hc, if_pos hm]
    · have hs (rest : List Char) : readExponent value (c :: ds ++ rest) =
          readExponent (10 * value + digitValue c) (ds ++ rest) := by
        rw [List.cons_append, readExponent]
        simp only [hc, if_neg hm]
      simp only [hs]
      exact ih hd.of_cons.2 _

/-- What is made of the digits of an exponent. -/
def afterSign (down : Bool) (s : List Char) : Except Stop (Numeral × List Char) :=
  match readExponent 0 s with
  | (some e, rest) => finish negative significand (if down then exponent - e else exponent + e) rest
  | (none, rest) =>
    if significand ≠ 0 ∧ !down then stopAt .numberOutOfRange rest
    else .ok (.fractional (withSign negative Binary64.zero), (takeDigits rest).2)

theorem isSettled_afterSign {ds : List Char} (hd : IsDigits ds) (down : Bool) :
    IsSettled (afterSign negative significand exponent down) ds := by
  rcases readExponent_digits hd 0 with ⟨e, h⟩ | ⟨left, hl, h⟩
  · obtain ⟨x?, hx⟩ := isSettled_finish negative significand
      (if down then exponent - e else exponent + e)
    refine ⟨x?, fun rest hr => ?_⟩
    rw [afterSign, h rest hr]
    exact hx rest hr
  · by_cases hz : significand ≠ 0 ∧ !down
    · refine ⟨none, fun rest _ => ?_⟩
      rw [afterSign, h rest]
      simp only [if_pos hz]
      rfl
    · refine ⟨some (.fractional (withSign negative Binary64.zero)), fun rest hr => ?_⟩
      rw [afterSign, h rest]
      simp only [if_neg hz, takeDigits_append hl hr.not_digit]
      rfl

theorem afterExponentMark_sign {sign ds : List Char} (hs : sign ∈ [[], ['+'], ['-']])
    (hd : IsDigits ds) (hn : ds ≠ []) : ∃ down, ∀ rest,
      afterExponentMark negative significand exponent (sign ++ (ds ++ rest)) =
        afterSign negative significand exponent down (ds ++ rest) := by
  have hst (rest : List Char) : startsWithDigit (ds ++ rest) = true :=
    startsWithDigit_append hd hn
  have hne (rest : List Char) : ds ++ rest ≠ [] := List.append_ne_nil_of_left_ne_nil hn _
  have ha (down : Bool) (rest : List Char) : (if ds ++ rest = [] then stopAt .endInValue []
      else if !startsWithDigit (ds ++ rest) then stopIn .invalidNumber (ds ++ rest)
      else afterSign negative significand exponent down (ds ++ rest)) =
      afterSign negative significand exponent down (ds ++ rest) := by
    rw [if_neg (hne rest), hst, Bool.not_true, if_neg Bool.false_ne_true]
  simp only [List.mem_cons, List.not_mem_nil, or_false] at hs
  rcases hs with rfl | rfl | rfl
  · refine ⟨false, fun rest => Eq.trans ?_ (ha false rest)⟩
    obtain ⟨c, t, rfl⟩ := List.exists_cons_of_ne_nil hn
    have hc := ne_sign_of_isDigit hd.of_cons.1
    simp only [List.nil_append, List.cons_append, afterExponentMark, List.cons.injEq, hc,
      false_and, imp_self, implies_true]
    rfl
  · exact ⟨false, ha false⟩
  · exact ⟨true, ha true⟩

/-- An exponent, or what is made of a number without one. -/
def exponentOr (plain : List Char → Except Stop (Numeral × List Char)) :
    List Char → Except Stop (Numeral × List Char)
  | 'e' :: r | 'E' :: r => afterExponentMark negative significand exponent r
  | rest => plain rest

theorem isSettled_exponentOr {plain : List Char → Except Stop (Numeral × List Char)} {e : List Char}
    (he : IsExponent e) (hp : IsSettled plain []) :
    IsSettled (exponentOr negative significand exponent plain) e := by
  obtain rfl | ⟨mark, sign, ds, hm, hs, hd, hn, rfl⟩ := he
  · obtain ⟨x?, hx⟩ := hp
    refine ⟨x?, fun rest hr => ?_⟩
    rw [List.nil_append, exponentOr]
    · exact hx rest hr
    · exact fun r h => (hr 'e' (h ▸ rfl)).2.2.1 rfl
    · exact fun r h => (hr 'E' (h ▸ rfl)).2.2.2 rfl
  · obtain ⟨down, h⟩ := afterExponentMark_sign negative significand exponent hs hd hn
    obtain ⟨x?, hx⟩ := isSettled_afterSign negative significand exponent hd down
    refine ⟨x?, fun rest hr => ?_⟩
    rw [List.cons_append, List.append_assoc]
    simp only [List.mem_cons, List.not_mem_nil, or_false] at hm
    rcases hm with rfl | rfl <;> exact (congrArg _ (h rest)).trans (hx rest hr)

theorem isSettled_afterPoint {ds e : List Char} (hd : IsDigits ds) (hn : ds ≠ [])
    (he : IsExponent e) : IsSettled (afterPoint negative significand exponent) (ds ++ e) := by
  have hn' : ds.map digitValue ≠ [] := by simpa using hn
  obtain ⟨x?, hx⟩ := isSettled_exponentOr negative _ _ he (isSettled_finish negative
    (absorb significand (ds.map digitValue)).1
    (exponent - (absorb significand (ds.map digitValue)).2))
  refine ⟨x?, fun rest hr => ?_⟩
  rw [List.append_assoc, afterPoint, takeDigits_append hd (he.not_digit hr)]
  simp only [if_neg hn']
  exact hx rest hr

/-- What is made of whole digits that nothing follows. -/
def wholeEnd (rest : List Char) : Except Stop (Numeral × List Char) :=
  if exponent ≠ 0 then finish negative significand exponent rest
  else if !negative then .ok (.whole significand, rest)
  else if significand = 0 ∨ maxNegated < significand then
    .ok (.fractional (Binary64.ofNat significand).neg, rest)
  else .ok (.whole (-significand), rest)

theorem isSettled_wholeEnd : IsSettled (wholeEnd negative significand exponent) [] := by
  unfold wholeEnd
  split
  · exact isSettled_finish negative significand exponent
  split
  · exact ⟨some (.whole significand), fun _ _ => rfl⟩
  split
  · exact ⟨some (.fractional (Binary64.ofNat significand).neg), fun _ _ => rfl⟩
  · exact ⟨some (.whole (-significand)), fun _ _ => rfl⟩

/-- What is made of all that follows the whole digits of a number. -/
def afterWhole : List Char → Except Stop (Numeral × List Char)
  | '.' :: r => afterPoint negative significand exponent r
  | rest => exponentOr negative significand exponent (wholeEnd negative significand exponent) rest

theorem readMagnitude_isWhole {w : List Char} (hw : IsWhole w) (t : List Char)
    (ht : ∀ c ∈ t.head?, digit? c = none) : readMagnitude negative (w ++ t) =
      afterWhole negative (absorb 0 (w.map digitValue)).1
        (w.length - (absorb 0 (w.map digitValue)).2) t := by
  have hs : startsWithDigit (w ++ t) = true := startsWithDigit_append hw.digits hw.ne_nil
  have hn : w ++ t ≠ [] := List.append_ne_nil_of_left_ne_nil hw.ne_nil _
  rw [readMagnitude, takeDigits_append hw.digits ht]
  simp only [if_neg hn, hs, Bool.not_true, Bool.false_eq_true, if_false, List.length_map,
    if_neg hw.not_leadingZero]
  split
  · rfl
  · rfl
  · rfl
  · rename_i hp he hE
    rw [afterWhole, exponentOr]
    · rfl
    · exact he
    · exact hE
    · exact hp

theorem isSettled_magnitude {s : List Char} (h : IsMagnitude s) :
    IsSettled (readMagnitude negative) s := by
  obtain ⟨w, f, e, hw, hf, he, rfl⟩ := h
  obtain rfl | ⟨ds, hd, hn, rfl⟩ := hf
  · obtain ⟨x?, hx⟩ := isSettled_exponentOr negative _ _ he (isSettled_wholeEnd negative
      (absorb 0 (w.map digitValue)).1 (w.length - (absorb 0 (w.map digitValue)).2))
    refine ⟨x?, fun rest hr => ?_⟩
    rw [List.append_assoc, List.nil_append, readMagnitude_isWhole negative hw _ (he.not_digit hr),
      afterWhole]
    · exact hx rest hr
    · exact he.head_ne_point hr
  · obtain ⟨x?, hx⟩ := isSettled_afterPoint negative (absorb 0 (w.map digitValue)).1
      (w.length - (absorb 0 (w.map digitValue)).2) hd hn he
    refine ⟨x?, fun rest hr => ?_⟩
    rw [List.append_assoc, List.cons_append, List.cons_append, readMagnitude_isWhole negative hw]
    · exact hx rest hr
    · intro c hc
      cases hc
      rfl

end Numbers

theorem toOption_stopUnexpected (expected : String) (s : List Char) :
    (stopUnexpected expected s : Except Stop α).toOption = none := by
  unfold stopUnexpected
  split
  · rfl
  · dsimp only
    repeat' split
    all_goals first
      | rfl
      | exact Except.toOption_bind_none _ fun _ => rfl

theorem ignoresBlanks_readString : IgnoresBlanks readString := by
  intro b s hb
  rw [readString, readString, skipSpace_append hb]

theorem ignoresBlanks_readBinary64 : IgnoresBlanks readBinary64 := by
  intro b s hb
  rw [readBinary64, readBinary64, skipSpace_append hb]

theorem readString_other {c : Char} (hc : isSpace c = false) (hq : c ≠ '"') (r : List Char) :
    (readString (c :: r)).toOption = none := by
  rw [readString, skipSpace_cons hc]
  split
  · rfl
  · rename_i h
    exact absurd (List.cons.inj h).1 hq
  · exact toOption_stopUnexpected _ _

theorem readBinary64_other {c : Char} (hc : isSpace c = false) (hm : c ≠ '-')
    (hd : digit? c = none) (r : List Char) : (readBinary64 (c :: r)).toOption = none := by
  have hs : startsWithDigit (c :: r) = false := by
    rw [startsWithDigit, List.head?_cons, Option.any_some, hd]
    rfl
  rw [readBinary64, skipSpace_cons hc]
  split
  · rfl
  · rename_i h
    exact absurd (List.cons.inj h).1 hm
  · rw [hs, if_neg Bool.false_ne_true]
    exact toOption_stopUnexpected _ _

theorem settles_none {c : Char} {r : List Char} (h : ∀ t, (read (c :: t)).toOption = none) :
    Settles read (c :: r) none := fun rest _ => h (r ++ rest)

theorem settles_bare (hr : ∀ c, IsBare c → ∀ t, (read (c :: t)).toOption = none)
    (h : v ∈ literals ∨ IsNumber v) : Settles read v none := by
  obtain ⟨c, r, rfl, hc⟩ := exists_cons_of_bare h
  exact settles_none (hr c hc)

theorem readString_text (s rest : List Char) : readString ('"' :: (s ++ ['"']) ++ rest) =
    readText (s ++ '"' :: rest) >>= fun x => .ok (String.ofList x.1, x.2) := by
  rw [List.cons_append, List.append_assoc]
  rfl

theorem settles_readString_spells {s t : List Char} (h : Spells s t) :
    Settles readString ('"' :: (s ++ ['"'])) (some (String.ofList t)) := by
  intro rest _
  rw [readString_text, readText_spells h]
  rfl

theorem isSettled_readString (h : IsValue v) : IsSettled readString v := by
  cases h with
  | literal h =>
    exact ⟨none, settles_bare (fun c hc => readString_other hc.not_space hc.not_text) (.inl h)⟩
  | number h =>
    exact ⟨none, settles_bare (fun c hc => readString_other hc.not_space hc.not_text) (.inr h)⟩
  | @text s h =>
    obtain ⟨t?, ht⟩ := h.settles_tails.1
    refine ⟨t?.map String.ofList, fun rest _ => ?_⟩
    rw [readString_text, Except.toOption_bind_ok, readText, ht, Option.map_map, Option.map_map]
    rfl
  | list _ _ => exact ⟨none, settles_none fun t => readString_other rfl (by decide) t⟩
  | object _ _ _ => exact ⟨none, settles_none fun t => readString_other rfl (by decide) t⟩

theorem readBinary64_digit {c : Char} (hc : c.isDigit = true) (r : List Char) :
    readBinary64 (c :: r) =
      readMagnitude false (c :: r) >>= fun x => .ok (x.1.toBinary64, x.2) := by
  have hs : startsWithDigit (c :: r) = true := digit?_isSome hc
  rw [readBinary64, skipSpace_cons (isOpening_of_isDigit hc).not_space]
  split
  · rename_i h
    cases h
  · rename_i h
    exact absurd (List.cons.inj h).1 (ne_of_isDigit hc rfl)
  · rw [if_pos hs]
    rfl

theorem isSettled_readBinary64_number (h : IsNumber v) : IsSettled readBinary64 v := by
  rcases h with h | ⟨m, h, rfl⟩
  · obtain ⟨x?, hx⟩ := isSettled_magnitude false h
    obtain ⟨c, r, rfl, hc⟩ := h.exists_cons
    refine ⟨x?.map Numeral.toBinary64, fun rest hr => ?_⟩
    have hx := hx rest hr
    rw [List.cons_append] at hx ⊢
    rw [readBinary64_digit hc, Except.toOption_bind_ok, hx, Option.map_map, Option.map_map]
    rfl
  · obtain ⟨x?, hx⟩ := isSettled_magnitude true h
    refine ⟨x?.map Numeral.toBinary64, fun rest hr => ?_⟩
    have hm : readBinary64 ('-' :: m ++ rest) =
        readMagnitude true (m ++ rest) >>= fun x => .ok (x.1.toBinary64, x.2) := rfl
    rw [hm, Except.toOption_bind_ok, hx rest hr, Option.map_map, Option.map_map]
    rfl

theorem isSettled_readBinary64 (h : IsValue v) : IsSettled readBinary64 v := by
  cases h with
  | literal h =>
    obtain ⟨c, r, rfl, hc⟩ := mem_literals h
    simp only [List.mem_cons, List.not_mem_nil, or_false] at hc
    refine ⟨none, settles_none fun t => readBinary64_other ?_ ?_ ?_ t⟩ <;>
      rcases hc with rfl | rfl | rfl <;> decide
  | number h => exact isSettled_readBinary64_number h
  | text _ => exact ⟨none, settles_none fun t => readBinary64_other rfl (by decide) rfl t⟩
  | list _ _ => exact ⟨none, settles_none fun t => readBinary64_other rfl (by decide) rfl t⟩
  | object _ _ _ => exact ⟨none, settles_none fun t => readBinary64_other rfl (by decide) rfl t⟩

end SimilarityClient.Json
