import SimilarityClient.Json.Skip
import SimilarityClient.Proofs.Fallible
import SimilarityClient.Proofs.Json.Grammar

/-! # Passing over values

Exactly one value is passed over, whatever it is and whatever it holds. The
induction is on the value; the frames around it and the steps that are left
are general.
-/

namespace SimilarityClient.Json

open Text

variable {s rest : List Char}

theorem skipTextFrom_skip (s t : List Char) :
    skipTextFrom s.length (s ++ t) = skipTextFrom 0 t := by
  induction s with
  | nil => rfl
  | cons c s ih => rw [List.length_cons, List.cons_append, skipTextFrom, ih]

theorem skipTextFrom_escape {u t : List Char} (h : skipEscape (u ++ t) = .ok u.length) :
    skipTextFrom 0 ('\\' :: (u ++ t)) = skipTextFrom 0 t := by
  rw [skipTextFrom, if_neg (by decide), if_pos rfl, h]
  exact skipTextFrom_skip u t

theorem readHex4_code {n : Nat} {u : List Char} (hu : Code n u) (t : List Char) :
    readHex4 (u ++ t) = .ok (n, t) := by
  cases hu with
  | digits ha hb hc hd => simp only [List.cons_append, List.nil_append, readHex4, ha, hb, hc, hd]

theorem Code.length {n : Nat} {u : List Char} (hu : Code n u) : u.length = 4 := by
  cases hu
  rfl

theorem skipEscape_of_mem {e c : Char} (he : (e, c) ∈ escapes) (t : List Char) :
    skipEscape (e :: t) = .ok 1 := by
  simp only [escapes, List.mem_cons, Prod.mk.injEq, List.not_mem_nil, or_false] at he
  rcases he with ⟨rfl, -⟩ | ⟨rfl, -⟩ | ⟨rfl, -⟩ | ⟨rfl, -⟩ | ⟨rfl, -⟩ | ⟨rfl, -⟩ | ⟨rfl, -⟩ |
    ⟨rfl, -⟩ <;> rfl

theorem skipText_isText (h : IsText s) (rest : List Char) :
    skipText (s ++ '"' :: rest) = .ok rest := by
  rw [skipText]
  induction h with
  | nil => rfl
  | plain hc _ ih =>
    rw [List.cons_append, skipTextFrom, if_neg hc.not_mark, if_neg hc.not_escape,
      if_neg hc.not_control, ih]
  | @escape e c s he _ ih =>
    have hs := skipTextFrom_escape (u := [e]) (skipEscape_of_mem he (s ++ '"' :: rest))
    exact hs.trans ih
  | @code n u s hu _ ih =>
    have hl : skipEscape ('u' :: u ++ (s ++ '"' :: rest)) = .ok ('u' :: u).length := by
      rw [List.cons_append, skipEscape, readHex4_code hu, List.length_cons, hu.length]
      rfl
    have hs := skipTextFrom_escape hl
    rw [List.cons_append] at hs
    rw [List.cons_append, List.cons_append, List.append_assoc]
    exact hs.trans ih

theorem ne_sign_of_isDigit {c : Char} (h : c.isDigit = true) : c ≠ '+' ∧ c ≠ '-' := by
  constructor
  · rintro rfl
    cases h
  · rintro rfl
    cases h

theorem Delimited.not_digit (hr : Delimited rest) : ∀ c ∈ rest.head?, digit? c = none :=
  fun c hc => (hr c hc).1

theorem skipExponent_digits {sign ds : List Char} (hs : sign ∈ [[], ['+'], ['-']])
    (hd : IsDigits ds) (hn : ds ≠ []) (hr : Delimited rest) :
    skipExponent (sign ++ (ds ++ rest)) = .ok rest := by
  have hst : startsWithDigit (ds ++ rest) = true := startsWithDigit_append hd hn
  have ht : takeDigits (ds ++ rest) = (ds.map digitValue, rest) :=
    takeDigits_append hd hr.not_digit
  simp only [List.mem_cons, List.not_mem_nil, or_false] at hs
  rcases hs with rfl | rfl | rfl
  · obtain ⟨c, t, rfl⟩ := List.exists_cons_of_ne_nil hn
    have hc := ne_sign_of_isDigit hd.of_cons.1
    rw [List.cons_append] at hst ht
    simp [skipExponent, hc, hst, ht]
  · simp [skipExponent, hst, ht]
  · simp [skipExponent, hst, ht]

theorem IsExponent.not_digit {e : List Char} (he : IsExponent e) (hr : Delimited rest) :
    ∀ c ∈ (e ++ rest).head?, digit? c = none := by
  obtain rfl | ⟨mark, sign, ds, hm, -, -, -, rfl⟩ := he
  · exact hr.not_digit
  · intro c hc
    cases hc
    simp only [List.mem_cons, List.not_mem_nil, or_false] at hm
    rcases hm with rfl | rfl <;> rfl

/-- What is behind the places of a number: an exponent, or nothing. -/
def skipEnd : List Char → Except Stop (List Char)
  | 'e' :: r | 'E' :: r => skipExponent r
  | rest => .ok rest

/-- What is behind the whole digits of a number. -/
def skipPlaces : List Char → Except Stop (List Char)
  | '.' :: r =>
    let (ds, rest) := takeDigits r
    if ds = [] then stopIn .invalidNumber rest else skipEnd rest
  | rest => skipEnd rest

theorem skipEnd_isExponent {e : List Char} (he : IsExponent e) (hr : Delimited rest) :
    skipEnd (e ++ rest) = .ok rest := by
  obtain rfl | ⟨mark, sign, ds, hm, hs, hd, hn, rfl⟩ := he
  · rw [List.nil_append, skipEnd]
    · exact fun r h => (hr 'e' (h ▸ rfl)).2.2.1 rfl
    · exact fun r h => (hr 'E' (h ▸ rfl)).2.2.2 rfl
  · rw [List.cons_append, List.append_assoc]
    simp only [List.mem_cons, List.not_mem_nil, or_false] at hm
    rcases hm with rfl | rfl <;> exact skipExponent_digits hs hd hn hr

theorem IsExponent.head_ne_point {e : List Char} (he : IsExponent e) (hr : Delimited rest) :
    ∀ r, e ++ rest ≠ '.' :: r := by
  obtain rfl | ⟨mark, sign, ds, hm, -, -, -, rfl⟩ := he
  · rw [List.nil_append]
    exact fun r h => (hr '.' (h ▸ rfl)).2.1 rfl
  · rintro r h
    cases h
    exact absurd hm (by decide)

theorem skipMagnitude_isWhole {w : List Char} (hw : IsWhole w) (t : List Char)
    (ht : ∀ c ∈ t.head?, digit? c = none) : skipMagnitude (w ++ t) = skipPlaces t := by
  have hs : startsWithDigit (w ++ t) = true := startsWithDigit_append hw.digits hw.ne_nil
  rw [skipMagnitude, takeDigits_append hw.digits ht]
  simp only [hs, Bool.not_true, Bool.false_eq_true, if_false, List.length_map,
    if_neg hw.not_leadingZero]
  split
  · rfl
  · rfl
  · rfl
  · rename_i hp he hE
    rw [skipPlaces, skipEnd]
    · exact he
    · exact hE
    · exact hp

theorem skipMagnitude_isMagnitude (h : IsMagnitude s) (hr : Delimited rest) :
    skipMagnitude (s ++ rest) = .ok rest := by
  obtain ⟨w, f, e, hw, hf, he, rfl⟩ := h
  rw [List.append_assoc, List.append_assoc]
  obtain rfl | ⟨ds, hd, hn, rfl⟩ := hf
  · rw [List.nil_append, skipMagnitude_isWhole hw _ (he.not_digit hr), skipPlaces]
    · exact skipEnd_isExponent he hr
    · exact he.head_ne_point hr
  · have hn' : ds.map digitValue ≠ [] := by simpa using hn
    rw [List.cons_append, skipMagnitude_isWhole hw]
    · rw [skipPlaces, takeDigits_append hd (he.not_digit hr)]
      simp only [if_neg hn']
      exact skipEnd_isExponent he hr
    · intro c hc
      cases hc
      rfl

theorem readLiteral_append (ls rest : List Char) : readLiteral ls (ls ++ rest) = .ok rest := by
  induction ls with
  | nil => rfl
  | cons l ls ih => rw [List.cons_append, readLiteral, if_pos rfl, ih]

/-- Goes on with the steps that are left. -/
def goOn (n : Nat) (next : Except Stop Next) : Except Stop (List Char) := do
  match ← next with
  | .done rest => return rest
  | .item frames rest => skipItems n frames rest

theorem skipItems_succ (n : Nat) (frames : List Frame) (s : List Char) :
    skipItems (n + 1) frames s = goOn n (skipItem frames s) := rfl

theorem goOn_item (n : Nat) (frames : List Frame) (s : List Char) :
    goOn n (.ok (.item frames s)) = skipItems n frames s := rfl

/-- A value is passed over in some steps, and what is behind it is left. -/
def IsPassed (v : List Char) : Prop :=
  ∃ n ≤ v.length, ∀ k frames b rest, IsBlank b → Delimited rest →
    goOn (n + k) (skipItem frames (b ++ (v ++ rest))) = goOn k (leave frames rest)

/-- The same of an item of a frame, its key included. -/
def IsPassedIn (frame : Frame) (m : List Char) : Prop :=
  ∃ n ≤ m.length, ∀ k frames b rest, IsBlank b → Delimited rest →
    goOn (n + 1 + k) (toItem frame frames (b ++ (m ++ rest))) =
      goOn k (leave (frame :: frames) rest)

theorem IsPassed.in_list {v : List Char} (h : IsPassed v) : IsPassedIn .list v := by
  obtain ⟨n, hn, h⟩ := h
  refine ⟨n, hn, fun k frames b rest hb hr => ?_⟩
  rw [toItem, goOn_item, Nat.add_right_comm, skipItems_succ, h k _ b rest hb hr]

theorem readColon_append {a : List Char} (ha : IsBlank a) (s : List Char) :
    readColon (a ++ ':' :: s) = .ok s := by
  rw [readColon, skipSpace_append ha, skipSpace_cons rfl]
  rfl

theorem IsPassed.in_object {m : List Char × List Char} {t : List Char} (hp : Pair m t)
    (h : IsPassed m.2) : IsPassedIn .object t := by
  obtain ⟨n, hn, h⟩ := h
  cases hp with
  | @mk k v a b hk ha hb =>
    refine ⟨n, hn.trans (by simp; omega), fun j frames b' rest hb' hr => ?_⟩
    have ht : toItem .object frames (b' ++ ('"' :: (k ++ '"' :: (a ++ ':' :: (b ++ v))) ++ rest)) =
        .ok (.item (.object :: frames) (b ++ (v ++ rest))) := by
      simp only [List.cons_append, List.append_assoc]
      rw [toItem, skipSpace_append hb', skipSpace_cons rfl]
      simp only [skipText_isText hk, Except.ok_bind, readColon_append ha]
      rfl
    rw [ht, goOn_item, Nat.add_right_comm, skipItems_succ, h j _ b rest hb hr]

theorem isSpace_closing (frame : Frame) : isSpace frame.closing = false := by
  cases frame <;> rfl

theorem Tail.delimited_closing {vs : List (List Char)} {t : List Char} (h : Tail vs t)
    (frame : Frame) (rest : List Char) : Delimited (t ++ frame.closing :: rest) := by
  cases frame
  · exact h.delimited rfl (by decide) rest
  · exact h.delimited rfl (by decide) rest

theorem Tail.passed {frame : Frame} {ts : List (List Char)} {t : List Char} (h : Tail ts t)
    (hp : ∀ m ∈ ts, IsPassedIn frame m) : ∃ n ≤ t.length, ∀ k frames rest,
      goOn (n + k) (leave (frame :: frames) (t ++ frame.closing :: rest)) =
        goOn k (leave frames rest) := by
  induction h with
  | nil hb =>
    refine ⟨0, Nat.zero_le _, fun k frames rest => ?_⟩
    rw [Nat.zero_add, leave, skipSpace_append hb, skipSpace_cons (isSpace_closing frame)]
    simp only [if_pos]
    rw [if_neg (by cases frame <;> decide)]
  | @cons m ts a b t ha hb ht ih =>
    obtain ⟨n, hn, hm⟩ := hp m List.mem_cons_self
    obtain ⟨j, hj, ih⟩ := ih fun m' hm' => hp m' (List.mem_cons_of_mem m hm')
    refine ⟨n + 1 + j, by simp; omega, fun k frames rest => ?_⟩
    have hs : skipSpace (a ++ ',' :: (b ++ (m ++ t)) ++ frame.closing :: rest) =
        ',' :: (b ++ (m ++ (t ++ frame.closing :: rest))) := by
      simp only [List.append_assoc, List.cons_append]
      rw [skipSpace_append ha, skipSpace_cons rfl]
    rw [leave, hs]
    dsimp only
    rw [if_pos rfl, Nat.add_assoc, hm _ frames b _ hb (ht.delimited_closing frame rest), ih]

/-- What an item of a frame begins with. -/
def Opens (frame : Frame) (m : List Char) : Prop :=
  ∃ c r, m = c :: r ∧ isSpace c = false ∧ c ≠ frame.closing

/-- All items of a frame that has been opened are passed over with its end. -/
theorem Items.passed {frame : Frame} {ts : List (List Char)} {s : List Char} (h : Items ts s)
    (ho : ∀ m ∈ ts, Opens frame m) (hp : ∀ m ∈ ts, IsPassedIn frame m) :
    ∃ n ≤ s.length + 1, ∀ k frames rest,
      goOn (n + k) (enter frame frames (s ++ frame.closing :: rest)) =
        goOn k (leave frames rest) := by
  cases h with
  | nil hb =>
    refine ⟨0, Nat.zero_le _, fun k frames rest => ?_⟩
    rw [Nat.zero_add, enter, skipSpace_append hb, skipSpace_cons (isSpace_closing frame)]
    simp only [if_pos]
  | @cons m ts b t hb ht =>
    obtain ⟨n, hn, hm⟩ := hp m List.mem_cons_self
    obtain ⟨j, hj, hts⟩ := ht.passed fun m' hm' => hp m' (List.mem_cons_of_mem m hm')
    obtain ⟨c, r, rfl, hc, hce⟩ := ho m List.mem_cons_self
    refine ⟨n + 1 + j, by simp at hn ⊢; omega, fun k frames rest => ?_⟩
    have hs : skipSpace (b ++ (c :: r ++ t) ++ frame.closing :: rest) =
        c :: (r ++ (t ++ frame.closing :: rest)) := by
      simp only [List.append_assoc, List.cons_append]
      rw [skipSpace_append hb, skipSpace_cons hc]
    rw [enter, hs]
    dsimp only
    have hm' := hm (j + k) frames [] _ isBlank_nil (ht.delimited_closing frame rest)
    rw [if_neg hce, Nat.add_assoc]
    exact hm'.trans (hts k frames rest)

theorem skipItem_append {b : List Char} (hb : IsBlank b) (frames : List Frame) (s : List Char) :
    skipItem frames (b ++ s) = skipItem frames s := by
  rw [skipItem, skipItem, skipSpace_append hb]

theorem isPassed_of_skipItem {v : List Char} (h : ∀ frames rest, Delimited rest →
    skipItem frames (v ++ rest) = leave frames rest) : IsPassed v := by
  refine ⟨0, Nat.zero_le _, fun k frames b rest hb hr => ?_⟩
  rw [Nat.zero_add, skipItem_append hb, h frames rest hr]

theorem isPassed_literal {v : List Char} (h : v ∈ literals) : IsPassed v := by
  refine isPassed_of_skipItem fun frames rest _ => ?_
  simp only [literals, List.mem_cons, List.not_mem_nil, or_false] at h
  rcases h with rfl | rfl | rfl
  · exact congrArg (· >>= leave frames) (readLiteral_append ['u', 'l', 'l'] rest)
  · exact congrArg (· >>= leave frames) (readLiteral_append ['r', 'u', 'e'] rest)
  · exact congrArg (· >>= leave frames) (readLiteral_append ['a', 'l', 's', 'e'] rest)

theorem skipItem_digit {c : Char} (hc : c.isDigit = true) (frames : List Frame) (r : List Char) :
    skipItem frames (c :: r) = skipMagnitude (c :: r) >>= leave frames := by
  have hs : startsWithDigit (c :: r) = true := digit?_isSome hc
  rw [skipItem, skipSpace_cons (isOpening_of_isDigit hc).not_space]
  dsimp only
  rw [if_neg (ne_of_isDigit hc rfl), if_neg (ne_of_isDigit hc rfl), if_neg (ne_of_isDigit hc rfl),
    if_neg (ne_of_isDigit hc rfl), if_pos hs]

theorem isPassed_number {v : List Char} (h : IsNumber v) : IsPassed v := by
  refine isPassed_of_skipItem fun frames rest hr => ?_
  rcases h with h | ⟨m, h, rfl⟩
  · have hm := skipMagnitude_isMagnitude h hr
    obtain ⟨c, r, rfl, hc⟩ := h.exists_cons
    rw [List.cons_append] at hm ⊢
    rw [skipItem_digit hc, hm]
    rfl
  · exact congrArg (· >>= leave frames) (skipMagnitude_isMagnitude h hr)

theorem isPassed_text {s : List Char} (h : IsText s) : IsPassed ('"' :: (s ++ ['"'])) := by
  refine isPassed_of_skipItem fun frames rest _ => ?_
  rw [List.cons_append, List.append_assoc]
  exact congrArg (· >>= leave frames) (skipText_isText h rest)

/-- What is passed over inside of brackets is passed over with them. -/
theorem isPassed_frame (frame : Frame) {c : Char} {ts : List (List Char)} {s : List Char}
    (hc : ∀ frames r, skipItem frames (c :: r) = enter frame frames r) (hs : Items ts s)
    (ho : ∀ m ∈ ts, Opens frame m) (hp : ∀ m ∈ ts, IsPassedIn frame m) :
    IsPassed (c :: (s ++ [frame.closing])) := by
  obtain ⟨n, hn, h⟩ := hs.passed ho hp
  refine ⟨n, by simp; omega, fun k frames b rest hb _ => ?_⟩
  rw [skipItem_append hb, List.cons_append, hc, List.append_assoc]
  exact h k frames rest

theorem IsValue.opens {v : List Char} (h : IsValue v) : Opens .list v := by
  obtain ⟨c, r, rfl, hc⟩ := h.exists_cons
  refine ⟨c, r, rfl, hc.not_space, fun he => hc.not_end ?_⟩
  rw [he]
  decide

theorem Pair.opens {m : List Char × List Char} {t : List Char} (h : Pair m t) :
    Opens .object t := by
  cases h
  exact ⟨'"', _, rfl, rfl, by decide⟩

theorem exists_pair_of_mem {ms : List (List Char × List Char)} {ts : List (List Char)}
    (h : List.Forall₂ Pair ms ts) {t : List Char} (ht : t ∈ ts) : ∃ m ∈ ms, Pair m t := by
  induction h with
  | nil => cases ht
  | @cons m t' ms ts hm _ ih =>
    rcases List.mem_cons.1 ht with rfl | ht
    · exact ⟨m, List.mem_cons_self, hm⟩
    · obtain ⟨m', hm', hp⟩ := ih ht
      exact ⟨m', List.mem_cons_of_mem m hm', hp⟩

theorem IsValue.isPassed {v : List Char} (h : IsValue v) : IsPassed v := by
  induction h with
  | literal h => exact isPassed_literal h
  | number h => exact isPassed_number h
  | text h => exact isPassed_text h
  | list hs hv ih =>
    exact isPassed_frame .list (fun _ _ => rfl) hs (fun v hm => (hv v hm).opens)
      fun v hm => (ih v hm).in_list
  | object ht hs hv ih =>
    refine isPassed_frame .object (fun _ _ => rfl) hs (fun t hm => ?_) fun t hm => ?_
    · obtain ⟨m, -, hp⟩ := exists_pair_of_mem ht hm
      exact hp.opens
    · obtain ⟨m, hmem, hp⟩ := exists_pair_of_mem ht hm
      exact (ih m hmem).in_object hp

/-- Exactly one value is passed over. -/
theorem skipValue_isValue {v b : List Char} (h : IsValue v) (hb : IsBlank b) (hr : Delimited rest) :
    skipValue (b ++ (v ++ rest)) = .ok rest := by
  obtain ⟨n, hn, h⟩ := h.isPassed
  obtain ⟨k, hk⟩ := Nat.exists_eq_add_of_le
    (show n ≤ (b ++ (v ++ rest)).length by simp only [List.length_append]; omega)
  rw [skipValue, skipItems_succ, hk, h k [] b rest hb hr]
  rfl

end SimilarityClient.Json
