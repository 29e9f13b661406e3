import Mathlib.Data.List.Forall2
import SimilarityClient.Proofs.Json.Number

/-! # The grammar of JSON

The texts of values, in all layouts: blanks stand between the marks as one
likes, and a text may spell any of its characters as an escape.
-/

namespace SimilarityClient.Json

open Text

def IsBlank (s : List Char) : Prop := ∀ c ∈ s, isSpace c = true

theorem isBlank_nil : IsBlank [] := List.forall_mem_nil _

theorem skipSpace_append {b : List Char} (hb : IsBlank b) (s : List Char) :
    skipSpace (b ++ s) = skipSpace s :=
  List.dropWhile_append_of_pos hb

theorem skipSpace_cons {c : Char} (hc : isSpace c = false) (s : List Char) :
    skipSpace (c :: s) = c :: s := by
  rw [skipSpace, List.dropWhile_cons, hc, if_neg Bool.false_ne_true]

theorem skipSpace_blank {b : List Char} (hb : IsBlank b) : skipSpace b = [] := by
  rw [← List.append_nil b, skipSpace_append hb]
  rfl

theorem isSpace_cases {c : Char} (h : isSpace c = true) :
    c = ' ' ∨ c = '\n' ∨ c = '\t' ∨ c = '\r' := by
  simpa only [isSpace, Bool.or_eq_true, beq_iff_eq, or_assoc] using h

theorem delimited_nil : Delimited [] := nofun

theorem delimited_cons {c : Char} (hd : digit? c = none) (hc : c ∉ ['.', 'e', 'E'])
    (s : List Char) : Delimited (c :: s) := by
  intro d hm
  cases hm
  simp only [List.mem_cons, List.not_mem_nil, or_false, not_or] at hc
  exact ⟨hd, hc⟩

theorem delimited_append {b s : List Char} (hb : IsBlank b) (hs : Delimited s) :
    Delimited (b ++ s) := by
  cases b with
  | nil => exact hs
  | cons c b =>
    have hc : digit? c = none ∧ c ∉ ['.', 'e', 'E'] := by
      rcases isSpace_cases (hb c List.mem_cons_self) with rfl | rfl | rfl | rfl <;> decide
    exact delimited_cons hc.1 hc.2 _

def IsFraction (s : List Char) : Prop := s = [] ∨ ∃ ds, IsDigits ds ∧ ds ≠ [] ∧ s = '.' :: ds

def IsExponent (s : List Char) : Prop :=
  s = [] ∨ ∃ mark sign ds, mark ∈ ['e', 'E'] ∧ sign ∈ [[], ['+'], ['-']] ∧
    IsDigits ds ∧ ds ≠ [] ∧ s = mark :: (sign ++ ds)

def IsMagnitude (s : List Char) : Prop :=
  ∃ w f e, IsWhole w ∧ IsFraction f ∧ IsExponent e ∧ s = w ++ (f ++ e)

def IsNumber (s : List Char) : Prop := IsMagnitude s ∨ ∃ m, IsMagnitude m ∧ s = '-' :: m

/-- Letters of escapes with the characters that they stand for. -/
def escapes : List (Char × Char) :=
  [('"', '"'), ('\\', '\\'), ('/', '/'), ('b', '\x08'), ('f', '\x0c'), ('n', '\n'), ('r', '\r'),
    ('t', '\t')]

/-- Four digits of base sixteen. -/
inductive Code : Nat → List Char → Prop
  | digits {a b c d : Char} {i j k l : Nat} (ha : hexDigit? a = some i) (hb : hexDigit? b = some j)
    (hc : hexDigit? c = some k) (hd : hexDigit? d = some l) :
    Code (((i * 16 + j) * 16 + k) * 16 + l) [a, b, c, d]

structure IsPlainChar (c : Char) : Prop where
  not_mark : c ≠ '"'
  not_escape : c ≠ '\\'
  not_control : ¬c.toNat < 0x20

/-- What may stand between the marks of a text; codes need not name characters. -/
inductive IsText : List Char → Prop
  | nil : IsText []
  | plain {c : Char} {s : List Char} (hc : IsPlainChar c) (h : IsText s) : IsText (c :: s)
  | escape {e c : Char} {s : List Char} (he : (e, c) ∈ escapes) (h : IsText s) :
    IsText ('\\' :: e :: s)
  | code {n : Nat} {u s : List Char} (hu : Code n u) (h : IsText s) :
    IsText ('\\' :: 'u' :: (u ++ s))

/-- A spelling of a text: each of its characters as itself, as an escape, as a code or as two. -/
inductive Spells : List Char → List Char → Prop
  | nil : Spells [] []
  | plain {c : Char} {s t : List Char} (hc : IsPlainChar c) (h : Spells s t) :
    Spells (c :: s) (c :: t)
  | escape {e c : Char} {s t : List Char} (he : (e, c) ∈ escapes) (h : Spells s t) :
    Spells ('\\' :: e :: s) (c :: t)
  | code {n : Nat} {u s t : List Char} (hu : Code n u) (hl : isLeading n = false)
    (ht : isTrailing n = false) (h : Spells s t) :
    Spells ('\\' :: 'u' :: (u ++ s)) (Char.ofNat n :: t)
  | pair {n m : Nat} {u v s t : List Char} (hu : Code n u) (hv : Code m v)
    (hl : isLeading n = true) (ht : isTrailing m = true) (h : Spells s t) :
    Spells ('\\' :: 'u' :: (u ++ ('\\' :: 'u' :: (v ++ s))))
      (Char.ofNat ((n - 0xD800) * 0x400 + (m - 0xDC00) + 0x10000) :: t)

theorem Spells.isText {s t : List Char} (h : Spells s t) : IsText s := by
  induction h with
  | nil => exact .nil
  | plain hc _ ih => exact .plain hc ih
  | escape he _ ih => exact .escape he ih
  | code hu _ _ _ ih => exact .code hu ih
  | pair hu hv _ _ _ ih => exact .code hu (.code hv ih)

/-- Items behind the first one, each of them after a comma. -/
inductive Tail : List (List Char) → List Char → Prop
  | nil {b : List Char} (hb : IsBlank b) : Tail [] b
  | cons {v : List Char} {vs : List (List Char)} {a b t : List Char} (ha : IsBlank a)
    (hb : IsBlank b) (ht : Tail vs t) : Tail (v :: vs) (a ++ ',' :: (b ++ (v ++ t)))

/-- Items with commas between them. -/
inductive Items : List (List Char) → List Char → Prop
  | nil {b : List Char} (hb : IsBlank b) : Items [] b
  | cons {v : List Char} {vs : List (List Char)} {b t : List Char} (hb : IsBlank b)
    (ht : Tail vs t) : Items (v :: vs) (b ++ (v ++ t))

/-- A member of an object: the spelling of its key, and its value. -/
inductive Pair : List Char × List Char → List Char → Prop
  | mk {k v a b : List Char} (hk : IsText k) (ha : IsBlank a) (hb : IsBlank b) :
    Pair (k, v) ('"' :: (k ++ '"' :: (a ++ ':' :: (b ++ v))))

def literals : List (List Char) := ["null".toList, "true".toList, "false".toList]

inductive IsValue : List Char → Prop
  | literal {s : List Char} (h : s ∈ literals) : IsValue s
  | number {s : List Char} (h : IsNumber s) : IsValue s
  | text {s : List Char} (h : IsText s) : IsValue ('"' :: (s ++ ['"']))
  | list {vs : List (List Char)} {s : List Char} (hs : Items vs s) (hv : ∀ v ∈ vs, IsValue v) :
    IsValue ('[' :: (s ++ [']']))
  | object {ms : List (List Char × List Char)} {ts : List (List Char)} {s : List Char}
    (ht : List.Forall₂ Pair ms ts) (hs : Items ts s) (hv : ∀ m ∈ ms, IsValue m.2) :
    IsValue ('\x7b' :: (s ++ ['\x7d']))

def ListOf (vs : List (List Char)) (v : List Char) : Prop :=
  (∀ w ∈ vs, IsValue w) ∧ ∃ s, Items vs s ∧ v = '[' :: (s ++ [']'])

theorem ListOf.isValue {vs : List (List Char)} {v : List Char} (h : ListOf vs v) : IsValue v := by
  obtain ⟨hv, s, hs, rfl⟩ := h
  exact .list hs hv

theorem Tail.delimited {vs : List (List Char)} {t : List Char} (h : Tail vs t) {c : Char}
    (hd : digit? c = none) (hc : c ∉ ['.', 'e', 'E']) (rest : List Char) :
    Delimited (t ++ c :: rest) := by
  cases h with
  | nil hb => exact delimited_append hb (delimited_cons hd hc rest)
  | cons ha hb ht =>
    rw [List.append_assoc]
    exact delimited_append ha (delimited_cons rfl (by decide) _)

/-- A character that a value may begin with. -/
structure IsOpening (c : Char) : Prop where
  not_space : isSpace c = false
  not_end : c ∉ [']', '\x7d', ',']

theorem digit?_isSome {c : Char} (h : c.isDigit = true) : (digit? c).isSome = true := by
  rw [digit?_of_isDigit h]
  rfl

theorem ne_of_isDigit {c d : Char} (h : c.isDigit = true) (hd : d.isDigit = false) : c ≠ d := by
  rintro rfl
  cases h.symm.trans hd

theorem isOpening_of_isDigit {c : Char} (h : c.isDigit = true) : IsOpening c := by
  have hd := digit?_isSome h
  refine ⟨?_, fun hm => ?_⟩
  · rw [← Bool.not_eq_true]
    intro hs
    rcases isSpace_cases hs with rfl | rfl | rfl | rfl <;> cases hd
  · simp only [List.mem_cons, List.not_mem_nil, or_false] at hm
    rcases hm with rfl | rfl | rfl <;> cases hd

theorem IsMagnitude.exists_cons {s : List Char} (h : IsMagnitude s) :
    ∃ c r, s = c :: r ∧ c.isDigit = true := by
  obtain ⟨w, f, e, hw, -, -, rfl⟩ := h
  obtain ⟨c, r, rfl⟩ := List.exists_cons_of_ne_nil hw.ne_nil
  exact ⟨c, r ++ (f ++ e), rfl, hw.digits.of_cons.1⟩

theorem IsNumber.exists_cons {s : List Char} (h : IsNumber s) :
    ∃ c r, s = c :: r ∧ (c = '-' ∨ c.isDigit = true) := by
  rcases h with h | ⟨m, -, rfl⟩
  · obtain ⟨c, r, rfl, hc⟩ := h.exists_cons
    exact ⟨c, r, rfl, .inr hc⟩
  · exact ⟨'-', m, rfl, .inl rfl⟩

theorem mem_literals {s : List Char} (h : s ∈ literals) :
    ∃ c r, s = c :: r ∧ c ∈ ['n', 't', 'f'] := by
  simp only [literals, List.mem_cons, List.not_mem_nil, or_false] at h
  rcases h with rfl | rfl | rfl
  · exact ⟨'n', _, rfl, by decide⟩
  · exact ⟨'t', _, rfl, by decide⟩
  · exact ⟨'f', _, rfl, by decide⟩

/-- A first character of a value that is no text, list or object. -/
structure IsBare (c : Char) : Prop where
  not_space : isSpace c = false
  not_text : c ≠ '"'
  not_list : c ≠ '['
  not_object : c ≠ '\x7b'

theorem exists_cons_of_bare {s : List Char} (h : s ∈ literals ∨ IsNumber s) :
    ∃ c r, s = c :: r ∧ IsBare c := by
  rcases h with h | h
  · obtain ⟨c, r, rfl, hc⟩ := mem_literals h
    simp only [List.mem_cons, List.not_mem_nil, or_false] at hc
    refine ⟨c, r, rfl, ?_⟩
    rcases hc with rfl | rfl | rfl <;> constructor <;> decide
  · obtain ⟨c, r, rfl, rfl | hc⟩ := h.exists_cons
    · exact ⟨'-', r, rfl, rfl, by decide, by decide, by decide⟩
    · exact ⟨c, r, rfl, (isOpening_of_isDigit hc).not_space, ne_of_isDigit hc rfl,
        ne_of_isDigit hc rfl, ne_of_isDigit hc rfl⟩

/-- A value is never empty, and begins with none of the marks that end one. -/
theorem IsValue.exists_cons {v : List Char} (h : IsValue v) : ∃ c r, v = c :: r ∧ IsOpening c := by
  cases h with
  | literal h =>
    obtain ⟨c, r, rfl, hc⟩ := mem_literals h
    simp only [List.mem_cons, List.not_mem_nil, or_false] at hc
    refine ⟨c, r, rfl, ?_⟩
    rcases hc with rfl | rfl | rfl <;> exact ⟨rfl, by decide⟩
  | number h =>
    obtain ⟨c, r, rfl, rfl | hc⟩ := h.exists_cons
    · exact ⟨_, r, rfl, rfl, by decide⟩
    · exact ⟨c, r, rfl, isOpening_of_isDigit hc⟩
  | text h => exact ⟨_, _, rfl, rfl, by decide⟩
  | list hs hv => exact ⟨_, _, rfl, rfl, by decide⟩
  | object ht hs hv => exact ⟨_, _, rfl, rfl, by decide⟩

end SimilarityClient.Json
