import SimilarityClient.Json.Text

/-! # Texts are read back

Each character is read from its own escape, or from itself, and nothing of the
text that follows is touched.
-/

namespace SimilarityClient.Json

def push (c : Char) (x : List Char × List Char) : List Char × List Char := (c :: x.1, x.2)

theorem readTextFrom_skip (s t : List Char) :
    readTextFrom s.length (s ++ t) = readTextFrom 0 t := by
  induction s with
  | nil => rfl
  | cons c s ih => rw [List.length_cons, List.cons_append, readTextFrom, ih]

theorem readTextFrom_escape {c : Char} {s t : List Char}
    (h : readEscape (s ++ t) = .ok (c, s.length)) :
    readTextFrom 0 ('\\' :: (s ++ t)) = (readTextFrom 0 t).map (push c) := by
  rw [readTextFrom, if_neg (by decide), if_pos rfl, h]
  change (readTextFrom s.length (s ++ t) >>= fun x => _) = _
  rw [readTextFrom_skip]
  cases readTextFrom 0 t <;> rfl

theorem readTextFrom_plain {c : Char} {t : List Char} (hq : c ≠ '"') (hb : c ≠ '\\')
    (hc : ¬c.toNat < 0x20) : readTextFrom 0 (c :: t) = (readTextFrom 0 t).map (push c) := by
  rw [readTextFrom, if_neg hq, if_neg hb, if_neg hc]
  cases readTextFrom 0 t <;> rfl

theorem hexDigit?_digitChar : ∀ n < 16, hexDigit? (Nat.digitChar n) = some n := by decide

theorem lowerHex4_of_lt :
    ∀ n < 0x20, lowerHex4 n = ['0', '0', Nat.digitChar (n / 16), Nat.digitChar (n % 16)] := by
  decide

theorem readEscape_control {c : Char} (hc : c.toNat < 0x20) (t : List Char) :
    readEscape ('u' :: lowerHex4 c.toNat ++ t) = .ok (c, 5) := by
  have h0 : hexDigit? '0' = some 0 := rfl
  have h1 := hexDigit?_digitChar (c.toNat / 16) (by omega)
  have h2 := hexDigit?_digitChar (c.toNat % 16) (by omega)
  have hn : ((0 * 16 + 0) * 16 + c.toNat / 16) * 16 + c.toNat % 16 = c.toNat := by omega
  have hr : readHex4 (lowerHex4 c.toNat ++ t) = .ok (c.toNat, t) := by
    rw [lowerHex4_of_lt _ hc]
    simp only [List.cons_append, List.nil_append, readHex4, h0, h1, h2, hn]
  have hcode : readCode (lowerHex4 c.toNat ++ t) = .ok (c, 4) := by
    have ht : isTrailing c.toNat = false := by
      rw [isTrailing, decide_eq_false (by omega), Bool.false_and]
    have hl : isLeading c.toNat = false := by
      rw [isLeading, decide_eq_false (by omega), Bool.false_and]
    rw [readCode, hr]
    change (if isTrailing c.toNat = true then _ else if (!isLeading c.toNat) = true then _ else _) = _
    rw [ht, hl, if_neg (by decide), Bool.not_false, if_pos rfl, Char.ofNat_toNat]
    rfl
  rw [List.cons_append, readEscape, hcode]
  rfl

theorem readTextFrom_escaped (c : Char) (t : List Char) :
    readTextFrom 0 (escaped c ++ t) = (readTextFrom 0 t).map (push c) := by
  unfold escaped
  split
  · exact readTextFrom_escape (s := ['"']) rfl
  · exact readTextFrom_escape (s := ['\\']) rfl
  · exact readTextFrom_escape (s := ['n']) rfl
  · exact readTextFrom_escape (s := ['r']) rfl
  · exact readTextFrom_escape (s := ['t']) rfl
  · exact readTextFrom_escape (s := ['b']) rfl
  · exact readTextFrom_escape (s := ['f']) rfl
  · rename_i hq hb _ _ _ _ _
    split
    · rename_i hc
      rw [List.cons_append]
      refine readTextFrom_escape ?_
      rw [readEscape_control hc, lowerHex4_of_lt _ hc]
      rfl
    · rename_i hc
      exact readTextFrom_plain hq hb hc

theorem readText_written (s rest : List Char) :
    readText (s.flatMap escaped ++ '"' :: rest) = .ok (s, rest) := by
  rw [readText]
  induction s with
  | nil => rfl
  | cons c s ih =>
    rw [List.flatMap_cons, List.append_assoc, readTextFrom_escaped, ih]
    rfl

end SimilarityClient.Json
