/-! # Bytes and texts

Texts are written as UTF-8. Reading never fails: a broken sequence becomes one
replacement character and the byte that broke it is read again.
-/

namespace SimilarityClient.Text

abbrev Bytes := List UInt8

def utf8 (s : List Char) : Bytes := s.flatMap String.utf8EncodeChar

def byteLength : List Char → Nat
  | [] => 0
  | c :: r => c.utf8Size + byteLength r

def replacement : Char := Char.ofNat 0xFFFD

/-- An unfinished sequence: bytes to come, the range of the next one, and the
code so far. -/
structure Pending where
  missing : Nat
  first : Nat
  last : Nat
  code : Nat

/-- What a byte means at the start of a sequence. -/
def startSequence (b : Nat) : Char ⊕ Pending :=
  if b < 0x80 then .inl (Char.ofNat b)
  else if 0xC2 ≤ b ∧ b ≤ 0xDF then .inr ⟨1, 0x80, 0xBF, b - 0xC0⟩
  else if 0xE0 ≤ b ∧ b ≤ 0xEF then
    .inr ⟨2, if b = 0xE0 then 0xA0 else 0x80, if b = 0xED then 0x9F else 0xBF, b - 0xE0⟩
  else if 0xF0 ≤ b ∧ b ≤ 0xF4 then
    .inr ⟨3, if b = 0xF0 then 0x90 else 0x80, if b = 0xF4 then 0x8F else 0xBF, b - 0xF0⟩
  else .inl replacement

def readUtf8From : Option Pending → Bytes → List Char
  | none, [] => []
  | some _, [] => [replacement]
  | none, b :: r =>
    match startSequence b.toNat with
    | .inl c => c :: readUtf8From none r
    | .inr p => readUtf8From (some p) r
  | some p, b :: r =>
    let n := b.toNat
    if p.first ≤ n ∧ n ≤ p.last then
      let code := p.code * 64 + (n - 0x80)
      if p.missing = 1 then Char.ofNat code :: readUtf8From none r
      else readUtf8From (some ⟨p.missing - 1, 0x80, 0xBF, code⟩) r
    else
      replacement :: match startSequence n with
        | .inl c => c :: readUtf8From none r
        | .inr q => readUtf8From (some q) r

def readUtf8 (bytes : Bytes) : List Char := readUtf8From none bytes

@[simp] theorem utf8_nil : utf8 [] = [] := rfl

@[simp] theorem utf8_cons (c : Char) (s : List Char) :
    utf8 (c :: s) = String.utf8EncodeChar c ++ utf8 s := rfl

@[simp] theorem utf8_append (s t : List Char) : utf8 (s ++ t) = utf8 s ++ utf8 t := by
  simp [utf8]

end SimilarityClient.Text
