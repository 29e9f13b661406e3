import SimilarityClient.Json.Fault

/-! # JSON texts

Writing escapes quotation marks, backslashes and control characters. Reading
knows every escape; two escapes may name the halves of one character.
-/

namespace SimilarityClient.Json

def lowerHex4 (n : Nat) : List Char :=
  let ds := Nat.toDigits 16 n
  List.replicate (4 - ds.length) '0' ++ ds

def escaped (c : Char) : List Char :=
  match c with
  | '"' => ['\\', '"']
  | '\\' => ['\\', '\\']
  | '\n' => ['\\', 'n']
  | '\r' => ['\\', 'r']
  | '\t' => ['\\', 't']
  | '\x08' => ['\\', 'b']
  | '\x0c' => ['\\', 'f']
  | c => if c.toNat < 0x20 then '\\' :: 'u' :: lowerHex4 c.toNat else [c]

def writeText (s : List Char) : List Char := '"' :: s.flatMap escaped ++ ['"']

/-- Stops in front of a rest. -/
def stopAt {α : Type} (fault : Fault) (rest : List Char) : Except Stop α :=
  .error ⟨fault, Text.byteLength rest⟩

/-- Stops one byte into a rest, or at its end. -/
def stopIn {α : Type} (fault : Fault) (rest : List Char) : Except Stop α :=
  .error ⟨fault, Text.byteLength rest - 1⟩

def isSpace (c : Char) : Bool := c == ' ' || c == '\n' || c == '\t' || c == '\r'

def skipSpace (s : List Char) : List Char := s.dropWhile isSpace

def hexDigit? (c : Char) : Option Nat :=
  if '0' ≤ c ∧ c ≤ '9' then some (c.toNat - 48)
  else if 'a' ≤ c ∧ c ≤ 'f' then some (c.toNat - 87)
  else if 'A' ≤ c ∧ c ≤ 'F' then some (c.toNat - 55)
  else none

/-- The four digits of an escape; any four bytes are taken before they are looked at. -/
def readHex4 (s : List Char) : Except Stop (Nat × List Char) :=
  match s with
  | a :: b :: c :: d :: r =>
    match hexDigit? a, hexDigit? b, hexDigit? c, hexDigit? d with
    | some a, some b, some c, some d => .ok (((a * 16 + b) * 16 + c) * 16 + d, r)
    | _, _, _, _ => .error ⟨.invalidEscape, Text.byteLength s - 4⟩
  | s =>
    if Text.byteLength s < 4 then .error ⟨.endInText, 0⟩
    else .error ⟨.invalidEscape, Text.byteLength s - 4⟩

def isLeading (n : Nat) : Bool := 0xD800 ≤ n && n ≤ 0xDBFF
def isTrailing (n : Nat) : Bool := 0xDC00 ≤ n && n ≤ 0xDFFF

/-- The character of an escape that begins after `\u`, and the number of
characters that spell it. -/
def readCode (s : List Char) : Except Stop (Char × Nat) := do
  let (n, r) ← readHex4 s
  if isTrailing n then stopAt .loneSurrogate r
  else if !isLeading n then return (Char.ofNat n, 4)
  else
    match r with
    | [] => stopAt .endInText []
    | '\\' :: 'u' :: t =>
      let (m, t) ← readHex4 t
      if isTrailing m then
        return (Char.ofNat ((n - 0xD800) * 0x400 + (m - 0xDC00) + 0x10000), 10)
      else stopAt .loneSurrogate t
    | ['\\'] => stopAt .endInText []
    | '\\' :: t => stopIn .unfinishedEscape t
    | t => stopIn .unfinishedEscape t

/-- The character of an escape that begins after the backslash, and the number
of characters that spell it. -/
def readEscape : List Char → Except Stop (Char × Nat)
  | [] => stopAt .endInText []
  | 'u' :: r => do
    let (c, n) ← readCode r
    return (c, n + 1)
  | '"' :: _ => .ok ('"', 1)
  | '\\' :: _ => .ok ('\\', 1)
  | '/' :: _ => .ok ('/', 1)
  | 'b' :: _ => .ok ('\x08', 1)
  | 'f' :: _ => .ok ('\x0c', 1)
  | 'n' :: _ => .ok ('\n', 1)
  | 'r' :: _ => .ok ('\r', 1)
  | 't' :: _ => .ok ('\t', 1)
  | r => stopIn .invalidEscape r

/-- Reads a text after its opening mark. The first argument counts characters of
an escape that has been read already. -/
def readTextFrom : Nat → List Char → Except Stop (List Char × List Char)
  | _, [] => stopAt .endInText []
  | n + 1, _ :: r => readTextFrom n r
  | 0, c :: r =>
    if c = '"' then .ok ([], r)
    else if c = '\\' then do
      let (d, n) ← readEscape r
      let (text, rest) ← readTextFrom n r
      return (d :: text, rest)
    else if c.toNat < 0x20 then stopIn .controlCharacter (c :: r)
    else do
      let (text, rest) ← readTextFrom 0 r
      return (c :: text, rest)

def readText (s : List Char) : Except Stop (List Char × List Char) := readTextFrom 0 s

/-- The number of characters of an escape in a text that nobody looks at. -/
def skipEscape : List Char → Except Stop Nat
  | [] => stopAt .endInText []
  | 'u' :: r => do
    let _ ← readHex4 r
    return 5
  | c :: r =>
    if c ∈ ['"', '\\', '/', 'b', 'f', 'n', 'r', 't'] then .ok 1 else stopIn .invalidEscape (c :: r)

def skipTextFrom : Nat → List Char → Except Stop (List Char)
  | _, [] => stopAt .endInText []
  | n + 1, _ :: r => skipTextFrom n r
  | 0, c :: r =>
    if c = '"' then .ok r
    else if c = '\\' then do
      let n ← skipEscape r
      skipTextFrom n r
    else if c.toNat < 0x20 then stopAt .controlCharacter (c :: r)
    else skipTextFrom 0 r

def skipText (s : List Char) : Except Stop (List Char) := skipTextFrom 0 s

end SimilarityClient.Json
