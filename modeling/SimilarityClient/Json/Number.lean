import SimilarityClient.Json.Text

/-! # JSON numbers

A number is read into a significand of 64 bits and a power of ten. Digits that
no longer fit raise the exponent if they stand before the point and are dropped
behind it. The number is the significand, rounded, times or divided by a
rounded power of ten, and rounded again.
-/

namespace SimilarityClient.Json

open Text (digit? max31 max64)

def Numeral.toBinary64 : Numeral → Binary64
  | .whole n => if n < 0 then (Binary64.ofNat n.natAbs).neg else Binary64.ofNat n.natAbs
  | .fractional x => x

def startsWithDigit (s : List Char) : Bool := s.head?.any (digit? · |>.isSome)

/-- The digits at the start of a text, and the rest. -/
def takeDigits : List Char → List Nat × List Char
  | [] => ([], [])
  | c :: r =>
    match digit? c with
    | some d => let (ds, t) := takeDigits r; (d :: ds, t)
    | none => ([], c :: r)

/-- Appends digits to a significand while it fits; also tells how many there were. -/
def absorb : Nat → List Nat → Nat × Nat
  | value, [] => (value, 0)
  | value, d :: ds =>
    if max64 < 10 * value + d then (value, 0)
    else
      let (result, count) := absorb (10 * value + d) ds
      (result, count + 1)

/-- Divides by a power of ten, at most 308 of them at a time, until zero is reached. -/
def divideByPower : Nat → Binary64 → Nat → Binary64
  | 0, x, _ => x
  | n + 1, x, e =>
    if e ≤ 308 then x.div (Binary64.pow10 e)
    else if x.isZero then x
    else divideByPower n (x.div (Binary64.pow10 308)) (e - 308)

/-- A significand times a power of ten, unless that is too large. -/
def scale? (significand : Nat) (exponent : Int) : Option Binary64 :=
  let x := Binary64.ofNat significand
  match exponent with
  | .ofNat e =>
    if e ≤ 308 then
      let y := x.mul (Binary64.pow10 e)
      if y.isInfinite then none else some y
    else if x.isZero then some x
    else none
  | .negSucc e => some (divideByPower (e + 1) x (e + 1))

def withSign (negative : Bool) (x : Binary64) : Binary64 := if negative then x.neg else x

def finish (negative : Bool) (significand : Nat) (exponent : Int) (rest : List Char) :
    Except Stop (Numeral × List Char) :=
  match scale? significand exponent with
  | some x => .ok (.fractional (withSign negative x), rest)
  | none => stopAt .numberOutOfRange rest

/-- Reads an exponent of 31 bits; `none` stands for a larger one, and the rest
then starts behind the digit that was too much. -/
def readExponent : Nat → List Char → Option Nat × List Char
  | value, [] => (some value, [])
  | value, c :: r =>
    match digit? c with
    | none => (some value, c :: r)
    | some d =>
      if max31 < 10 * value + d then (none, r) else readExponent (10 * value + d) r

def afterExponentMark (negative : Bool) (significand : Nat) (exponent : Int) (s : List Char) :
    Except Stop (Numeral × List Char) :=
  let (down, digits) := match s with
    | '+' :: r => (false, r)
    | '-' :: r => (true, r)
    | r => (false, r)
  if digits = [] then stopAt .endInValue []
  else if !startsWithDigit digits then stopIn .invalidNumber digits
  else match readExponent 0 digits with
    | (some e, rest) => finish negative significand (if down then exponent - e else exponent + e) rest
    | (none, rest) =>
      if significand ≠ 0 ∧ !down then stopAt .numberOutOfRange rest
      else .ok (.fractional (withSign negative Binary64.zero), (takeDigits rest).2)

def afterPoint (negative : Bool) (significand : Nat) (exponent : Int) (s : List Char) :
    Except Stop (Numeral × List Char) :=
  let (ds, rest) := takeDigits s
  if ds = [] then
    if rest = [] then stopAt .endInValue [] else stopIn .invalidNumber rest
  else
    let (significand, count) := absorb significand ds
    let exponent := exponent - count
    match rest with
    | 'e' :: r | 'E' :: r => afterExponentMark negative significand exponent r
    | rest => finish negative significand exponent rest

/-- The largest magnitude of a negative whole number of 64 bits. -/
def maxNegated : Nat := Nat.pow 2 63

/-- Reads a number after its sign. -/
def readMagnitude (negative : Bool) (s : List Char) : Except Stop (Numeral × List Char) :=
  if s = [] then stopAt .endInValue []
  else if !startsWithDigit s then stopIn .invalidNumber s
  else
    let (ds, rest) := takeDigits s
    if ds.head? = some 0 ∧ 1 < ds.length then stopIn .invalidNumber s.tail
    else
      let (significand, count) := absorb 0 ds
      let exponent : Int := ds.length - count
      match rest with
      | '.' :: r => afterPoint negative significand exponent r
      | 'e' :: r | 'E' :: r => afterExponentMark negative significand exponent r
      | rest =>
        if exponent ≠ 0 then finish negative significand exponent rest
        else if !negative then .ok (.whole significand, rest)
        else if significand = 0 ∨ maxNegated < significand then
          .ok (.fractional (Binary64.ofNat significand).neg, rest)
        else .ok (.whole (-significand), rest)

def skipExponent (s : List Char) : Except Stop (List Char) :=
  let digits := match s with
    | '+' :: r | '-' :: r => r
    | r => r
  if startsWithDigit digits then .ok (takeDigits digits).2 else stopIn .invalidNumber digits

/-- Passes over a number after its sign, however large it is. -/
def skipMagnitude (s : List Char) : Except Stop (List Char) :=
  if !startsWithDigit s then stopIn .invalidNumber s
  else
    let (ds, rest) := takeDigits s
    if ds.head? = some 0 ∧ 1 < ds.length then stopIn .invalidNumber s.tail
    else match rest with
      | '.' :: r =>
        let (ds, rest) := takeDigits r
        if ds = [] then stopIn .invalidNumber rest
        else match rest with
          | 'e' :: r | 'E' :: r => skipExponent r
          | rest => .ok rest
      | 'e' :: r | 'E' :: r => skipExponent r
      | rest => .ok rest

end SimilarityClient.Json
