/-! # Binary64 numbers

A magnitude is the number that the exponent and fraction bits form together, so
magnitudes are ordered as their values are. Values are exact multiples of the
smallest positive number, the unit; there are `unitsPerOne` of it in one.
-/

namespace SimilarityClient

/-- The number of codes that share an exponent. -/
def fractionCount : Nat := Nat.pow 2 52

def infinityCode : Nat := 2047 * fractionCount

abbrev Magnitude := Fin (infinityCode + 1)

/-- All numbers that are not a number count as one. -/
inductive Binary64
  | nan
  | number (negative : Bool) (magnitude : Magnitude)
  deriving DecidableEq, Repr

/-- Rounds a quotient to the nearest whole number, ties to the even one. -/
def roundQuotient (num den : Nat) : Nat :=
  let q := num / den
  let twice := 2 * (num % den)
  if twice < den then q else if den < twice then q + 1 else q + q % 2

def unitsPerOne : Nat := Nat.pow 2 1074

namespace Magnitude

def infinity : Magnitude := ⟨infinityCode, Nat.lt_succ_self _⟩

/-- The value of a code in units: its fraction, shifted by its exponent. -/
def unitsOf (code : Nat) : Nat :=
  let exponent := code / fractionCount
  let fraction := code % fractionCount
  if exponent = 0 then fraction else (fractionCount + fraction) * Nat.pow 2 (exponent - 1)

def units (m : Magnitude) : Nat := unitsOf m.val

/-- The nearest code to a quotient of units, ties to the even one. The quotient
keeps 53 significant bits; what is dropped below them raises the exponent. -/
def codeOf (num den : Nat) : Nat :=
  let shift := Nat.log2 (num / den) - 52
  roundQuotient num (den * Nat.pow 2 shift) + shift * fractionCount

def ofRatio (num den : Nat) : Magnitude :=
  ⟨min (codeOf num den) infinityCode, Nat.lt_succ_of_le (Nat.min_le_right _ _)⟩

def isInfinite (m : Magnitude) : Bool := m.val == infinityCode

def isZero (m : Magnitude) : Bool := m.val == 0

end Magnitude

namespace Binary64

open Magnitude

def signBit : Nat := Nat.pow 2 63

def ofBits (bits : Nat) : Binary64 :=
  let code := bits % signBit
  if h : code < infinityCode + 1 then number (bits / signBit % 2 == 1) ⟨code, h⟩ else nan

def bits? : Binary64 → Option Nat
  | nan => none
  | number negative m => some ((if negative then signBit else 0) + m.val)

def ofNat (n : Nat) : Binary64 := number false (ofRatio (n * unitsPerOne) 1)

def zero : Binary64 := number false 0

def neg : Binary64 → Binary64
  | nan => nan
  | number s m => number (!s) m

def isFinite : Binary64 → Bool
  | nan => false
  | number _ m => !m.isInfinite

def isInfinite : Binary64 → Bool
  | nan => false
  | number _ m => m.isInfinite

def isZero : Binary64 → Bool
  | nan => false
  | number _ m => m.isZero

def mul : Binary64 → Binary64 → Binary64
  | number s a, number t b =>
    if (a.isInfinite && b.isZero) || (a.isZero && b.isInfinite) then nan
    else if a.isInfinite || b.isInfinite then number (s != t) infinity
    else number (s != t) (ofRatio (a.units * b.units) unitsPerOne)
  | _, _ => nan

def div : Binary64 → Binary64 → Binary64
  | number s a, number t b =>
    if (a.isInfinite && b.isInfinite) || (a.isZero && b.isZero) then nan
    else if a.isInfinite || b.isZero then number (s != t) infinity
    else if b.isInfinite then number (s != t) 0
    else number (s != t) (ofRatio (a.units * unitsPerOne) b.units)
  | _, _ => nan

/-- The nearest whole number, ties away from zero. -/
def round : Binary64 → Binary64
  | nan => nan
  | number s m =>
    number s (ofRatio ((m.units + unitsPerOne / 2) / unitsPerOne * unitsPerOne) 1)

/-- Places numbers on a line; both zeros stand at the same place. -/
def place (negative : Bool) (m : Magnitude) : Int :=
  if negative then -(m.val : Int) else m.val

def lt : Binary64 → Binary64 → Bool
  | number s a, number t b => place s a < place t b
  | _, _ => false

/-- The larger number; one that is not a number gives way, and a tie keeps the first. -/
def max : Binary64 → Binary64 → Binary64
  | nan, b => b
  | a, b => if a.lt b then b else a

def clamp (x low high : Binary64) : Binary64 :=
  if x.lt low then low else if high.lt x then high else x

/-- The power of ten nearest to it. -/
def pow10 (e : Nat) : Binary64 := ofNat (Nat.pow 10 e)

end Binary64

end SimilarityClient
