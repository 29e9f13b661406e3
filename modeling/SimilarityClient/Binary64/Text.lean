import SimilarityClient.Binary64.Decimal

/-! # Number texts

Three texts of a number: plain, without an exponent ever; the text of a JSON
document; and a text with two places after the point.
-/

namespace SimilarityClient

open Text (decimal)

namespace Decimal

/-- The number of digits before the point. -/
def pointAt (x : Decimal) : Int := (decimal x.digits).length + x.exponent

/-- Digits with the point among them, filled up with zeros. -/
def plain (x : Decimal) : List Char :=
  let ds := decimal x.digits
  match x.exponent with
  | .ofNat e => ds ++ List.replicate e '0'
  | .negSucc e =>
    let places := e + 1
    if ds.length ≤ places then '0' :: '.' :: List.replicate (places - ds.length) '0' ++ ds
    else ds.take (ds.length - places) ++ '.' :: ds.drop (ds.length - places)

def signed (n : Int) : List Char :=
  (if n < 0 then '-' else '+') :: decimal n.natAbs

/-- One digit before the point, and the exponent that restores the number. -/
def scientific (x : Decimal) : List Char :=
  let ds := decimal x.digits
  let point := if ds.length ≤ 1 then [] else ['.']
  ds.take 1 ++ point ++ ds.drop 1 ++ 'e' :: signed (x.pointAt - 1)

/-- Numbers from `1e-5` to below `1e16` are written without an exponent, and
whole ones among them with a zero after the point. -/
def json (x : Decimal) : List Char :=
  if x.digits = 0 then ['0', '.', '0']
  else if -5 < x.pointAt ∧ x.pointAt ≤ 16 then
    x.plain ++ (if 0 ≤ x.exponent then ['.', '0'] else [])
  else x.scientific

end Decimal

namespace Binary64

def sign (negative : Bool) : List Char := if negative then ['-'] else []

/-- A text is made of the magnitude, unless it is infinite or missing. -/
def textWith (ofMagnitude : Magnitude → List Char) : Binary64 → List Char
  | nan => "NaN".toList
  | number s m => sign s ++ if m.isInfinite then "inf".toList else ofMagnitude m

def plain : Binary64 → List Char := textWith fun m => (m.shortest .up).plain

def finiteJson : Binary64 → List Char := textWith fun m => (m.shortest .even).json

/-- A number that has no place in a JSON document is written as null. -/
def json (x : Binary64) : List Char := if x.isFinite then x.finiteJson else "null".toList

def hundredths (n : Nat) : List Char :=
  let cents := decimal (n % 100)
  decimal (n / 100) ++ '.' :: List.replicate (2 - cents.length) '0' ++ cents

/-- Two places after the point, from the exact value; a tie goes to the even digit. -/
def twoPlaces : Binary64 → List Char :=
  textWith fun m => hundredths (roundQuotient (m.units * 100) unitsPerOne)

end Binary64

end SimilarityClient
