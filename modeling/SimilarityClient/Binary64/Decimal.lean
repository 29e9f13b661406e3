import SimilarityClient.Binary64.Basic
import SimilarityClient.Text.Numeral

/-! # Shortest decimals

The shortest decimal of a magnitude has the fewest digits among those that read
back as it, and is the nearest of these. Points are sought on grids of powers
of ten, from coarse to fine. Values are counted in units of `10 ^ -1074`, where
every magnitude is whole.
-/

namespace SimilarityClient

/-- The number `digits * 10 ^ exponent`. -/
structure Decimal where
  digits : Nat
  exponent : Int
  deriving DecidableEq, Repr

/-- Which of two equally near points is taken. -/
inductive Tie
  | up | even
  deriving DecidableEq, Repr

namespace Magnitude

def fineScale : Nat := Nat.pow 5 1074

/-- Twice the ends of the interval of reals that round to a code. -/
def lowEnd (code : Nat) : Nat := (unitsOf (code - 1) + unitsOf code) * fineScale
def highEnd (code : Nat) : Nat := (unitsOf code + unitsOf (code + 1)) * fineScale

/-- Twice a value lies in the interval; an even code takes the ends. -/
def roundsTo (code twice : Nat) : Bool :=
  if code % 2 = 0 then lowEnd code ≤ twice && twice ≤ highEnd code
  else lowEnd code < twice && twice < highEnd code

/-- The multiple of `grid` that is nearest to the value of a code, among its two
neighbours that read back. -/
def gridPoint? (tie : Tie) (code grid : Nat) : Option Nat :=
  let value := unitsOf code * fineScale
  let q := value / grid
  match roundsTo code (2 * (q * grid)), roundsTo code (2 * ((q + 1) * grid)) with
  | false, false => none
  | true, false => some q
  | false, true => some (q + 1)
  | true, true =>
    let twice := 2 * (value % grid)
    if twice < grid then some q
    else if grid < twice then some (q + 1)
    else match tie with
      | .up => some (q + 1)
      | .even => some (q + q % 2)

/-- Seeks on the grid `10 ^ j` and then on finer ones. On the finest the value
itself is a point. -/
def seek (tie : Tie) (code : Nat) : Nat → Nat × Nat
  | 0 => (unitsOf code * fineScale, 0)
  | j + 1 =>
    match gridPoint? tie code (Nat.pow 10 (j + 1)) with
    | some d => (d, j + 1)
    | none => seek tie code j

def shortest (tie : Tie) (m : Magnitude) : Decimal :=
  if m.val = 0 then ⟨0, 0⟩
  else
    let (d, j) := seek tie m.val (Text.decimal (m.units * fineScale)).length
    ⟨d, (j : Int) - 1074⟩

end Magnitude

end SimilarityClient
