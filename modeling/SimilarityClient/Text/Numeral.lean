/-! # Unsigned numerals

A numeral is read from ASCII digits, after at most one plus sign. The first
fault from the left counts.
-/

namespace SimilarityClient.Text

inductive NumeralFault
  | empty | invalidDigit | tooLarge
  deriving DecidableEq, Repr

def NumeralFault.message : NumeralFault → String
  | .empty => "cannot parse integer from empty string"
  | .invalidDigit => "invalid digit found in string"
  | .tooLarge => "number too large to fit in target type"

def digit? (c : Char) : Option Nat :=
  if '0' ≤ c ∧ c ≤ '9' then some (c.toNat - 48) else none

/-- Appends digits to a value that has been read so far. -/
def readDigits (limit : Nat) : Nat → List Char → Except NumeralFault Nat
  | value, [] => .ok value
  | value, c :: r =>
    match digit? c with
    | none => .error .invalidDigit
    | some d =>
      if limit < 10 * value + d then .error .tooLarge else readDigits limit (10 * value + d) r

def readUnsigned (limit : Nat) : List Char → Except NumeralFault Nat
  | [] => .error .empty
  | ['+'] => .error .invalidDigit
  | '+' :: r => readDigits limit 0 r
  | s => readDigits limit 0 s

/-- The largest numbers of 16, 31 and 64 bits. -/
def max16 : Nat := Nat.pow 2 16 - 1
def max31 : Nat := Nat.pow 2 31 - 1
def max64 : Nat := Nat.pow 2 64 - 1

def decimal (n : Nat) : List Char := Nat.toDigits 10 n

end SimilarityClient.Text
