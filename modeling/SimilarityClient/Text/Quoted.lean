import SimilarityClient.Text.Case
import SimilarityClient.Text.ClassTable

/-! # Quoted texts in messages

A message shows a text between quotation marks. Characters that would not be
seen are spelled by their code.
-/

namespace SimilarityClient.Text

def isAlphanumeric (c : Char) : Bool := inRanges alphanumericRanges c

def isUnprinted (c : Char) : Bool := inRanges unprintedRanges c

def lowerHex (n : Nat) : List Char := Nat.toDigits 16 n

def shown (c : Char) : List Char :=
  match c with
  | '\x00' => ['\\', '0']
  | '\t' => ['\\', 't']
  | '\n' => ['\\', 'n']
  | '\r' => ['\\', 'r']
  | '"' => ['\\', '"']
  | '\\' => ['\\', '\\']
  | c =>
    if isUnprinted c then ['\\', 'u', '\x7b'] ++ lowerHex c.toNat ++ ['\x7d'] else [c]

def quoted (s : List Char) : List Char :=
  '"' :: s.flatMap shown ++ ['"']

end SimilarityClient.Text
