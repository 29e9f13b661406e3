import SimilarityClient.Binary64.Text
import SimilarityClient.Text.Quoted
import SimilarityClient.Text.Utf8

/-! # Faults of a JSON document

What is wrong with a document and where. A reader that stops knows how many
bytes it has left; the place follows from the text. Columns count bytes.
-/

namespace SimilarityClient.Json

open Text (decimal)

/-- A number as written: whole, or with a fraction, an exponent or too many digits. -/
inductive Numeral
  | whole (value : Int)
  | fractional (value : Binary64)
  deriving DecidableEq, Repr

/-- A value that stands where another one is expected. -/
inductive Found
  | null
  | boolean (value : Bool)
  | number (numeral : Numeral)
  | text (value : List Char)
  | list
  | object
  deriving DecidableEq, Repr

inductive Fault
  | endInValue | endInText | endInList | endInObject
  | valueExpected | literalExpected | colonExpected
  | listCommaExpected | objectCommaExpected
  | textKeyExpected
  | trailingComma | trailingText
  | invalidNumber | numberOutOfRange
  | invalidEscape | loneSurrogate | unfinishedEscape | controlCharacter
  | unexpected (found : Found) (expected : String)
  | wrongLength (found : Nat) (expected : String)
  | missingMember (name : String)
  | repeatedMember (name : String)
  deriving DecidableEq, Repr

def intText (n : Int) : List Char :=
  (if n < 0 then ['-'] else []) ++ decimal n.natAbs

def Found.message : Found → List Char
  | .null => "null".toList
  | .boolean true => "boolean `true`".toList
  | .boolean false => "boolean `false`".toList
  | .number (.whole n) => "integer `".toList ++ intText n ++ "`".toList
  | .number (.fractional x) => "floating point `".toList ++ x.finiteJson ++ "`".toList
  | .text s => "string ".toList ++ Text.quoted s
  | .list => "sequence".toList
  | .object => "map".toList

def Fault.message : Fault → List Char
  | .endInValue => "EOF while parsing a value".toList
  | .endInText => "EOF while parsing a string".toList
  | .endInList => "EOF while parsing a list".toList
  | .endInObject => "EOF while parsing an object".toList
  | .valueExpected => "expected value".toList
  | .literalExpected => "expected ident".toList
  | .colonExpected => "expected `:`".toList
  | .listCommaExpected => "expected `,` or `]`".toList
  | .objectCommaExpected => "expected `,` or `\x7d`".toList
  | .textKeyExpected => "key must be a string".toList
  | .trailingComma => "trailing comma".toList
  | .trailingText => "trailing characters".toList
  | .invalidNumber => "invalid number".toList
  | .numberOutOfRange => "number out of range".toList
  | .invalidEscape => "invalid escape".toList
  | .loneSurrogate => "lone leading surrogate in hex escape".toList
  | .unfinishedEscape => "unexpected end of hex escape".toList
  | .controlCharacter =>
    "control character (\\u0000-\\u001F) found while parsing a string".toList
  | .unexpected found expected =>
    "invalid type: ".toList ++ found.message ++ ", expected ".toList ++ expected.toList
  | .wrongLength found expected =>
    "invalid length ".toList ++ decimal found ++ ", expected ".toList ++ expected.toList
  | .missingMember name => "missing field `".toList ++ name.toList ++ "`".toList
  | .repeatedMember name => "duplicate field `".toList ++ name.toList ++ "`".toList

/-- A fault, and the number of bytes that stand after its place. -/
structure Stop where
  fault : Fault
  left : Nat
  deriving DecidableEq, Repr

/-- Lines count from one, columns count the bytes before the place. -/
structure Place where
  line : Nat
  column : Nat
  deriving DecidableEq, Repr

/-- Moves a place over some bytes of a text. -/
def Place.advance (p : Place) : List Char → Nat → Place
  | [], n => ⟨p.line, p.column + n⟩
  | c :: r, n =>
    if n < c.utf8Size then ⟨p.line, p.column + n⟩
    else if c = '\n' then Place.advance ⟨p.line + 1, 0⟩ r (n - 1)
    else Place.advance ⟨p.line, p.column + c.utf8Size⟩ r (n - c.utf8Size)

def Stop.place (stop : Stop) (text : List Char) : Place :=
  Place.advance ⟨1, 0⟩ text (Text.byteLength text - stop.left)

structure Located where
  fault : Fault
  place : Place
  deriving DecidableEq, Repr

def Located.message (e : Located) : String :=
  String.ofList <| e.fault.message ++ " at line ".toList ++ decimal e.place.line ++
    " column ".toList ++ decimal e.place.column

end SimilarityClient.Json
