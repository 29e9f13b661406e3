import SimilarityClient.Libraries
import SimilarityClient.Text.Blank

/-! # Texts of answers

The bytes of an answer become text by their byte order mark, by the character
set of the content type, or else as UTF-8. What cannot be read is replaced.
-/

namespace SimilarityClient

open Text (Bytes)

inductive Charset
  | utf8 | utf16le | utf16be | windows1252
  | further (label : String)
  deriving DecidableEq, Repr

namespace Charset

def utf8Labels : List String :=
  ["unicode-1-1-utf-8", "unicode11utf8", "unicode20utf8", "utf-8", "utf8", "x-unicode20utf8"]

def utf16leLabels : List String :=
  ["csunicode", "iso-10646-ucs-2", "ucs-2", "unicode", "unicodefeff", "utf-16", "utf-16le"]

def utf16beLabels : List String := ["unicodefffe", "utf-16be"]

def windows1252Labels : List String :=
  ["ansi_x3.4-1968", "ascii", "cp1252", "cp819", "csisolatin1", "ibm819", "iso-8859-1",
   "iso-ir-100", "iso8859-1", "iso88591", "iso_8859-1", "iso_8859-1:1987", "l1", "latin1",
   "us-ascii", "windows-1252", "x-cp1252"]

def lowerAscii (c : Char) : Char := if 'A' ≤ c ∧ c ≤ 'Z' then Char.ofNat (c.toNat + 32) else c

def ofLabel (label : List Char) : Charset :=
  let name := String.ofList ((Text.trim label).map lowerAscii)
  if utf8Labels.contains name then utf8
  else if utf16leLabels.contains name then utf16le
  else if utf16beLabels.contains name then utf16be
  else if windows1252Labels.contains name then windows1252
  else further name

def parameters : List Char → List (List Char)
  | [] => [[]]
  | c :: r =>
    if c = ';' then [] :: parameters r
    else match parameters r with
      | p :: ps => (c :: p) :: ps
      | [] => [[c]]

def unquoted (s : List Char) : List Char :=
  match s with
  | '"' :: r => r.takeWhile (· != '"')
  | s => s

def charsetValue? (parameter : List Char) : Option (List Char) :=
  let name := (parameter.takeWhile (· != '=')).map lowerAscii
  let value := (parameter.dropWhile (· != '=')).drop 1
  if Text.trim name = "charset".toList ∧ value ≠ [] then some (unquoted (Text.trim value)) else none

def ofContentType (contentType : String) : Charset :=
  match parameters contentType.toList with
  | media :: ps => if media.contains '/' then ((ps.findSome? charsetValue?).map ofLabel).getD utf8
    else utf8
  | [] => utf8

/-- The characters of the bytes from `0x80` to `0x9F`. -/
def windows1252High : List Nat :=
  [0x20AC, 0x81, 0x201A, 0x192, 0x201E, 0x2026, 0x2020, 0x2021, 0x2C6, 0x2030, 0x160, 0x2039,
   0x152, 0x8D, 0x17D, 0x8F, 0x90, 0x2018, 0x2019, 0x201C, 0x201D, 0x2022, 0x2013, 0x2014,
   0x2DC, 0x2122, 0x161, 0x203A, 0x153, 0x9D, 0x17E, 0x178]

def windows1252Char (b : UInt8) : Char :=
  let n := b.toNat
  Char.ofNat (if 0x80 ≤ n ∧ n < 0xA0 then windows1252High.getD (n - 0x80) n else n)

/-- Pairs of bytes as numbers; a single byte at the end is none. -/
def units16 (bigEndian : Bool) : Bytes → List (Option Nat)
  | [] => []
  | [_] => [none]
  | a :: b :: r =>
    (if bigEndian then some (a.toNat * 256 + b.toNat) else some (b.toNat * 256 + a.toNat)) ::
      units16 bigEndian r

/-- Characters of sixteen-bit units; `lead` waits for its other half. -/
def readUnits : Option Nat → List (Option Nat) → List Char
  | none, [] => []
  | some _, [] => [Text.replacement]
  | none, none :: r => Text.replacement :: readUnits none r
  | some _, none :: r => Text.replacement :: readUnits none r
  | none, some n :: r =>
    if 0xD800 ≤ n ∧ n ≤ 0xDBFF then readUnits (some n) r
    else if 0xDC00 ≤ n ∧ n ≤ 0xDFFF then Text.replacement :: readUnits none r
    else Char.ofNat n :: readUnits none r
  | some lead, some n :: r =>
    if 0xDC00 ≤ n ∧ n ≤ 0xDFFF then
      Char.ofNat ((lead - 0xD800) * 0x400 + (n - 0xDC00) + 0x10000) :: readUnits none r
    else if 0xD800 ≤ n ∧ n ≤ 0xDBFF then Text.replacement :: readUnits (some n) r
    else Text.replacement :: Char.ofNat n :: readUnits none r

/-- A label that nobody knows counts as UTF-8. -/
def read (lib : Libraries) : Charset → Bytes → List Char
  | utf8, bytes => Text.readUtf8 bytes
  | utf16le, bytes => readUnits none (units16 false bytes)
  | utf16be, bytes => readUnits none (units16 true bytes)
  | windows1252, bytes => bytes.map windows1252Char
  | further label, bytes => ((lib.reader? label).getD Text.readUtf8) bytes

/-- Reads bytes whose byte order mark, if there is one, tells more than the label. -/
def readMarked (lib : Libraries) (charset : Charset) : Bytes → List Char
  | 0xEF :: 0xBB :: 0xBF :: r => read lib utf8 r
  | 0xFF :: 0xFE :: r => read lib utf16le r
  | 0xFE :: 0xFF :: r => read lib utf16be r
  | bytes => read lib charset bytes

end Charset

def bodyText (lib : Libraries) (contentType : Option String) (body : Bytes) : String :=
  let charset := (contentType.map Charset.ofContentType).getD .utf8
  String.ofList (charset.readMarked lib body)

end SimilarityClient
