import SimilarityClient.Form.Slot
import SimilarityClient.Text.Utf8

/-! # Multipart bodies

Files travel as the parts of one form, divided by a boundary. In a file name a
backslash stands before each backslash, quotation mark and line break.
-/

namespace SimilarityClient.Multipart

open Text (Bytes utf8)

structure Part where
  field : String
  fileName : String
  content : Bytes
  deriving DecidableEq, Repr

def needsEscape (c : Char) : Bool := c == '\\' || c == '"' || c == '\r' || c == '\n'

def escaped (c : Char) : List Char := if needsEscape c then ['\\', c] else [c]

def header (p : Part) : List Char :=
  "Content-Disposition: form-data; name=\"".toList ++ p.field.toList ++
    "\"; filename=\"".toList ++ p.fileName.toList.flatMap escaped ++ "\"\r\n\r\n".toList

def lineEnd : Bytes := utf8 ['\r', '\n']
def dashes : Bytes := utf8 ['-', '-']

def part (boundary : Bytes) (p : Part) : Bytes :=
  dashes ++ boundary ++ lineEnd ++ utf8 (header p) ++ p.content ++ lineEnd

/-- A form without parts has an empty body. -/
def body (boundary : Bytes) (parts : List Part) : Bytes :=
  if parts = [] then []
  else parts.flatMap (part boundary) ++ dashes ++ boundary ++ dashes ++ lineEnd

def contentType (boundary : String) : String := "multipart/form-data; boundary=" ++ boundary

end SimilarityClient.Multipart
