import SimilarityClient.Report.Basic

/-! # Comma separated records

A field is quoted if it holds a comma, a quotation mark or a line break; a mark
inside is written twice. Every record ends in a line feed.
-/

namespace SimilarityClient.Csv

def needsQuotes (c : Char) : Bool := c == ',' || c == '"' || c == '\r' || c == '\n'

def doubled (c : Char) : List Char := if c = '"' then ['"', '"'] else [c]

def field (s : List Char) : List Char :=
  if s.any needsQuotes then '"' :: s.flatMap doubled ++ ['"'] else s

def fields : List (List Char) → List Char
  | [] => []
  | [f] => field f
  | f :: fs => field f ++ ',' :: fields fs

def record (fs : List (List Char)) : List Char := fields fs ++ ['\n']

end SimilarityClient.Csv
