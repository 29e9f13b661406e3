import SimilarityClient.Binary64.Text

/-! # Similarity reports

A report lists pairs of files with their similarity, a percentage. Pages and
tables show it with two places, bars with all of its digits.
-/

namespace SimilarityClient

structure Entry where
  file1 : String
  file2 : String
  similarity : Binary64
  deriving DecidableEq, Repr

structure Report where
  entries : List Entry
  deriving DecidableEq, Repr

namespace Binary64

def hundred : Binary64 := ofNat 100

/-- Rounds to hundredths by way of the nearest whole number of them. -/
def toHundredths (x : Binary64) : Binary64 := ((x.mul hundred).round).div hundred

end Binary64

namespace Entry

def percentage (e : Entry) : String :=
  String.ofList (e.similarity.toHundredths.twoPlaces ++ ['%'])

def line (e : Entry) : String :=
  e.file1 ++ " - " ++ e.file2 ++ " -> " ++ e.percentage

def barWidth (e : Entry) : String := String.ofList (e.similarity.plain ++ ['%'])

def barStyle (e : Entry) : String := "width: " ++ e.barWidth

/-- The similarity between 0 and 100 that a progress bar stands at. -/
def barValue (e : Entry) : Binary64 :=
  match e.similarity with
  | .nan => Binary64.zero
  | x => x.clamp Binary64.zero Binary64.hundred

end Entry

def Report.highest? (r : Report) : Option Binary64 :=
  match r.entries with
  | [] => none
  | e :: es => some (es.foldl (fun x e => x.max e.similarity) e.similarity)

end SimilarityClient
