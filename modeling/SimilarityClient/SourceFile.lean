import SimilarityClient.Path

/-! # Source files

A file that may be submitted: its path and the name it is submitted under.
-/

namespace SimilarityClient

structure SourceFile where
  path : Path
  name : String
  deriving DecidableEq, Repr

namespace SourceFile

/-- The name is the last component, or the whole path if that is no name. -/
def ofPath (p : Path) : SourceFile := ⟨p, p.fileName?.getD p.text⟩

instance : Ord SourceFile := ⟨compareLex (compareOn path) (compareOn name)⟩

def le (a b : SourceFile) : Bool := (compare a b).isLE

/-- Two files are the same if their paths have the same components. -/
def same (a b : SourceFile) : Bool :=
  a.path.components == b.path.components && a.name == b.name

/-- Sorts; files that compare equal keep their order. -/
def sort (files : List SourceFile) : List SourceFile := files.mergeSort le

/-- The files behind one that is kept, without those that repeat the one before. -/
def dropRepeatsOf (kept : SourceFile) : List SourceFile → List SourceFile
  | [] => []
  | f :: r => if same kept f then dropRepeatsOf kept r else f :: dropRepeatsOf f r

/-- Keeps the first of neighbours that are the same. -/
def dropRepeats : List SourceFile → List SourceFile
  | [] => []
  | f :: r => f :: dropRepeatsOf f r

end SourceFile

end SimilarityClient
