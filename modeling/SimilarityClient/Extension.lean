import SimilarityClient.Path
import SimilarityClient.Text.Blank
import SimilarityClient.Text.Case

/-! # File extensions

Extensions are compared in lower case with one leading point, however they
were written down.
-/

namespace SimilarityClient.Extension

/-- An extension without outer blanks and leading points, in lower case. -/
def core (s : List Char) : List Char := Text.lower ((Text.trim s).dropWhile (· == '.'))

/-- The normal form; blank items vanish. -/
def normalize (extensions : List String) : List String :=
  ((extensions.map (core ·.toList)).filter (· ≠ [])).map fun s => String.ofList ('.' :: s)

/-- The path has one of these extensions, which are in normal form. -/
def accepts (extensions : List String) (p : Path) : Bool :=
  match p.extension? with
  | some s => extensions.contains (String.ofList ('.' :: Text.lower s))
  | none => false

def standard : String := ".py"

end SimilarityClient.Extension
