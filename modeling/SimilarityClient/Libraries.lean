import SimilarityClient.Text.Utf8

/-! # What is left to libraries

The name of a host in characters beside ASCII has a form in ASCII, and an answer
may be in a character set that few servers use. Both take tables that are not part
of the program, so that it works with whatever is known of them.
-/

namespace SimilarityClient

/-- Names are in small letters as far as they are in ASCII, and so are labels. -/
structure Libraries where
  asciiName? : List Char → Option (List Char)
  reader? : String → Option (Text.Bytes → List Char)

/-- Without tables names stay as they are, and no further character set is known. -/
def Libraries.bare : Libraries := ⟨some, fun _ => none⟩

end SimilarityClient
