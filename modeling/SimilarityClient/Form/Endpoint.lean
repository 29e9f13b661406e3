import SimilarityClient.Text.Blank

/-! # The server behind the page

The page asks one server, at an address that is fixed.
-/

namespace SimilarityClient.Endpoint

def backendUrl : String := "http://localhost:4800"

def processPath : String := "/v1.1/process"

/-- Where a server at some address takes comparisons. -/
def processUrl (baseUrl : String) : String :=
  String.ofList (Text.dropEndSlashes baseUrl.toList) ++ processPath

end SimilarityClient.Endpoint
