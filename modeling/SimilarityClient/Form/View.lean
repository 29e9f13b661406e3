import SimilarityClient.Report.Decode

/-! # Results

What the results container of the page shows, and how a finished submission
determines it.
-/

namespace SimilarityClient

inductive SubmitError
  | form (text : String)
  | network (text : String)
  | server (status : Nat) (body : String)
  | invalidResponse (text : String)
  deriving DecidableEq, Repr

def SubmitError.message : SubmitError → String
  | form text => "Form error: " ++ text
  | network text => "Network error: " ++ text
  | server status body =>
    "Server error (" ++ String.ofList (Text.decimal status) ++ "): " ++ body
  | invalidResponse text => "Invalid response: " ++ text

abbrev SubmitResult := Except SubmitError Report

/-- What the text of an answer amounts to. -/
def SubmitResult.ofBody (body : String) : SubmitResult :=
  match Report.decode body with
  | .ok report => .ok report
  | .error e => .error (.invalidResponse e.message)

inductive ResultsView
  | idle
  | pending
  | empty
  | rows (entries : List Entry)
  | failed (message : String)
  deriving DecidableEq, Repr

namespace ResultsView

def ofResult : SubmitResult → ResultsView
  | .ok ⟨[]⟩ => empty
  | .ok ⟨entries⟩ => rows entries
  | .error e => failed e.message

def entries : ResultsView → List Entry
  | rows entries => entries
  | _ => []

def hasTitle : ResultsView → Bool
  | empty | rows _ => true
  | _ => false

/-- The line that is shown in place of rows. -/
def placeholder? : ResultsView → Option String
  | pending => some "Processing..."
  | empty => some "No results"
  | _ => none

def errorMessage? : ResultsView → Option String
  | failed message => some message
  | _ => none

end ResultsView

end SimilarityClient
