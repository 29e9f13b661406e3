import SimilarityClient.Form.Controller
import SimilarityClient.Html.Markup

/-! # The page

The parts of the page: its head and foot, the form with its file inputs, and
the panel with the results.
-/

namespace SimilarityClient.Page

open Markup (element block plain text)

def hero : Markup :=
  block "hero" <|
    plain "h1" (text "Plagium Detector") ++
    element "p" [.value "class" "subtitle"]
      (text "Upload two or more Python files to compare their syntax trees. " ++
        text "Each pair gets a similarity score between 0 and 100%.")

def footer : Markup :=
  plain "footer" <| plain "div" <|
    text "Plagium Detector • Powered by " ++
    element "span" [.value "class" "rust-badge"] (text "🦀 Rust + Leptos")

def slot (s : Slot) : Markup :=
  let input := s.input
  block "file-input mb-3" <|
    element "label" [.value "for" input.id, .value "class" "form-label small"]
      (text input.label) ++
    [.void "input" [.value "type" "file", .value "class" "form-control file-inputs",
      .value "id" input.id, .value "name" input.name, .value "accept" input.accept,
      .flag "required" input.required]]

def smallButton (label : String) (disabled : Bool) : Markup :=
  element "button" [.value "type" "button", .value "class" "btn btn-outline-secondary btn-sm",
    .flag "disabled" disabled] (text label)

def form (f : Form) : Markup :=
  element "form" [.value "id" "plagiarism-form"] <|
    f.slots.slots.flatMap slot ++
    block "form-actions mb-3" (smallButton "Add file" false ++
      smallButton "Remove file" (f.slotCount ≤ SlotList.minimum)) ++
    element "button" [.value "type" "submit", .value "class" "btn btn-primary"] (text "Compare")

def title : Markup :=
  block "row" <| block "col-12" <| plain "h5" (text "Report results")

def placeholder (line : String) : Markup :=
  block "report" <| block "row" <| block "col-md-12" <| plain "p" (text line)

def failure (message : String) : Markup :=
  element "div" [.value "class" "alert alert-danger", .value "role" "alert"] <|
    plain "strong" (text "Comparison failed: ") ++ text message

def progressBar (e : Entry) : Markup :=
  element "div" [.value "class" "progress-bar", .value "role" "progressbar",
    .value "style" e.barStyle, .value "aria-valuenow" (String.ofList e.barValue.plain),
    .value "aria-valuemin" "0", .value "aria-valuemax" "100"] (text e.percentage)

/-- One compared pair, with its number. -/
def row (position : Nat) (e : Entry) : Markup :=
  block "report" <|
    block "row" (
      element "h6" [.value "class" "mt-4"]
        (text ("Report " ++ String.ofList (Text.decimal position))) ++
      block "col-md-6" (plain "p" (text "File 1: " ++ text e.file1)) ++
      block "col-md-6" (plain "p" (text "File 2: " ++ text e.file2))) ++
    block "row" (block "col-md-12" (block "progress" (progressBar e)))

def rowsFrom (position : Nat) : List Entry → Markup
  | [] => []
  | e :: es => row position e ++ rowsFrom (position + 1) es

def panel (v : ResultsView) : Markup :=
  element "div" [.value "id" "results-container"] <|
    (if v.hasTitle then title else []) ++
    (v.placeholder?.map placeholder).getD [] ++
    (v.errorMessage?.map failure).getD [] ++
    rowsFrom 1 v.entries

end SimilarityClient.Page
