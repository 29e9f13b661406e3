import Mathlib.Data.List.Basic
import SimilarityClient.Client
import SimilarityClient.Proofs.Fallible
import SimilarityClient.Proofs.Html.Panel
import SimilarityClient.Report.Render

/-! # Answers on the terminal and on the page

An answer is shown alike by the program and by the page: the same message if it
is refused, the same line if there are no pairs, and otherwise the same pairs
with the same percentages, in the same order.
-/

namespace SimilarityClient

open Markup (write texts)

variable {body : String} {fault : Json.Located} {r : Report}

def Entry.tableLine (e : Entry) : String :=
  "  " ++ e.file1 ++ " - " ++ e.file2 ++ " -> " ++ e.percentage ++ "\n"

theorem Report.table_of_nil (h : r.entries = []) : r.render .table = "No results\n" := by
  rw [render, table, if_pos h]
  exact String.ofList_toList

theorem Report.table_of_ne_nil (h : r.entries ≠ []) :
    r.render .table = "Report:\n" ++ String.join (r.entries.map Entry.tableLine) := by
  have hl : ∀ e : Entry, "  ".toList ++ e.line.toList ++ ['\n'] = e.tableLine.toList := by
    intro e
    simp [Entry.line, Entry.tableLine]
  rw [render, table, if_neg h, ← String.toList_inj, String.toList_ofList, String.toList_append,
    String.toList_join, List.flatMap_map]
  simp only [hl]

theorem ClientError.invalidResponse_message_ne (fault : Json.Located) :
    (ClientError.invalidResponse fault).message ≠ "" := by
  change "Invalid response: " ++ fault.message ≠ ""
  rw [ne_eq, String.append_eq_empty_iff]
  exact fun h => absurd h.1 (by decide)

namespace ResultsView

def ofAnswer (status : Nat) (body : String) : ResultsView :=
  ofResult (if 200 ≤ status ∧ status < 300 then .ofBody body else .error (.server status body))

theorem ofBody_of_error (h : Report.decode body = .error fault) :
    ofResult (.ofBody body) = failed (ClientError.invalidResponse fault).message := by
  rw [SubmitResult.ofBody, h]
  rfl

theorem ofBody_of_nil (h : Report.decode body = .ok r) (hn : r.entries = []) :
    ofResult (.ofBody body) = empty := by
  obtain ⟨entries⟩ := r
  cases hn
  rw [SubmitResult.ofBody, h]
  rfl

theorem ofBody_of_ne_nil (h : Report.decode body = .ok r) (hn : r.entries ≠ []) :
    ofResult (.ofBody body) = rows r.entries := by
  obtain ⟨entries⟩ := r
  obtain ⟨e, es, rfl⟩ := List.exists_cons_of_ne_nil hn
  rw [SubmitResult.ofBody, h]
  rfl

theorem ofAnswer_eq (a : Answer) (lib : Libraries) : ofAnswer a.status (a.text lib) =
    match a.report lib with
    | .ok report => ofResult (.ok report)
    | .error e => failed e.message := by
  by_cases hs : a.isSuccess = true
  · have hr : 200 ≤ a.status ∧ a.status < 300 := by simpa [Answer.isSuccess] using hs
    rw [ofAnswer, if_pos hr, Answer.report, hs]
    cases hd : Report.decode (a.text lib) with
    | ok report => rw [SubmitResult.ofBody, hd]; rfl
    | error fault => rw [ofBody_of_error hd]; rfl
  · have hr : ¬(200 ≤ a.status ∧ a.status < 300) := by simpa [Answer.isSuccess] using hs
    rw [Bool.not_eq_true] at hs
    rw [ofAnswer, if_neg hr, Answer.report, hs]
    rfl

end ResultsView

/-- An answer with some text is shown alike on the terminal and on the page, in its error, its
placeholder or its rows. -/
theorem answers_shown_alike (body : String) :
    let view := ResultsView.ofResult (.ofBody body)
    let page := texts (write (Page.panel view))
    (∀ fault, Report.decode body = .error fault →
      view.errorMessage? = some (ClientError.invalidResponse fault).message ∧
      view.entries = [] ∧ view.hasTitle = false ∧ view.placeholder? = none ∧
      page = ["Comparison failed: ", (ClientError.invalidResponse fault).message]) ∧
    (∀ r, Report.decode body = .ok r → r.entries = [] →
      r.render .table = "No results\n" ∧ view = .empty ∧ view.placeholder? = some "No results" ∧
      page = ["Report results", "No results"]) ∧
    (∀ r, Report.decode body = .ok r → r.entries ≠ [] →
      (r.render .table = "Report:\n" ++ String.join (view.entries.map fun e =>
        "  " ++ e.file1 ++ " - " ++ e.file2 ++ " -> " ++ e.percentage ++ "\n")) ∧
      page = "Report results" :: (view.entries.zipIdx 1).flatMap fun (e, k) => e.shownAt k) ∧
    (∀ (a : Answer) (lib : Libraries), a.text lib = body →
      (ResultsView.ofAnswer a.status body).errorMessage? =
        (a.report lib).error?.map ClientError.message) ∧
    ∀ status, (ClientError.server status body).message = (SubmitError.server status body).message := by
  intro view page
  have hp : page = view.shown := Page.texts_panel view
  refine ⟨fun fault h => ?_, fun r h hn => ?_, fun r h hn => ?_, fun a lib ha => ?_, fun _ => rfl⟩
  · have hv : view = .failed (ClientError.invalidResponse fault).message :=
      ResultsView.ofBody_of_error h
    rw [hp, hv, ResultsView.shown, if_neg (ClientError.invalidResponse_message_ne fault)]
    exact ⟨rfl, rfl, rfl, rfl, rfl⟩
  · have hv : view = .empty := ResultsView.ofBody_of_nil h hn
    rw [hp, hv]
    exact ⟨Report.table_of_nil hn, rfl, rfl, rfl⟩
  · have hv : view = .rows r.entries := ResultsView.ofBody_of_ne_nil h hn
    rw [hp, hv]
    exact ⟨Report.table_of_ne_nil hn, rfl⟩
  · rw [← ha, ResultsView.ofAnswer_eq]
    cases a.report lib with
    | error e => rfl
    | ok r =>
      obtain ⟨entries⟩ := r
      cases entries <;> rfl

theorem answers_shown_alike_bodies :
    (Report.decode "[[]" = .error ⟨.endInList, ⟨1, 3⟩⟩ ∧
      texts (write (Page.panel (.ofResult (.ofBody "[[]")))) =
        ["Comparison failed: ", "Invalid response: EOF while parsing a list at line 1 column 3"]) ∧
    (Report.decode "[[]]" = .ok ⟨[]⟩ ∧
      texts (write (Page.panel (.ofResult (.ofBody "[[]]")))) = ["Report results", "No results"]) ∧
    Report.decode "[[[\"<a>\",\"b\",12.125]]]" =
      .ok ⟨[⟨"<a>", "b", .ofBits 0x4028400000000000⟩]⟩ ∧
    Report.render ⟨[⟨"<a>", "b", .ofBits 0x4028400000000000⟩]⟩ .table =
      "Report:\n  <a> - b -> 12.13%\n" := by
  have h1 : Report.decode "[[]" = .error ⟨.endInList, ⟨1, 3⟩⟩ := by decide +kernel
  have h2 : Report.decode "[[]]" = .ok ⟨[]⟩ := by decide +kernel
  have h3 : Report.decode "[[[\"<a>\",\"b\",12.125]]]" =
      .ok ⟨[⟨"<a>", "b", .ofBits 0x4028400000000000⟩]⟩ := by decide +kernel
  refine ⟨⟨h1, ?_⟩, ⟨h2, ?_⟩, h3, ?_⟩
  · exact ((answers_shown_alike _).1 _ h1).2.2.2.2
  · exact ((answers_shown_alike _).2.1 _ h2 rfl).2.2.2
  · rw [((answers_shown_alike _).2.2.1 _ h3 (List.cons_ne_nil _ _)).1]
    decide +kernel

end SimilarityClient
