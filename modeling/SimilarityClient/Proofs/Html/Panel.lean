import SimilarityClient.Html.Page
import SimilarityClient.Proofs.Html.Reader

/-! # The results panel

The page of every view is read as the texts that the view stands for. Names and
messages add no tags to it and no marks, whatever characters they are made of.
-/

namespace SimilarityClient

open Text (decimal)

namespace Entry

def shownAt (position : Nat) (e : Entry) : List String :=
  ["Report " ++ String.ofList (decimal position), "File 1: " ++ e.file1, "File 2: " ++ e.file2,
    e.percentage]

def nameless (e : Entry) : Entry := { e with file1 := "", file2 := "" }

/-- The entry of a row in which nothing is shown but its form. -/
def blank : Entry := ⟨"", "", Binary64.zero⟩

end Entry

theorem Entry.percentage_ne (e : Entry) : e.percentage ≠ "" := by
  rw [percentage, ne_eq, ← String.toList_eq_nil_iff, String.toList_ofList]
  simp

namespace ResultsView

/-- The texts that a view stands for. -/
def shown : ResultsView → List String
  | idle => []
  | pending => ["Processing..."]
  | empty => ["Report results", "No results"]
  | rows entries =>
    "Report results" :: (entries.zipIdx 1).flatMap fun (e, position) => e.shownAt position
  | failed message => "Comparison failed: " :: if message = "" then [] else [message]

/-- The view without its names and messages. -/
def nameless : ResultsView → ResultsView
  | rows entries => rows (entries.map Entry.nameless)
  | failed _ => failed ""
  | v => v

/-- A view of the same kind, with the same number of rows. -/
def blank : ResultsView → ResultsView
  | rows entries => rows (List.replicate entries.length Entry.blank)
  | failed _ => failed ""
  | v => v

end ResultsView

namespace Page

open Markup (write marks tags texts textsOf)

def isProgressBar (inside : List Char) : Bool :=
  "div class=\"progress-bar\" role=\"progressbar\"".toList.isPrefixOf inside

variable (e : Entry) (es : List Entry) (k : Nat) (v : ResultsView)

theorem isPlain_row : (row k e).all Piece.isPlain = true := by rfl

theorem blank_row (k' : Nat) (e' : Entry) :
    (row k e).map Piece.blank = (row k' e').map Piece.blank := by rfl

theorem inside_nameless : (row k e.nameless).filterMap Piece.inside? =
    (row k e).filterMap Piece.inside? := by rfl

theorem countP_row : ((row k e).filterMap Piece.inside?).countP isProgressBar = 1 := by rfl

theorem textsOf_row (m : Markup) : textsOf [] (row k e ++ m) = e.shownAt k ++ textsOf [] m := by
  simp only [row, progressBar, Markup.block, Markup.element, Markup.plain, Markup.text,
    List.cons_append, List.nil_append, Markup.textsOf_opening, Markup.textsOf_closing,
    Markup.textsOf_text, Markup.shownText_nil, ← String.toList_append, Markup.shownText_toList]
  simp [Entry.shownAt, e.percentage_ne]

theorem isPlain_rowsFrom : (rowsFrom k es).all Piece.isPlain = true := by
  induction es generalizing k with
  | nil => rfl
  | cons e es ih => rw [rowsFrom, List.all_append, isPlain_row, ih, Bool.and_self]

theorem blank_rowsFrom (k' : Nat) : (rowsFrom k es).map Piece.blank =
    (rowsFrom k' (List.replicate es.length Entry.blank)).map Piece.blank := by
  induction es generalizing k k' with
  | nil => rfl
  | cons e es ih =>
    rw [List.length_cons, List.replicate_succ, rowsFrom, rowsFrom, List.map_append,
      List.map_append, blank_row e k k' Entry.blank, ih (k + 1) (k' + 1)]

theorem inside_rowsFrom : (rowsFrom k (es.map Entry.nameless)).filterMap Piece.inside? =
    (rowsFrom k es).filterMap Piece.inside? := by
  induction es generalizing k with
  | nil => rfl
  | cons e es ih =>
    rw [List.map_cons, rowsFrom, rowsFrom, List.filterMap_append, List.filterMap_append,
      inside_nameless, ih]

theorem countP_rowsFrom :
    ((rowsFrom k es).filterMap Piece.inside?).countP isProgressBar = es.length := by
  induction es generalizing k with
  | nil => rfl
  | cons e es ih =>
    rw [rowsFrom, List.filterMap_append, List.countP_append, countP_row, ih, List.length_cons,
      Nat.add_comm]

theorem textsOf_rowsFrom (m : Markup) : textsOf [] (rowsFrom k es ++ m) =
    ((es.zipIdx k).flatMap fun (e, position) => e.shownAt position) ++ textsOf [] m := by
  induction es generalizing k with
  | nil => rfl
  | cons e es ih =>
    rw [rowsFrom, List.append_assoc, textsOf_row, ih, List.zipIdx_cons, List.flatMap_cons,
      List.append_assoc]

def reportHead : Markup := .opening "div" [.value "id" "results-container"] :: title

theorem panel_rows :
    panel (.rows es) = reportHead ++ (rowsFrom 1 es ++ [.closing "div"]) := by rfl

theorem textsOf_reportHead (m : Markup) :
    textsOf [] (reportHead ++ m) = "Report results" :: textsOf [] m := by rfl

def failureHead : Markup :=
  [.opening "div" [.value "id" "results-container"],
    .opening "div" [.value "class" "alert alert-danger", .value "role" "alert"],
    .opening "strong" [], .text "Comparison failed: ", .closing "strong"]

theorem panel_failed (message : String) : panel (.failed message) =
    failureHead ++ [.text message, .closing "div", .closing "div"] := by rfl

theorem textsOf_failureHead (m : Markup) :
    textsOf [] (failureHead ++ m) = "Comparison failed: " :: textsOf [] m := by rfl

theorem isPlain_panel : (panel v).all Piece.isPlain = true := by
  cases v with
  | idle => rfl
  | pending => rfl
  | empty => rfl
  | failed message => rfl
  | rows entries =>
    rw [panel_rows, List.all_append, List.all_append, isPlain_rowsFrom]
    rfl

theorem marks_panel : marks (write (panel v)) = marks (write (panel v.blank)) := by
  have hb : (panel v).map Piece.blank = (panel v.blank).map Piece.blank := by
    cases v with
    | idle => rfl
    | pending => rfl
    | empty => rfl
    | failed message => rfl
    | rows entries =>
      rw [ResultsView.blank, panel_rows, panel_rows, List.map_append, List.map_append,
        blank_rowsFrom entries 1 1, ← List.map_append, ← List.map_append]
  rw [Markup.marks_write, hb, ← Markup.marks_write]

theorem tags_panel : tags (write (panel v)) = tags (write (panel v.nameless)) := by
  rw [Markup.tags_write (isPlain_panel v), Markup.tags_write (isPlain_panel v.nameless)]
  cases v with
  | idle => rfl
  | pending => rfl
  | empty => rfl
  | failed message => rfl
  | rows entries =>
    rw [ResultsView.nameless, panel_rows, panel_rows, List.filterMap_append,
      List.filterMap_append, List.filterMap_append, List.filterMap_append, inside_rowsFrom]

theorem countP_panel : (tags (write (panel v))).countP isProgressBar = v.entries.length := by
  rw [Markup.tags_write (isPlain_panel v)]
  cases v with
  | idle => rfl
  | pending => rfl
  | empty => rfl
  | failed message => rfl
  | rows entries =>
    have hh : (reportHead.filterMap Piece.inside?).countP isProgressBar = 0 := by rfl
    rw [panel_rows, List.filterMap_append, List.filterMap_append, List.countP_append,
      List.countP_append, countP_rowsFrom, hh, Nat.zero_add]
    rfl

theorem texts_panel : texts (write (panel v)) = v.shown := by
  rw [Markup.texts_write (isPlain_panel v)]
  cases v with
  | idle => rfl
  | pending => rfl
  | empty => rfl
  | failed message =>
    rw [panel_failed, textsOf_failureHead, Markup.textsOf_text, Markup.textsOf_closing,
      List.nil_append, Markup.shownText_toList, Markup.textsOf_closing, Markup.textsOf_nil,
      Markup.shownText_nil, List.append_nil, List.append_nil]
    rfl
  | rows entries =>
    rw [panel_rows, textsOf_reportHead, textsOf_rowsFrom, Markup.textsOf_closing,
      Markup.textsOf_nil, Markup.shownText_nil, List.append_nil, List.append_nil]
    rfl

/-- The marks of the panel are those of a view of the same kind with as many rows, and its tags are
those of the view without its names and messages: no character of them opens or closes a tag or
a value. Its texts are what the view stands for, with one progress bar for every row. -/
theorem panel_shows_view (v : ResultsView) :
    marks (write (panel v)) = marks (write (panel v.blank)) ∧
    tags (write (panel v)) = tags (write (panel v.nameless)) ∧
    texts (write (panel v)) = v.shown ∧
    (tags (write (panel v))).countP isProgressBar = v.entries.length :=
  ⟨marks_panel v, tags_panel v, texts_panel v, countP_panel v⟩

end Page

end SimilarityClient
