import SimilarityClient.Proofs.Html.Form
import SimilarityClient.Proofs.Html.Panel

/-! # The progress bars of the panel

What is looked for among the starts of elements is found in the pieces of a
page, whatever texts stand between them. So the panel of every view is read as
one progress bar for each of its entries, in their order.
-/

namespace SimilarityClient

namespace Markup

/-- The style of a progress bar, and the number that it stands at. -/
structure Bar where
  style? : Option String
  now? : Option String
  deriving DecidableEq, Repr

def bar? : Node → Option Bar
  | .start _ attributes =>
    if value? "role" attributes = some "progressbar" then
      some ⟨value? "style" attributes, value? "aria-valuenow" attributes⟩
    else none
  | _ => none

def bars (page : String) : List Bar := (nodes page).filterMap bar?

section

variable {α : Type} {look : Node → Option α} (hl : ∀ s, look (.text s) = none)

include hl

theorem filterMap_textNodes (s : List Char) : (textNodes s).filterMap look = [] := by
  unfold textNodes
  split
  · rfl
  · rw [List.filterMap_cons, hl, List.filterMap_nil]

theorem filterMap_nodesOf (held : List Char) (m : Markup) :
    (nodesOf held m).filterMap look = m.filterMap fun p => p.node?.bind look := by
  induction m generalizing held with
  | nil => exact filterMap_textNodes hl held
  | cons p m ih =>
    rw [List.filterMap_cons]
    cases hn : p.node? with
    | none =>
      cases p with
      | text s => exact ih (held ++ s.toList)
      | _ => cases hn
    | some node =>
      rw [nodesOf_tag hn, List.filterMap_append, filterMap_textNodes hl, List.filterMap_cons, ih]
      rfl

/-- What a look finds among the elements of a page, it finds in the pieces of the page. -/
theorem filterMap_nodes {m : Markup} (hm : m.all Piece.isNamed = true) :
    (nodes (write m)).filterMap look = m.filterMap fun p => p.node?.bind look := by
  rw [nodes_write hm]
  exact filterMap_nodesOf hl [] m

end

end Markup

namespace Page

open Markup (write Bar bar? bars)

def barOf (e : Entry) : Bar := ⟨some e.barStyle, some (String.ofList e.barValue.plain)⟩

variable (e : Entry) (es : List Entry) (k : Nat) (v : ResultsView)

theorem isNamed_row : (row k e).all Piece.isNamed = true := by rfl

theorem bars_row : (row k e).filterMap (fun p => p.node?.bind bar?) = [barOf e] := by rfl

theorem isNamed_rowsFrom : (rowsFrom k es).all Piece.isNamed = true := by
  induction es generalizing k with
  | nil => rfl
  | cons e es ih => rw [rowsFrom, List.all_append, isNamed_row, ih, Bool.and_self]

theorem bars_rowsFrom :
    (rowsFrom k es).filterMap (fun p => p.node?.bind bar?) = es.map barOf := by
  induction es generalizing k with
  | nil => rfl
  | cons e es ih =>
    rw [rowsFrom, List.filterMap_append, bars_row, ih, List.map_cons, List.singleton_append]

theorem isNamed_panel : (panel v).all Piece.isNamed = true := by
  cases v with
  | rows entries =>
    rw [panel_rows, List.all_append, List.all_append, isNamed_rowsFrom]
    rfl
  | _ => rfl

theorem bars_panel : bars (write (panel v)) = v.entries.map barOf := by
  have ht : ∀ s, bar? (.text s) = none := fun _ => rfl
  rw [bars, Markup.filterMap_nodes ht (isNamed_panel v)]
  cases v with
  | rows entries =>
    rw [panel_rows, List.filterMap_append, List.filterMap_append, bars_rowsFrom]
    exact List.append_nil _
  | _ => rfl

end Page

end SimilarityClient
