import SimilarityClient.Html.Page
import SimilarityClient.Proofs.Client.Parts
import SimilarityClient.Proofs.Form.Slots
import SimilarityClient.Proofs.Html.Elements

/-! # The fields of the form

The form of every run is read as one file input for each slot, behind a label
of its own. A request of the program with as many files has parts of the same
names, in the same order.
-/

namespace SimilarityClient

namespace Markup

def value? (name : String) (attributes : List Attribute) : Option String :=
  attributes.findSome? fun
    | .value name' value => if name' = name then some value else none
    | .flag _ _ => none

/-- Whether an attribute is there, with a value or without. -/
def isSet (name : String) (attributes : List Attribute) : Bool :=
  attributes.any fun
    | .value name' _ => name' == name
    | .flag name' present => present && name' == name

/-- What is found along a page, by a look at each node and at those before it, the nearest first. -/
def collect {α : Type} (look : List Node → Node → Option α) (before : List Node) :
    List Node → List α
  | [] => []
  | n :: r => (look before n).toList ++ collect look (n :: before) r

structure Label where
  target? : Option String
  text : String
  deriving DecidableEq, Repr

/-- The label that ends where a page has been read to. -/
def labelBefore? : List Node → Option Label
  | .stop "label" :: .text text :: .start "label" attributes :: _ =>
    some ⟨value? "for" attributes, text⟩
  | _ => none

structure FileInput where
  label? : Option Label
  id? : Option String
  name? : Option String
  accept? : Option String
  required : Bool
  deriving DecidableEq, Repr

def fileInput? (before : List Node) : Node → Option FileInput
  | .start "input" attributes =>
    if value? "type" attributes = some "file" then
      some ⟨labelBefore? before, value? "id" attributes, value? "name" attributes,
        value? "accept" attributes, isSet "required" attributes⟩
    else none
  | _ => none

/-- The file inputs of a page, each with the label right before it. -/
def fileInputs (page : String) : List FileInput := collect fileInput? [] (nodes page)

structure Button where
  text : String
  disabled : Bool
  deriving DecidableEq, Repr

def button? (before : List Node) : Node → Option Button
  | .text text =>
    match before with
    | .start "button" attributes :: _ => some ⟨text, isSet "disabled" attributes⟩
    | _ => none
  | _ => none

def buttons (page : String) : List Button := collect button? [] (nodes page)

section

variable {α β : Type} {look : List Node → Node → Option α}

theorem collect_append (before a b : List Node) : collect look before (a ++ b) =
    collect look before a ++ collect look (a.reverse ++ before) b := by
  induction a generalizing before with
  | nil => rfl
  | cons n a ih => simp [collect, ih]

theorem collect_flatMap {group : β → List Node} {found : β → List α}
    (h : ∀ x before, collect look before (group x) = found x) (xs : List β) (before : List Node) :
    collect look before (xs.flatMap group) = xs.flatMap found := by
  induction xs generalizing before with
  | nil => rfl
  | cons x xs ih => rw [List.flatMap_cons, collect_append, h, ih, List.flatMap_cons]

end

end Markup

namespace Page

open Markup (write nodes nodesOf collect Node FileInput Button fileInput? fileInputs button?
  buttons)
open Text (decimal)

def slotNodes (s : Slot) : List Node :=
  let input := s.input
  [.start "div" [.value "class" "file-input mb-3"],
    .start "label" [.value "for" input.id, .value "class" "form-label small"],
    .text input.label, .stop "label",
    .start "input" [.value "type" "file", .value "class" "form-control file-inputs",
      .value "id" input.id, .value "name" input.name, .value "accept" input.accept,
      .flag "required" input.required],
    .stop "div"]

def slotInput (s : Slot) : FileInput :=
  let input := s.input
  ⟨some ⟨some input.id, input.label⟩, some input.id, some input.name, some input.accept,
    input.required⟩

/-- What stands behind the slots, where `fewest` tells whether none of them can be removed. -/
def formFoot (fewest : Bool) : Markup :=
  Markup.block "form-actions mb-3" (smallButton "Add file" false ++
    smallButton "Remove file" fewest) ++
  Markup.element "button" [.value "type" "submit", .value "class" "btn btn-primary"]
    (Markup.text "Compare") ++
  [.closing "form"]

variable (f : Form) (s : Slot) (m : Markup) (before : List Node) (fewest : Bool)

theorem form_eq : form f = .opening "form" [.value "id" "plagiarism-form"] ::
    (f.slots.slots.flatMap slot ++ formFoot (f.slotCount ≤ SlotList.minimum)) := by
  simp [form, formFoot, Markup.element]

theorem isNamed_slot : (slot s).all Piece.isNamed = true := by rfl

theorem isNamed_foot : (formFoot fewest).all Piece.isNamed = true := by rfl

theorem isNamed_form : (form f).all Piece.isNamed = true := by
  have hs : (f.slots.slots.flatMap slot).all Piece.isNamed = true := by
    rw [List.all_flatMap, List.all_eq_true]
    exact fun s _ => isNamed_slot s
  rw [form_eq, List.all_cons, List.all_append, hs, isNamed_foot]
  rfl

theorem label_ne : s.label ≠ "" := by
  rw [ne_eq, Slot.label, String.append_eq_empty_iff]
  exact fun h => absurd h.1 (by decide)

theorem nodesOf_slot : nodesOf [] (slot s ++ m) = slotNodes s ++ nodesOf [] m := by
  have ht := Markup.textNodes_toList (label_ne s)
  have hn : nodesOf [] (slot s ++ m) =
      (slotNodes s).take 2 ++ (Markup.textNodes s.label.toList ++
        ((slotNodes s).drop 3 ++ nodesOf [] m)) := rfl
  rw [hn, ht]
  rfl

theorem nodesOf_slots (slots : List Slot) :
    nodesOf [] (slots.flatMap slot ++ m) = slots.flatMap slotNodes ++ nodesOf [] m := by
  induction slots with
  | nil => rfl
  | cons s slots ih =>
    rw [List.flatMap_cons, List.append_assoc, nodesOf_slot, ih, List.flatMap_cons,
      List.append_assoc]

theorem nodes_form : nodes (write (form f)) =
    .start "form" [.value "id" "plagiarism-form"] ::
      (f.slots.slots.flatMap slotNodes ++
        nodesOf [] (formFoot (f.slotCount ≤ SlotList.minimum))) := by
  rw [Markup.nodes_write (isNamed_form f), form_eq, Markup.nodesOf_tag rfl, nodesOf_slots]
  rfl

theorem collect_fileInput_slot : collect fileInput? before (slotNodes s) = [slotInput s] := by rfl

theorem collect_fileInput_foot :
    collect fileInput? before (nodesOf [] (formFoot fewest)) = [] := by
  cases fewest <;> rfl

theorem collect_button_slot : collect button? before (slotNodes s) = [] := by rfl

theorem collect_button_foot : collect button? before (nodesOf [] (formFoot fewest)) =
    [⟨"Add file", false⟩, ⟨"Remove file", fewest⟩, ⟨"Compare", false⟩] := by
  cases fewest <;> rfl

theorem fileInputs_form : fileInputs (write (form f)) = f.slots.slots.map slotInput := by
  rw [fileInputs, nodes_form, collect, Markup.collect_append,
    Markup.collect_flatMap collect_fileInput_slot, collect_fileInput_foot, List.append_nil,
    ← List.map_eq_flatMap]
  rfl

theorem buttons_form : buttons (write (form f)) =
    [⟨"Add file", false⟩, ⟨"Remove file", f.slotCount ≤ SlotList.minimum⟩,
      ⟨"Compare", false⟩] := by
  rw [buttons, nodes_form, collect, Markup.collect_append,
    Markup.collect_flatMap collect_button_slot, collect_button_foot]
  simp [button?]

/-- The form of every run has one required file input for each slot, numbered from one, behind a
label of its own with the same number. Their names are distinct, and are the names of the parts
in a request with as many files. A slot can be removed unless there are two. -/
theorem form_fields_of_run (es : List Form.Event) :
    let f := Form.initial.run es
    let page := write (form f)
    (fileInputs page = (List.range' 1 f.slotCount).map fun k =>
      ⟨some ⟨some (fieldName k), "File " ++ String.ofList (decimal k)⟩, some (fieldName k),
        some (fieldName k), some ".py", true⟩) ∧
    ((fileInputs page).map FileInput.name?).Nodup ∧
    buttons page = [⟨"Add file", false⟩, ⟨"Remove file", f.slotCount = 2⟩, ⟨"Compare", false⟩] ∧
    ∀ tree files parts, Client.readParts tree 0 files = .ok parts → files.length = f.slotCount →
      (fileInputs page).map FileInput.name? = parts.map fun p => some p.field := by
  intro f page
  have hn : f.slots.Numbered := Form.numbered_run SlotList.numbered_initial es
  have hi : fileInputs page = (List.range' 1 f.slotCount).map (slotInput ∘ Slot.mk) := by
    rw [fileInputs_form, hn.slots, List.map_map]
    rfl
  have hm : (fileInputs page).map FileInput.name? =
      ((List.range' 1 f.slotCount).map fieldName).map some := by
    rw [hi, List.map_map, List.map_map]
    rfl
  refine ⟨hi, ?_, ?_, fun tree files parts hr hl => ?_⟩
  · rw [hm]
    exact ((List.nodup_range' 1 Nat.one_pos).map fieldName_injective).map (Option.some_injective _)
  · have hc : f.slotCount ≤ SlotList.minimum ↔ f.slotCount = 2 :=
      ⟨fun h => Nat.le_antisymm h hn.minimum_le, Nat.le_of_eq⟩
    rw [buttons_form, decide_eq_decide.2 hc]
  · have hf := (Client.readParts_eq_ok hr).2.fields
    rw [hm, ← hl, ← hf, List.map_map]
    rfl

/-- A removal at the least number is refused, so that there are three inputs. -/
theorem form_fields_of_run_three :
    let page := write (form (Form.initial.run [.removeSlot, .beginSubmit, .addSlot]))
    let tree : FileTree :=
      ⟨[(["a.py"], .file [13]), (["b.py"], .file []), (["c.py"], .file [10])], []⟩
    let files := ["c.py", "a.py", "b.py"].map fun name => SourceFile.ofPath ⟨name⟩
    Client.readParts tree 0 files = .ok [⟨"file-1", "c.py", [10]⟩, ⟨"file-2", "a.py", [13]⟩,
      ⟨"file-3", "b.py", []⟩] ∧
    (fileInputs page).map FileInput.name? = [some "file-1", some "file-2", some "file-3"] ∧
    (buttons page).map Button.disabled = [false, false, false] := by
  intro page tree files
  have hr : Client.readParts tree 0 files = .ok [⟨"file-1", "c.py", [10]⟩,
      ⟨"file-2", "a.py", [13]⟩, ⟨"file-3", "b.py", []⟩] := by decide +kernel
  obtain ⟨-, -, hb, hp⟩ := form_fields_of_run [.removeSlot, .beginSubmit, .addSlot]
  exact ⟨hr, hp tree files _ hr (by decide), congrArg (List.map Button.disabled) hb⟩

end Page

end SimilarityClient
