import SimilarityClient.Proofs.Binary64.PlainNearest
import SimilarityClient.Report.Render

/-! # Reading comma separated records

A reader goes over the text with one step for every character. Outside of
quotation marks a comma ends a field and a line feed ends a record, inside
nothing does but a single mark. What is written is read back, whatever the
fields hold, and so is every report.
-/

namespace SimilarityClient

namespace Csv

/-- Where a reader stands: in front of a field, in a bare or in a quoted one, or
behind a mark that closes a field unless another one follows. -/
inductive Mode
  | fresh | bare | quoted | closed
  deriving DecidableEq, Repr

/-- The field and the record that are not finished yet, and the records that are. -/
structure Scan where
  mode : Mode
  text : List Char
  row : List (List Char)
  rows : List (List (List Char))
  deriving DecidableEq, Repr

namespace Scan

def start (rows : List (List (List Char))) : Scan := ⟨.fresh, [], [], rows⟩

def push (s : Scan) (mode : Mode) (c : Char) : Scan := { s with mode, text := s.text ++ [c] }

def endField (s : Scan) : Scan := ⟨.fresh, [], s.row ++ [s.text], s.rows⟩

def endRecord (s : Scan) : Scan := start (s.rows ++ [s.row ++ [s.text]])

/-- A mark has no place in a bare field, a carriage return none outside of marks,
and behind a quoted field there is nothing but its end. -/
def step (s : Scan) (c : Char) : Option Scan :=
  match s.mode with
  | .quoted => some (if c = '"' then { s with mode := .closed } else s.push .quoted c)
  | mode =>
    if c = ',' then some s.endField
    else if c = '\n' then some s.endRecord
    else if c = '"' then
      match mode with
      | .fresh => some { s with mode := .quoted }
      | .closed => some (s.push .quoted c)
      | _ => none
    else if c = '\r' ∨ mode = .closed then none
    else some (s.push .bare c)

def run (s : Scan) (text : List Char) : Option Scan := text.foldlM step s

/-- A text ends behind a record. -/
def finished? (s : Scan) : Option (List (List (List Char))) :=
  if s.mode = .fresh ∧ s.row = [] then some s.rows else none

end Scan

/-- The records of a text. -/
def read? (text : String) : Option (List (List String)) := do
  let s ← (Scan.start []).run text.toList
  let rows ← s.finished?
  return rows.map (·.map String.ofList)

namespace Scan

variable {s : Scan} {f : List Char} {fs : List (List Char)}

@[simp] theorem run_nil (s : Scan) : s.run [] = some s := rfl

theorem run_cons (s : Scan) (c : Char) (t : List Char) :
    s.run (c :: t) = (s.step c).bind (·.run t) := rfl

theorem run_append (s : Scan) (t u : List Char) : s.run (t ++ u) = (s.run t).bind (·.run u) :=
  List.foldlM_append

theorem step_comma (h : s.mode ≠ .quoted) : s.step ',' = some s.endField := by
  cases hm : s.mode <;> simp_all [step]

theorem step_lineFeed (h : s.mode ≠ .quoted) : s.step '\n' = some s.endRecord := by
  cases hm : s.mode <;> simp_all [step]

theorem step_mark_of_fresh (h : s.mode = .fresh) :
    s.step '"' = some { s with mode := .quoted } := by
  simp [step, h]

theorem step_mark_of_quoted (h : s.mode = .quoted) :
    s.step '"' = some { s with mode := .closed } := by
  simp [step, h]

theorem step_mark_of_closed (h : s.mode = .closed) : s.step '"' = some (s.push .quoted '"') := by
  simp [step, h]

theorem step_of_quoted (h : s.mode = .quoted) {c : Char} (hc : c ≠ '"') :
    s.step c = some (s.push .quoted c) := by
  simp [step, h, hc]

theorem step_of_bare (h : s.mode = .fresh ∨ s.mode = .bare) {c : Char}
    (hc : needsQuotes c = false) : s.step c = some (s.push .bare c) := by
  simp only [needsQuotes, Bool.or_eq_false_iff, beq_eq_false_iff_ne] at hc
  obtain ⟨⟨⟨hcomma, hmark⟩, hreturn⟩, hfeed⟩ := hc
  rcases h with h | h <;> simp [step, h, hcomma, hmark, hreturn, hfeed]

theorem run_bare (h : s.mode = .fresh ∨ s.mode = .bare) (hf : ∀ c ∈ f, needsQuotes c = false) :
    ∃ mode, mode ≠ .quoted ∧ s.run f = some { s with mode, text := s.text ++ f } := by
  induction f generalizing s with
  | nil =>
    refine ⟨s.mode, ?_, by simp⟩
    rcases h with h | h <;> simp [h]
  | cons c f ih =>
    obtain ⟨mode, hm, hr⟩ := ih (s := s.push .bare c) (.inr rfl)
      fun d hd => hf d (List.mem_cons_of_mem _ hd)
    refine ⟨mode, hm, ?_⟩
    rw [run_cons, step_of_bare h (hf c List.mem_cons_self), Option.bind_some, hr]
    simp [push]

theorem run_doubled (h : s.mode = .quoted) (c : Char) :
    s.run (doubled c) = some (s.push .quoted c) := by
  by_cases hc : c = '"'
  · subst hc
    rw [doubled, if_pos rfl, run_cons, step_mark_of_quoted h, Option.bind_some, run_cons,
      step_mark_of_closed rfl]
    rfl
  · rw [doubled, if_neg hc, run_cons, step_of_quoted h hc]
    rfl

theorem run_flatMap_doubled (h : s.mode = .quoted) (f : List Char) :
    s.run (f.flatMap doubled) = some { s with text := s.text ++ f } := by
  induction f generalizing s with
  | nil => simp
  | cons c f ih =>
    rw [List.flatMap_cons, run_append, run_doubled h, Option.bind_some, ih rfl]
    simp [push, h]

/-- A written field is read as it was, and what ends it is still to come. -/
theorem run_field (h : s.mode = .fresh) (ht : s.text = []) (f : List Char) :
    ∃ mode, mode ≠ .quoted ∧ s.run (field f) = some { s with mode, text := f } := by
  cases hq : f.any needsQuotes with
  | false =>
    rw [field, hq]
    have hb : ∀ c ∈ f, needsQuotes c = false := by simpa using List.any_eq_false.1 hq
    obtain ⟨mode, hm, hr⟩ := run_bare (.inl h) hb
    exact ⟨mode, hm, by simpa [ht] using hr⟩
  | true =>
    refine ⟨.closed, by simp, ?_⟩
    rw [field, hq, if_pos rfl, List.cons_append, run_cons, step_mark_of_fresh h, Option.bind_some,
      run_append, run_flatMap_doubled rfl, Option.bind_some, run_cons, step_mark_of_quoted rfl]
    simp [ht]

theorem run_fields (h : s.mode = .fresh) (ht : s.text = []) (hf : fs ≠ []) :
    s.run (fields fs ++ ['\n']) = some (start (s.rows ++ [s.row ++ fs])) := by
  induction fs generalizing s with
  | nil => exact absurd rfl hf
  | cons f fs ih =>
    obtain ⟨mode, hm, hr⟩ := run_field h ht f
    cases fs with
    | nil =>
      rw [fields, run_append, hr, Option.bind_some, run_cons, step_lineFeed hm]
      rfl
    | cons g fs =>
      have hn : (g :: fs : List (List Char)) ≠ [] := by simp
      rw [fields, List.append_assoc, run_append, hr, Option.bind_some, List.cons_append, run_cons,
        step_comma hm, Option.bind_some, ih rfl rfl hn]
      · simp [endField]
      · simp

theorem run_record (rows : List (List (List Char))) (hf : fs ≠ []) :
    (start rows).run (record fs) = some (start (rows ++ [fs])) :=
  run_fields rfl rfl hf

theorem run_records (rows : List (List (List Char))) {rs : List (List (List Char))}
    (h : ∀ fs ∈ rs, fs ≠ []) :
    (start rows).run (rs.flatMap record) = some (start (rows ++ rs)) := by
  induction rs generalizing rows with
  | nil => simp
  | cons fs rs ih =>
    rw [List.flatMap_cons, run_append, run_record _ (h fs List.mem_cons_self), Option.bind_some,
      ih _ fun gs hg => h gs (List.mem_cons_of_mem _ hg)]
    simp

end Scan

theorem read?_records {rs : List (List (List Char))} (h : ∀ fs ∈ rs, fs ≠ []) :
    read? (String.ofList (rs.flatMap record)) = some (rs.map (·.map String.ofList)) := by
  rw [read?, String.toList_ofList, Scan.run_records [] h]
  rfl

end Csv

def Entry.csvFields (e : Entry) : List (List Char) :=
  [e.file1.toList, e.file2.toList, e.similarity.plain]

theorem Entry.csvFields_ne_nil (es : List Entry) :
    ∀ fs ∈ ["file1".toList, "file2".toList, "similarity".toList] :: es.map Entry.csvFields,
      fs ≠ [] := by
  simp [Entry.csvFields]

theorem Report.csv_eq_flatMap (r : Report) : r.csv =
    (["file1".toList, "file2".toList, "similarity".toList] ::
      r.entries.map Entry.csvFields).flatMap Csv.record := by
  simp only [Report.csv, List.flatMap_cons, List.flatMap_map]
  rfl

/-- Reading gives the names of the fields and then the fields of every entry. -/
theorem Report.csv_lossless (r : Report) : Csv.read? (r.render .csv) =
    some (["file1", "file2", "similarity"] ::
      r.entries.map fun e => [e.file1, e.file2, String.ofList e.similarity.plain]) := by
  rw [Report.render, r.csv_eq_flatMap, Csv.read?_records (Entry.csvFields_ne_nil _)]
  simp [Entry.csvFields, Function.comp_def]

/-- What is read of a finite similarity is a decimal that it is the nearest number to. -/
theorem Report.csv_keeps_similarities (r : Report)
    (h : ∀ e ∈ r.entries, e.similarity.isFinite = true) :
    ∃ records, Csv.read? (r.render .csv) = some (["file1", "file2", "similarity"] :: records) ∧
      List.Forall₂ (fun e record => ∃ d : PlainDecimal,
        record = [e.file1, e.file2, String.ofList d.text] ∧ d.nearest = e.similarity)
        r.entries records := by
  rw [Report.render, r.csv_eq_flatMap, Csv.read?_records (Entry.csvFields_ne_nil _)]
  refine ⟨r.entries.map fun e => e.csvFields.map String.ofList, by simp, ?_⟩
  refine List.forall₂_map_right_iff.2 (List.forall₂_same.2 fun e he => ?_)
  obtain ⟨d, hd, hn⟩ := Binary64.exists_nearest (h e he)
  exact ⟨d, by simp [Entry.csvFields, hd], hn⟩

end SimilarityClient
