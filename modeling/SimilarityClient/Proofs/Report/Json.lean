import SimilarityClient.Proofs.Json.Record
import SimilarityClient.Proofs.Json.Reread
import SimilarityClient.Report.Decode
import SimilarityClient.Report.Render

/-! # Reports as JSON documents

A document that is written holds the same pairs when it is read. The numbers
are what their texts are read as.
-/

namespace SimilarityClient

open Json

variable {e : Entry} {x y : Binary64} {rest : List Char}

theorem readString_written (s : String) (rest : List Char) :
    readString (' ' :: (writeText s.toList ++ rest)) = .ok (s, rest) := by
  have hs : skipSpace (' ' :: (writeText s.toList ++ rest)) =
      '"' :: (s.toList.flatMap escaped ++ '"' :: rest) := by
    rw [writeText, List.append_assoc]
    rfl
  rw [readString, hs]
  simp only [readText_written]
  change Except.ok (String.ofList s.toList, rest) = _
  rw [String.ofList_toList]

namespace Report

theorem jsonMember_append (name : String) (value rest : List Char) :
    jsonMember name value ++ rest = "      ".toList ++ '"' :: (name.toList.flatMap escaped ++
      '"' :: ':' :: ' ' :: (value ++ rest)) := by
  unfold jsonMember
  rw [writeText, List.append_assoc, List.append_assoc, List.append_assoc, List.cons_append,
    List.cons_append, List.append_assoc]
  rfl

section Members

variable {α σ : Type} {shape : Shape σ α} {m : Member σ} {n : Nat} {record record' : σ}
  {value : List Char} (hm : shape.members.find? (·.name.toList == m.name.toList) = some m)
  (hg : m.given record = false) (hv : m.read record (' ' :: (value ++ rest)) = .ok (record', rest))

include hm hg hv

theorem readByName_first :
    shape.readByName (n + 1) true record ('\n' :: (jsonMember m.name value ++ rest)) =
      shape.readByName n false record' rest := by
  refine readByName_member ?_ (readText_written m.name.toList _) hm hg hv
  rw [jsonMember_append]
  rfl

theorem readByName_next :
    shape.readByName (n + 1) false record (",\n".toList ++ (jsonMember m.name value ++ rest)) =
      shape.readByName n false record' rest := by
  refine readByName_member ?_ (readText_written m.name.toList _) hm hg hv
  rw [jsonMember_append]
  rfl

end Members

/-- The members of an entry, up to its closing brace. -/
def jsonMembers (e : Entry) (rest : List Char) : List Char :=
  '\n' :: (jsonMember "file1" (writeText e.file1.toList) ++
    (",\n".toList ++ (jsonMember "file2" (writeText e.file2.toList) ++
      (",\n".toList ++ (jsonMember "similarity" e.similarity.json ++
        ("\n    \x7d".toList ++ rest))))))

theorem jsonEntry_append (e : Entry) (rest : List Char) :
    jsonEntry e ++ rest = "    ".toList ++ '\x7b' :: jsonMembers e rest := by
  unfold jsonEntry
  simp only [List.append_assoc]
  rfl

theorem delimited_jsonEnd (rest : List Char) : Delimited ("\n    \x7d".toList ++ rest) := by
  intro c hc
  cases hc
  exact ⟨rfl, by decide, by decide, by decide⟩

theorem read_file1 (record : PartialEntry) (s : String) (rest : List Char) :
    Entry.shape.members[0].read record (' ' :: (writeText s.toList ++ rest)) =
      .ok (⟨some s, record.file2, record.similarity⟩, rest) := by
  change (readString _ >>= fun y => _) = _
  rw [readString_written]
  rfl

theorem read_file2 (record : PartialEntry) (s : String) (rest : List Char) :
    Entry.shape.members[1].read record (' ' :: (writeText s.toList ++ rest)) =
      .ok (⟨record.file1, some s, record.similarity⟩, rest) := by
  change (readString _ >>= fun y => _) = _
  rw [readString_written]
  rfl

theorem read_similarity (record : PartialEntry) (hx : x.reread? = some y) (hr : Delimited rest) :
    Entry.shape.members[2].read record (' ' :: (x.json ++ rest)) =
      .ok (⟨record.file1, record.file2, some y⟩, rest) := by
  change (readBinary64 (x.json ++ rest) >>= fun y => _) = _
  rw [Binary64.readBinary64_json hx hr]
  rfl

theorem readByName_jsonMembers (n : Nat) (hx : e.similarity.reread? = some x) (rest : List Char) :
    Entry.shape.readByName (n + 4) true Entry.shape.empty (jsonMembers e rest) =
      .ok (⟨some e.file1, some e.file2, some x⟩, rest) :=
  calc Entry.shape.readByName (n + 4) true Entry.shape.empty (jsonMembers e rest)
    _ = _ := readByName_first (m := Entry.shape.members[0]) rfl rfl (read_file1 _ e.file1 _)
    _ = _ := readByName_next (m := Entry.shape.members[1]) rfl rfl (read_file2 _ e.file2 _)
    _ = _ := readByName_next (m := Entry.shape.members[2]) rfl rfl
      (read_similarity _ hx (delimited_jsonEnd rest))
    _ = _ := readByName_end rfl rfl

theorem read_jsonMembers (hx : e.similarity.reread? = some x) (rest : List Char) :
    Entry.read ('\x7b' :: jsonMembers e rest) = .ok (⟨e.file1, e.file2, x⟩, rest) := by
  have hlen : 3 ≤ (jsonMembers e rest).length := by
    unfold jsonMembers
    rw [jsonMember_append]
    exact Nat.le_add_left 3 _
  obtain ⟨n, hn⟩ := Nat.exists_eq_add_of_le' hlen
  have hs : skipSpace ('\x7b' :: jsonMembers e rest) = '\x7b' :: jsonMembers e rest := rfl
  rw [Entry.read, Shape.read, hs]
  simp only [hn, readByName_jsonMembers n hx rest]
  rfl

/-- What an entry is read back as. -/
def IsReread (e e' : Entry) : Prop :=
  e'.file1 = e.file1 ∧ e'.file2 = e.file2 ∧ e.similarity.reread? = some e'.similarity

theorem IsReread.read {e' : Entry} (h : IsReread e e') (rest : List Char) :
    Entry.read ('\x7b' :: jsonMembers e rest) = .ok (e', rest) := by
  obtain ⟨h1, h2, hx⟩ := h
  rw [read_jsonMembers hx, ← h1, ← h2]

theorem jsonEntries_cons (e e' : Entry) (es : List Entry) :
    jsonEntries (e :: e' :: es) = jsonEntry e ++ ",\n".toList ++ jsonEntries (e' :: es) := rfl

/-- The text between an element and the next one, or the end of the list. -/
def jsonRest : List Entry → List Char → List Char
  | [], rest => "\n  ]".toList ++ rest
  | e :: es, rest => ",\n".toList ++ (jsonEntries (e :: es) ++ ("\n  ]".toList ++ rest))

theorem jsonEntries_append (e : Entry) (es : List Entry) (rest : List Char) :
    jsonEntries (e :: es) ++ ("\n  ]".toList ++ rest) =
      "    ".toList ++ '\x7b' :: jsonMembers e (jsonRest es rest) := by
  cases es with
  | nil => exact jsonEntry_append e _
  | cons e' es =>
    rw [jsonEntries_cons, List.append_assoc, List.append_assoc, jsonEntry_append]
    rfl

theorem jsonRest_cons (e : Entry) (es : List Entry) (rest : List Char) : jsonRest (e :: es) rest =
    ",\n".toList ++ ("    ".toList ++ '\x7b' :: jsonMembers e (jsonRest es rest)) := by
  rw [← jsonEntries_append]
  rfl

theorem readElements_jsonRest {es es' : List Entry} (h : List.Forall₂ IsReread es es')
    {n : Nat} (hn : es.length ≤ n) (rest : List Char) :
    readElements Entry.read (n + 1) false (jsonRest es rest) = .ok (es', rest) := by
  induction h generalizing n with
  | nil => exact readElements_end rfl
  | @cons e e' es es' he hes ih =>
    obtain ⟨n, rfl⟩ := Nat.exists_eq_add_of_le' (Nat.le_trans (Nat.le_add_left 1 es.length) hn)
    refine readElements_element ?_ (he.read (jsonRest es rest)) (ih (Nat.le_of_succ_le_succ hn))
    rw [jsonRest_cons]
    rfl

theorem length_le_jsonMembers (e : Entry) (rest : List Char) :
    rest.length ≤ (jsonMembers e rest).length := by
  simp only [jsonMembers, List.length_cons, List.length_append]
  omega

theorem length_le_jsonRest (es : List Entry) (rest : List Char) :
    es.length ≤ (jsonRest es rest).length := by
  induction es with
  | nil => exact Nat.zero_le _
  | cons e es ih =>
    have := length_le_jsonMembers e (jsonRest es rest)
    rw [jsonRest_cons]
    simp only [List.length_cons, List.length_append]
    omega

def jsonList (es : List Entry) : List Char :=
  if es = [] then "[]".toList else "[\n".toList ++ jsonEntries es ++ "\n  ]".toList

theorem jsonList_cons (e : Entry) (es : List Entry) (rest : List Char) :
    jsonList (e :: es) ++ rest =
      '[' :: '\n' :: ("    ".toList ++ '\x7b' :: jsonMembers e (jsonRest es rest)) := by
  rw [jsonList, if_neg (List.cons_ne_nil e es), List.append_assoc, List.append_assoc,
    jsonEntries_append]
  rfl

theorem readList_jsonList {es es' : List Entry} (h : List.Forall₂ IsReread es es')
    (rest : List Char) : readList Entry.read (' ' :: (jsonList es ++ rest)) = .ok (es', rest) := by
  cases h with
  | nil => exact readElements_end rfl
  | @cons e e' es es' he hes =>
    have hlen := (length_le_jsonRest es rest).trans (length_le_jsonMembers e _)
    have hs : skipSpace (' ' :: (jsonList (e :: es) ++ rest)) =
        '[' :: '\n' :: ("    ".toList ++ '\x7b' :: jsonMembers e (jsonRest es rest)) := by
      rw [jsonList_cons]
      rfl
    rw [readList, hs]
    exact readElements_element rfl (he.read (jsonRest es rest)) (readElements_jsonRest hes
      (by simp only [List.length_append, List.length_cons]; omega) rest)

def jsonBody (es : List Entry) : List Char :=
  "\n  \"".toList ++ ("report".toList.flatMap escaped ++
    '"' :: ':' :: ' ' :: (jsonList es ++ "\n\x7d\n".toList))

theorem json_eq (r : Report) : r.json = '\x7b' :: jsonBody r.entries := by
  unfold json
  rw [List.append_assoc]
  rfl

theorem read_report {es es' : List Entry} (h : List.Forall₂ IsReread es es')
    (rest : List Char) : Report.shape.members[0].read none (' ' :: (jsonList es ++ rest)) =
      .ok (some es', rest) := by
  change (readList Entry.read _ >>= fun y => _) = _
  rw [readList_jsonList h]
  rfl

theorem readByName_jsonBody (n : Nat) {es es' : List Entry} (h : List.Forall₂ IsReread es es') :
    Report.shape.readByName (n + 2) true Report.shape.empty (jsonBody es) =
      .ok (some es', ['\n']) :=
  calc Report.shape.readByName (n + 2) true Report.shape.empty (jsonBody es)
    _ = _ := readByName_member (m := Report.shape.members[0]) rfl (readText_written _ _) rfl rfl
      (read_report h _)
    _ = _ := readByName_end rfl rfl

theorem read_json {r r' : Report} (h : List.Forall₂ IsReread r.entries r'.entries) :
    Report.read r.json = .ok (r', ['\n']) := by
  have hs : skipSpace ('\x7b' :: jsonBody r.entries) = '\x7b' :: jsonBody r.entries := rfl
  have hlen : 1 ≤ (jsonBody r.entries).length := Nat.le_add_left 1 _
  obtain ⟨n, hn⟩ := Nat.exists_eq_add_of_le' hlen
  rw [json_eq, Report.read, Shape.read, hs]
  simp only [hn, readByName_jsonBody n h]
  rfl

/-- A report is read from its document. -/
theorem decode_json {r r' : Report} (h : List.Forall₂ IsReread r.entries r'.entries) :
    Report.decode (r.render .json) = .ok r' := by
  have ht : (r.render .json).toList = r.json := String.toList_ofList
  rw [decode, ht, readDocument, read_json h]
  rfl

end Report

end SimilarityClient
