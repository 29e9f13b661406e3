import SimilarityClient.Proofs.Client.Parts
import SimilarityClient.Proofs.Multipart.Reader

/-! # The body of a request

The body gives back the files that it was made of: their numbered fields, their
names and their contents, in order. A file that cannot be read stops everything.
-/

namespace SimilarityClient

open Text (Bytes utf8)

theorem isPlain_fieldName (k : Nat) (name : String) (content : Bytes) :
    (⟨fieldName k, name, content⟩ : Multipart.Part).IsPlain := by
  intro c hc
  simp only [fieldName, String.toList_append, String.toList_ofList, List.mem_append] at hc
  rcases hc with hc | hc
  · change c ∈ ['f', 'i', 'l', 'e', '-'] at hc
    simp only [List.mem_cons, List.not_mem_nil, or_false] at hc
    rcases hc with rfl | rfl | rfl | rfl | rfl <;> rfl
  · have hd := Nat.isDigit_of_mem_toDigits (by decide) (by decide) hc
    simp only [Multipart.needsEscape, Bool.or_eq_false_iff, beq_eq_false_iff_ne]
    refine ⟨⟨⟨?_, ?_⟩, ?_⟩, ?_⟩ <;> rintro rfl <;> simp at hd

namespace Client

variable {tree : FileTree} {files : List SourceFile} {contents : List Bytes}
  {parts : List Multipart.Part} {boundary : String} {k : Nat}

/-- A request has one part for every file, in order and numbered from one, with the name of the
file and what it holds. They are read back at the boundary if that is in none of the files. -/
structure Carries (tree : FileTree) (boundary : String) (files : List SourceFile) (r : Request) :
    Prop where
  contentType : r.contentType = "multipart/form-data; boundary=" ++ boundary
  body : ∃ contents, files.map (tree.read ·.path) = contents.map .ok ∧
    (Multipart.IsBoundary boundary contents → ∃ parts,
      Multipart.read? (utf8 boundary.toList) r.body = some parts ∧ PartsOf tree 0 files parts)

theorem PartsOf.isPlain (h : PartsOf tree k files parts) : ∀ p ∈ parts, p.IsPlain := by
  intro p hp
  obtain ⟨j, hj, rfl⟩ := List.mem_iff_getElem.1 hp
  obtain ⟨_, content, -, hc⟩ := h.getElem hj
  rw [hc]
  exact isPlain_fieldName _ _ _

theorem PartsOf.read?_request (h : PartsOf tree k files parts)
    (hb : Multipart.IsBoundary boundary (parts.map Multipart.Part.content)) (address : Url) :
    Multipart.read? (utf8 boundary.toList) (request boundary address parts).body = some parts :=
  Multipart.read?_body h.isPlain hb.divides

theorem carries_request (h : readParts tree 0 files = .ok parts) (boundary : String)
    (address : Url) : Carries tree boundary files (request boundary address parts) := by
  have hp := (readParts_eq_ok h).2
  exact ⟨rfl, _, hp.map_read, fun hb => ⟨parts, hp.read?_request hb address, hp⟩⟩

/-- The parts of files with their contents, the first of them for position `k`. -/
def partsFrom (k : Nat) (files : List SourceFile) (contents : List Bytes) : List Multipart.Part :=
  (files.zip contents).mapIdx fun j (f, content) => ⟨fieldAt (k + j), f.name, content⟩

theorem partsFrom_cons (k : Nat) (f : SourceFile) (content : Bytes) :
    partsFrom k (f :: files) (content :: contents) =
      ⟨fieldAt k, f.name, content⟩ :: partsFrom (k + 1) files contents := by
  rw [partsFrom, List.zip_cons_cons, List.mapIdx_cons, partsFrom]
  simp only [Nat.add_right_comm k, Nat.add_assoc, Nat.add_zero]

theorem readParts_eq_partsFrom
    (h : files.map (tree.read ·.path) = contents.map .ok) (k : Nat) :
    readParts tree k files = .ok (partsFrom k files contents) := by
  induction files generalizing contents k with
  | nil =>
    obtain rfl : contents = [] := by simpa using h.symm
    rfl
  | cons f files ih =>
    cases contents with
    | nil => simp at h
    | cons content contents =>
      obtain ⟨hf, hr⟩ := List.cons.inj h
      simp only [readParts, hf, partsFrom_cons, ih hr]
      rfl

theorem firstUnreadable?_append {before after : List SourceFile} {f : SourceFile}
    {fault : FileFault} (hb : ∀ g ∈ before, ∃ content, tree.read g.path = .ok content)
    (hf : tree.read f.path = .error fault) :
    firstUnreadable? tree (before ++ f :: after) = some (.unreadable f.path fault) := by
  have hn := firstUnreadable?_eq_none_iff.2 hb
  rw [firstUnreadable?] at hn ⊢
  rw [List.findSome?_append, hn, List.findSome?_cons, hf]
  rfl

/-- The first file that cannot be read stops everything before a request. If all can be read, the
request gives back, at any boundary that is in none of them, one part for every file in order,
and no file name ends the line of its header. -/
theorem body_carries_files (tree : FileTree) (files : List SourceFile) :
    (∀ before f after fault, files = before ++ f :: after →
      (∀ g ∈ before, ∃ content, tree.read g.path = .ok content) →
      tree.read f.path = .error fault →
      ∀ deliver boundary url lib,
        submit tree deliver boundary url files lib = (none, .error (.unreadable f.path fault))) ∧
    ∀ contents boundary, files.map (tree.read ·.path) = contents.map .ok →
      Multipart.IsBoundary boundary contents →
      ∃ parts, (parts = (files.zip contents).mapIdx fun j (f, content) =>
          ⟨fieldName (j + 1), f.name, content⟩) ∧
        (∀ lib url, prepare lib tree boundary url files =
          (readAddress lib url).map fun address => (address, request boundary address parts)) ∧
        (∀ address, Multipart.read? (utf8 boundary.toList) (request boundary address parts).body =
          some parts) ∧
        ∀ p ∈ parts, Multipart.header p = Multipart.headerLine p ++ ['\r', '\n', '\r', '\n'] ∧
          Multipart.OneLine (Multipart.headerLine p) := by
  constructor
  · rintro before f after fault rfl hb hf deliver boundary url lib
    rw [submit, prepare_of_unreadable lib (firstUnreadable?_append hb hf)]
  · intro contents boundary hr hb
    have ho := readParts_eq_partsFrom hr 0
    have hp := (readParts_eq_ok ho).2
    have hc : (partsFrom 0 files contents).map Multipart.Part.content = contents :=
      List.map_injective_iff.2 (fun _ _ => Except.ok.inj) (hp.map_read.symm.trans hr)
    refine ⟨partsFrom 0 files contents, ?_, fun lib => prepare_of_readParts lib ho boundary,
      hp.read?_request (hc.symm ▸ hb), fun p hm => ⟨Multipart.header_eq p, ?_⟩⟩
    · simp only [partsFrom, Nat.zero_add]
      rfl
    · exact Multipart.oneLine_headerLine (hp.isPlain p hm)

theorem body_carries_files_hostile :
    let tree : FileTree := ⟨[(["\"\r\n--file\\"], .file [45, 45]), (["b.py"], .file [13, 10])], []⟩
    let a : SourceFile := .ofPath ⟨"\"\r\n--file\\"⟩
    let b : SourceFile := .ofPath ⟨"b.py"⟩
    let gone : SourceFile := .ofPath ⟨"gone"⟩
    (∀ deliver boundary url lib, submit tree deliver boundary url [a, gone, b] lib =
      (none, .error (.unreadable ⟨"gone"⟩ .notFound))) ∧
    ∀ address, Multipart.read? (utf8 "file".toList)
      (request "file" address [⟨"file-1", "\"\r\n--file\\", [45, 45]⟩,
        ⟨"file-2", "b.py", [13, 10]⟩]).body =
      some [⟨"file-1", "\"\r\n--file\\", [45, 45]⟩, ⟨"file-2", "b.py", [13, 10]⟩] := by
  intro tree a b gone
  obtain ⟨ha, hb, hg⟩ : tree.read a.path = .ok [45, 45] ∧ tree.read b.path = .ok [13, 10] ∧
      tree.read gone.path = .error .notFound := by decide +kernel
  refine ⟨(body_carries_files tree _).1 [a] gone [b] .notFound rfl (by simp [ha]) hg, ?_⟩
  have hi : Multipart.IsBoundary "file" [[45, 45], [13, 10]] :=
    ⟨by decide, by decide, by decide, by decide⟩
  obtain ⟨parts, hp, -, hr, -⟩ := (body_carries_files tree [a, b]).2 [[45, 45], [13, 10]] "file"
    (by simp [ha, hb]) hi
  have he : parts = [⟨"file-1", "\"\r\n--file\\", [45, 45]⟩, ⟨"file-2", "b.py", [13, 10]⟩] :=
    hp.trans (by decide +kernel)
  rwa [he] at hr

end Client

end SimilarityClient
