import Mathlib.Data.List.Forall2
import SimilarityClient.Client
import SimilarityClient.Proofs.Report.Json
import SimilarityClient.Proofs.Text.Utf8

/-! # Reports that come back

A server that answers with the document of a report is understood: the pairs
are the same and in the same order. Similarities are close, and they are the
same if their texts are short.
-/

namespace SimilarityClient

open Text Binary64

/-- An answer whose body is a text in UTF-8. -/
structure Answer.Carries (a : Answer) (text : String) : Prop where
  success : a.isSuccess = true
  hasBody : a.status ≠ 204
  charset : (a.contentType.map Charset.ofContentType).getD .utf8 = .utf8
  body : a.body = utf8 text.toList

/-- What a server sends that reports a document. -/
def Answer.ofJson (text : String) : Answer := ⟨200, some "application/json", utf8 text.toList⟩

theorem Answer.carries_ofJson (text : String) : (Answer.ofJson text).Carries text := by
  have hc : Charset.ofContentType "application/json" = .utf8 := by decide +kernel
  exact ⟨rfl, (by decide : (200 : Nat) ≠ 204), hc, rfl⟩

theorem readMarked_utf8 (lib : Libraries) {c : Char} (hc : c.toNat < 0x80) (s : List Char) :
    Charset.readMarked lib .utf8 (utf8 (c :: s)) = c :: s := by
  have hne {n : Nat} (hn : 0x80 ≤ n ∧ n < 256) : UInt8.ofNat c.toNat ≠ UInt8.ofNat n := by
    intro h
    have h' := congrArg UInt8.toNat h
    rw [toNat_ofNat_toNat hc, toNat_ofNat_of_lt hn.2] at h'
    omega
  rw [utf8_cons_of_lt hc]
  unfold Charset.readMarked
  split
  · rename_i h
    exact absurd (List.cons.inj h).1 (hne (n := 0xEF) (by decide))
  · rename_i h
    exact absurd (List.cons.inj h).1 (hne (n := 0xFF) (by decide))
  · rename_i h
    exact absurd (List.cons.inj h).1 (hne (n := 0xFE) (by decide))
  · rw [← utf8_cons_of_lt hc]
    exact readUtf8_utf8 (c :: s)

theorem Answer.Carries.text_eq {a : Answer} {text : String} {c : Char} {s : List Char}
    (h : a.Carries text) (ht : text.toList = c :: s) (hc : c.toNat < 0x80) (lib : Libraries) :
    a.text lib = text := by
  have hstatus : ¬(a.status = 204 ∨ a.status = 304) := by
    have hs := h.success
    have hb := h.hasBody
    rw [Answer.isSuccess, Bool.and_eq_true, decide_eq_true_iff, decide_eq_true_iff] at hs
    omega
  rw [Answer.text, if_neg hstatus, bodyText, h.charset, h.body, ht, readMarked_utf8 lib hc, ← ht,
    String.ofList_toList]

namespace Report

variable {r r' : Report}

def names (r : Report) : List (String × String) := r.entries.map fun e => (e.file1, e.file2)

theorem text_of_carries {a : Answer} (h : a.Carries (r.render .json)) (lib : Libraries) :
    a.text lib = r.render .json :=
  h.text_eq (String.toList_ofList.trans (json_eq r)) (by decide) lib

theorem report_of_carries {a : Answer} (h : a.Carries (r.render .json))
    (hd : decode (r.render .json) = .ok r') (lib : Libraries) : a.report lib = .ok r' := by
  rw [Answer.report, h.success, text_of_carries h, hd]
  rfl

theorem exists_reread {es : List Entry} {P : Binary64 → Binary64 → Prop}
    (h : ∀ e ∈ es, ∃ y, e.similarity.reread? = some y ∧ P e.similarity y) :
    ∃ es', List.Forall₂ (fun e e' => IsReread e e' ∧ P e.similarity e'.similarity) es es' := by
  induction es with
  | nil => exact ⟨[], .nil⟩
  | cons e es ih =>
    obtain ⟨y, hy, hp⟩ := h e List.mem_cons_self
    obtain ⟨es', hes⟩ := ih fun e' he => h e' (List.mem_cons_of_mem e he)
    exact ⟨⟨e.file1, e.file2, y⟩ :: es', .cons ⟨⟨rfl, rfl, hy⟩, hp⟩ hes⟩

theorem IsReread.eq {e e' : Entry} (h : IsReread e e') (hx : e'.similarity = e.similarity) :
    e' = e := by
  obtain ⟨h1, h2, -⟩ := h
  cases e
  cases e'
  congr

theorem eq_of_reread {es es' : List Entry} (h : List.Forall₂ IsReread es es')
    (hx : List.Forall₂ (fun e e' => e'.similarity = e.similarity) es es') : es' = es := by
  induction h with
  | nil => rfl
  | cons he _ ih =>
    cases hx with
    | cons hx hxs => rw [he.eq hx, ih hxs]

theorem names_of_reread (h : List.Forall₂ IsReread r.entries r'.entries) : r'.names = r.names := by
  obtain ⟨es⟩ := r
  obtain ⟨es'⟩ := r'
  dsimp only [names] at h ⊢
  induction h with
  | nil => rfl
  | cons he _ ih => rw [List.map_cons, List.map_cons, ih, he.1, he.2.1]

/-- The JSON document of a report is read as a report of the same pairs, also
where it comes as an answer. -/
theorem json_keeps_names (r : Report) (h : ∀ e ∈ r.entries, e.similarity.IsWithin 300) :
    ∃ r', decode (r.render .json) = .ok r' ∧ r'.names = r.names ∧
      ∀ (a : Answer) (lib : Libraries), a.Carries (r.render .json) → a.report lib = .ok r' := by
  obtain ⟨es', hboth⟩ := exists_reread (P := fun _ _ => True) fun e he =>
    (h e he).exists_reread?.imp fun y hy => ⟨hy, trivial⟩
  have hes := hboth.imp fun _ _ h => h.1
  have hd : decode (r.render .json) = .ok ⟨es'⟩ := decode_json hes
  exact ⟨⟨es'⟩, hd, names_of_reread hes, fun a lib ha => report_of_carries ha hd lib⟩

/-- A report with names that need escapes, and numbers at the bounds. -/
def hostile : Report :=
  ⟨[⟨"a\"b\\c\r\n\u0001", "😀", pow10 300⟩, ⟨"", "é,", (pow10 300).neg⟩]⟩

theorem json_keeps_names_hostile : ∃ r', decode (hostile.render .json) = .ok r' ∧
    r'.names = [("a\"b\\c\r\n\u0001", "😀"), ("", "é,")] ∧
    (Answer.ofJson (hostile.render .json)).report .bare = .ok r' := by
  obtain ⟨r', hd, hn, ha⟩ := json_keeps_names hostile (by decide +kernel)
  exact ⟨r', hd, hn, ha _ _ (Answer.carries_ofJson _)⟩

/-- Percentages come back close by, and the same if their texts are short. -/
theorem json_percentages_near (r : Report)
    (h : ∀ e ∈ r.entries, e.similarity.IsPercentage) :
    ∃ r', decode (r.render .json) = .ok r' ∧ r'.names = r.names ∧
      List.Forall₂ (fun e e' => IsKeptAs e.similarity e'.similarity) r.entries r'.entries ∧
      ((∀ e ∈ r.entries, e.similarity.HasFewPlaces ∧ e.similarity.HasFewDigits) → r' = r) := by
  obtain ⟨es', hboth⟩ := exists_reread fun e he => (h e he).exists_reread?
  have hes := hboth.imp fun _ _ h => h.1
  refine ⟨⟨es'⟩, decode_json hes, names_of_reread hes, hboth.imp fun _ _ h => h.2, fun hshort => ?_⟩
  have hall := (List.forall₂_and_left r.entries es').2 ⟨hshort, hboth⟩
  have hsame := hall.imp fun _ _ h => h.2.2.eq_of_digits h.1.1 h.1.2
  rw [eq_of_reread hes hsame]

theorem json_percentages_near_short :
    decode (render ⟨[⟨"a.py", "b.py", ofBits 0x4045400000000000⟩, ⟨"a.py", "c.py", hundred⟩]⟩ .json) =
      .ok ⟨[⟨"a.py", "b.py", ofBits 0x4045400000000000⟩, ⟨"a.py", "c.py", hundred⟩]⟩ := by
  obtain ⟨r', hd, -, -, heq⟩ := json_percentages_near
    ⟨[⟨"a.py", "b.py", ofBits 0x4045400000000000⟩, ⟨"a.py", "c.py", hundred⟩]⟩ (by decide +kernel)
  rw [hd, heq (by decide +kernel)]

/-- A percentage whose digits make more than 53 bits comes back as its neighbour. -/
theorem json_moves_percentage :
    (ofBits 0x4056EAAAAAAAAAAB).IsPercentage ∧
      decode (render ⟨[⟨"a.py", "b.py", ofBits 0x4056EAAAAAAAAAAB⟩]⟩ .json) =
        .ok ⟨[⟨"a.py", "b.py", ofBits 0x4056EAAAAAAAAAAC⟩]⟩ ∧
      ofBits 0x4056EAAAAAAAAAAC ≠ ofBits 0x4056EAAAAAAAAAAB :=
  have h : (ofBits 0x4056EAAAAAAAAAAB).IsPercentage ∧
      (ofBits 0x4056EAAAAAAAAAAB).reread? = some (ofBits 0x4056EAAAAAAAAAAC) ∧
      ofBits 0x4056EAAAAAAAAAAC ≠ ofBits 0x4056EAAAAAAAAAAB := by decide +kernel
  ⟨h.1, decode_json (.cons ⟨rfl, rfl, h.2.1⟩ .nil), h.2.2⟩

end Report

end SimilarityClient
