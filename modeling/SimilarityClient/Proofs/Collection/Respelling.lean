import SimilarityClient.Proofs.Collection.Distinct
import SimilarityClient.Proofs.Extension.Spelling

/-! # Collecting by respelled extensions

What is collected depends on the set of normal forms of the extensions. How an
extension is written down, how often and in which place, does not matter.
-/

namespace SimilarityClient

open Extension

variable {tree : FileTree} {paths : List Path} {items items' : List String}

theorem Extension.accepts_congr (h : ∀ x, x ∈ items ↔ x ∈ items') :
    accepts items = accepts items' := by
  ext p
  unfold accepts
  split
  · rw [Bool.eq_iff_iff, List.contains_iff_mem, List.contains_iff_mem, h]
  · rfl

namespace Collection

theorem ofPath_congr (h : accepts items = accepts items') :
    ofPath tree items = ofPath tree items' := by
  ext1 p
  simp only [ofPath, ofPathArranged, ofDirectory, h]

theorem ofPaths_congr (h : accepts items = accepts items') :
    ofPaths tree items paths = ofPaths tree items' paths := by
  induction paths with
  | nil => rfl
  | cons p paths ih => simp only [ofPaths, ofPath_congr h, ih]

theorem collect_congr (h : ∀ x, x ∈ normalize items ↔ x ∈ normalize items') :
    collect tree paths items = collect tree paths items' := by
  simp only [collect, ofPaths_congr (accepts_congr h)]

/-- Normal forms are normal forms of themselves, each a point and a text in lower case. Items of
no text have none, and those of the others stand in their order. Extensions with the same normal
forms collect the same files, or fail alike; and they have the same normal forms if they spell the
same texts, however often, in whatever order, and beside items of no text. -/
theorem collect_respelled (items : List String) :
    normalize (normalize items) = normalize items ∧
    (∀ x ∈ normalize items, ∃ text, IsForm x text) ∧
    (∀ forms, normalize items = forms ↔ Normalizes items forms) ∧
    (∀ tree paths, collect tree paths (normalize items) = collect tree paths items) ∧
    ∀ items', ((∀ x, x ∈ normalize items' ↔ x ∈ normalize items) →
        ∀ tree paths, collect tree paths items' = collect tree paths items) ∧
      ((∀ text ≠ [], (∃ y ∈ items', Spells text y.toList) ↔ ∃ y ∈ items, Spells text y.toList) →
        ∀ x, x ∈ normalize items' ↔ x ∈ normalize items) := by
  have hn := normalizes_normalize items
  have hi : normalize (normalize items) = normalize items := hn.again.eq_normalize
  refine ⟨hi, fun x => hn.exists_isForm, fun forms => normalize_eq_iff, fun tree paths => ?_,
    fun items' => ⟨fun h tree paths => collect_congr h, mem_normalize_congr⟩⟩
  apply collect_congr
  rw [hi]
  exact fun x => .rfl

/-- Points, blanks, capitals with a sigma at the end, a repetition and items of no text. -/
theorem collect_respelled_sigma :
    let tree : FileTree := ⟨[(["src"], .directory), (["src", "a.οδος"], .file []),
      (["src", "b.PY"], .file []), (["src", "c.οδοσ"], .file [])], []⟩
    let items := ["..py", " ", "\tΟΔΟΣ", "PY\u2003", " . "]
    normalize items = [".py", ".οδος", ".py"] ∧
      collect tree [⟨"src"⟩] items = collect tree [⟨"src"⟩] [".ΟΔΟΣ", "Py"] ∧
      collect tree [⟨"src"⟩] [".ΟΔΟΣ", "Py"] =
        .ok [.ofPath ⟨"src/a.οδος"⟩, .ofPath ⟨"src/b.PY"⟩] := by
  intro tree items
  have hi : normalize items = [".py", ".οδος", ".py"] := by decide +kernel
  have hi' : normalize [".ΟΔΟΣ", "Py"] = [".οδος", ".py"] := by decide +kernel
  obtain ⟨-, -, -, -, hc⟩ := collect_respelled [".ΟΔΟΣ", "Py"]
  refine ⟨hi, (hc items).1 ?_ tree [⟨"src"⟩], ?_⟩
  · intro x
    rw [hi, hi']
    simp only [List.mem_cons, List.not_mem_nil, or_false]
    constructor
    · rintro (h | h | h)
      · exact .inr h
      · exact .inl h
      · exact .inr h
    · rintro (h | h)
      · exact .inr (.inl h)
      · exact .inl h
  · exact collect_pair (by decide +kernel) (by decide +kernel) (by decide +kernel)

end Collection

end SimilarityClient
