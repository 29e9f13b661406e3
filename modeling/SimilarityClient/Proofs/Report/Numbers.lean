import SimilarityClient.Proofs.Csv.Reader
import SimilarityClient.Proofs.Html.Bars
import SimilarityClient.Proofs.Json.Finite
import SimilarityClient.Proofs.Report.Percentage
import SimilarityClient.Proofs.Report.Shown
import SimilarityClient.Proofs.Report.Written

/-! # The numbers of a report

A report that was read has finite similarities only, whatever digits and
exponents its text has. So they are written as numbers, as plain decimals, and
as bars that stand between zero and a hundred.
-/

namespace SimilarityClient

open Json Magnitude Binary64

namespace Entry

theorem yields_readString : Yields readString fun _ => True := fun _ _ _ _ => trivial

theorem keeps_finite :
    Entry.shape.Keeps fun e => ∀ x, e.similarity = some x → x.isFinite = true := by
  constructor
  · intro x hx
    cases hx
  · intro m hm record hr
    rcases mem_members hm with rfl | rfl | rfl
    · exact file1_sets.yields yields_readString fun _ _ => hr
    · exact file2_sets.yields yields_readString fun _ _ => hr
    · refine similarity_sets.yields yields_readBinary64 fun x hx y hy => ?_
      cases hy
      exact hx

theorem yields_read : Yields Entry.read fun e => e.similarity.isFinite = true := by
  refine keeps_finite.yields fun record e hr he => ?_
  obtain ⟨file1, file2, similarity⟩ := record
  change (file1 >>= fun a => file2 >>= fun b => similarity >>= fun c =>
    some (⟨a, b, c⟩ : Entry)) = some e at he
  simp only [Option.bind_eq_bind, Option.bind_eq_some_iff, Option.some.injEq] at he
  obtain ⟨a, -, b, -, c, hc, rfl⟩ := he
  exact hr c hc

end Entry

namespace Report

theorem keeps_finite : Report.shape.Keeps fun es? =>
    ∀ es, es? = some es → ∀ e ∈ es, e.similarity.isFinite = true := by
  constructor
  · intro es hes
    cases hes
  · intro m hm record _
    rw [eq_of_mem_members hm]
    refine entries_sets.yields (yields_readList Entry.yields_read) fun es hes es' h => ?_
    cases h
    exact hes

theorem yields_read :
    Yields Report.read fun r => ∀ e ∈ r.entries, e.similarity.isFinite = true := by
  refine keeps_finite.yields fun es? r hes hr => ?_
  obtain ⟨es, rfl, rfl⟩ := Option.map_eq_some_iff.1 hr
  exact hes es rfl

end Report

namespace Magnitude

variable {m : Magnitude} {d j k : Nat}

theorem mul_zpow_le (h : d * 10 ^ j ≤ 100 * 10 ^ k) :
    (d : ℚ) * 10 ^ ((j : Int) - (k : Int)) ≤ 100 := by
  have hq : (d : ℚ) * 10 ^ j ≤ 100 * 10 ^ k := by exact_mod_cast h
  rw [zpow_sub₀ (by norm_num), zpow_natCast, zpow_natCast, ← mul_div_assoc,
    div_le_iff₀ (by positivity)]
  exact hq

theorem isNearest_hundred :
    IsNearest (100 * 10 ^ 1074) fineScale (ofWhole 100).val := by
  have h := isNearest_unitsOf (ofWhole 100).val fineScale_pos
  rw [← units, units_hundred, Nat.mul_assoc, unitsPerOne_mul_fineScale] at h
  exact h

theorem shortest_hundred : (ofWhole 100).shortest .up = ⟨1, 2⟩ := by decide +kernel

theorem shortest_le (h : m ≤ ofWhole 100) :
    ((m.shortest .up).digits : ℚ) * 10 ^ (m.shortest .up).exponent ≤ 100 := by
  by_cases hm : m.val = 0
  · rw [shortest_zero hm]
    norm_num
  rcases h.lt_or_eq with hlt | rfl
  · obtain ⟨d, j, hs, hp⟩ := exists_shortest .up hm
    rw [hs]
    refine mul_zpow_le (k := 1074) (Nat.le_of_not_lt fun hgt => ?_)
    -- A larger decimal would be rounded to a hundred at least.
    exact absurd (isNearest_hundred.mono fineScale_pos hp.nearest hgt.le) (Nat.not_le.2 hlt)
  · rw [shortest_hundred]
    norm_num

end Magnitude

namespace Binary64

variable {x : Binary64}

/-- A percentage is written as a number from zero to a hundred. -/
theorem IsPercentage.exists_plain (h : x.IsPercentage) :
    ∃ d : PlainDecimal, x.plain = d.text ∧ 0 ≤ d.value ∧ d.value ≤ 100 := by
  cases x with
  | nan => exact absurd rfl h.not_nan
  | number negative m =>
    obtain ⟨d, hs, ht, hv⟩ := (m.shortest .up).exists_plain negative
    have hle : d.magnitude ≤ 100 := hv ▸ shortest_le h.le
    refine ⟨d, ?_, ?_⟩
    · rw [plain, textWith, h.isInfinite, ht]
      rfl
    · unfold PlainDecimal.value
      cases negative with
      | false =>
        rw [hs, if_neg Bool.false_ne_true]
        exact ⟨d.magnitude_nonneg, hle⟩
      | true =>
        -- Below zero there is the negative zero only.
        have h0 : d.magnitude = 0 := by
          rw [hv, shortest_zero (Entry.val_eq_zero_of_negative h)]
          norm_num
        rw [hs, if_pos rfl, h0]
        norm_num

end Binary64

namespace Entry

variable {e : Entry}

theorem isPercentage_barValue (e : Entry) : e.barValue.IsPercentage := by
  have hz : zero.IsPercentage := by decide +kernel
  have hh : hundred.IsPercentage := by decide +kernel
  unfold barValue
  split
  · exact hz
  · rename_i hx
    unfold clamp
    split
    · exact hz
    · rename_i hlow
      split
      · exact hh
      · rename_i hhigh
        exact ⟨hx, Bool.eq_false_of_not_eq_true hlow, Bool.eq_false_of_not_eq_true hhigh⟩

theorem barValue_eq (h : e.similarity.IsPercentage) : e.barValue = e.similarity := by
  unfold barValue
  split
  · rename_i hn
    exact absurd hn h.not_nan
  · rw [clamp, h.not_below, h.not_above, if_neg Bool.false_ne_true, if_neg Bool.false_ne_true]

/-- A record of the table has the similarity as a plain decimal. -/
def IsRecord (e : Entry) (record : List String) : Prop :=
  ∃ d : PlainDecimal, record = [e.file1, e.file2, String.ofList d.text]

/-- A bar is as wide as the plain decimal of the similarity, and stands at a plain decimal from
zero to a hundred: at the same one, if the similarity is such a number. -/
def IsBar (e : Entry) (bar : Markup.Bar) : Prop :=
  ∃ d b : PlainDecimal, e.barWidth = String.ofList (d.text ++ ['%']) ∧
    bar = ⟨some ("width: " ++ e.barWidth), some (String.ofList b.text)⟩ ∧
    0 ≤ b.value ∧ b.value ≤ 100 ∧ (e.similarity.IsPercentage → b = d)

theorem isRecord_csvFields (h : e.similarity.isFinite = true) :
    e.IsRecord (e.csvFields.map String.ofList) := by
  obtain ⟨d, hd, -⟩ := exists_nearest h
  refine ⟨d, ?_⟩
  rw [csvFields, hd, List.map_cons, List.map_cons, List.map_cons, List.map_nil,
    String.ofList_toList, String.ofList_toList]

theorem isBar_barOf (h : e.similarity.isFinite = true) : e.IsBar (Page.barOf e) := by
  obtain ⟨d, hd, -⟩ := exists_nearest h
  obtain ⟨b, hb, h0, h100⟩ := e.isPercentage_barValue.exists_plain
  refine ⟨d, b, ?_, ?_, h0, h100, fun hp => PlainDecimal.text_injective ?_⟩
  · rw [barWidth, hd]
  · rw [Page.barOf, hb]
    rfl
  · rw [← hb, ← hd, barValue_eq hp]

end Entry

namespace Report

variable {body : String} {r : Report}

theorem read?_csv (r : Report) : Csv.read? (r.render .csv) =
    some (["file1", "file2", "similarity"] ::
      r.entries.map fun e => e.csvFields.map String.ofList) := by
  rw [render, csv_eq_flatMap, Csv.read?_records (Entry.csvFields_ne_nil _)]
  simp [Function.comp_def]

theorem entries_ofBody (h : decode body = .ok r) :
    (ResultsView.ofResult (.ofBody body)).entries = r.entries := by
  by_cases hr : r.entries = []
  · rw [ResultsView.ofBody_of_nil h hr, hr]
    rfl
  · rw [ResultsView.ofBody_of_ne_nil h hr]
    rfl

open Markup (write bars)

/-- A report that was read has finite similarities. It is written as a document in which they are
numbers, and as records and bars in which they are plain decimals; every bar stands between its
ends. -/
theorem decoded_numbers (body : String) (r : Report) (h : decode body = .ok r) :
    (∀ e ∈ r.entries, e.similarity.isFinite = true) ∧
    (∃ v, r.IsWritten v ∧ DocumentOf v (r.render .json)) ∧
    (∃ records, Csv.read? (r.render .csv) = some (["file1", "file2", "similarity"] :: records) ∧
      List.Forall₂ Entry.IsRecord r.entries records) ∧
    List.Forall₂ Entry.IsBar r.entries
      (bars (write (Page.panel (ResultsView.ofResult (.ofBody body))))) := by
  have hf : ∀ e ∈ r.entries, e.similarity.isFinite = true := yields_read.readDocument h
  refine ⟨hf, exists_isWritten hf, ⟨_, r.read?_csv, ?_⟩, ?_⟩
  · apply List.forall₂_map_right_iff.2
    exact List.forall₂_same.2 fun e he => Entry.isRecord_csvFields (hf e he)
  · rw [Page.bars_panel, entries_ofBody h]
    apply List.forall₂_map_right_iff.2
    exact List.forall₂_same.2 fun e he => Entry.isBar_barOf (hf e he)

/-- A number at the edge of infinity, one with an exponent far below, and one of many digits. -/
def extremes : String :=
  "\x7b\"report\":[[\"a\",\"b\",17976931348623157e292],[\"a\",\"c\",-1e-99999999999]," ++
    "[\"b\",\"c\",99.99999999999999999999999999999]]\x7d"

theorem decoded_numbers_extremes :
    ∃ r, decode extremes = .ok r ∧ r.entries.map (fun e => (e.barWidth.toList.length,
        String.ofList e.barValue.plain)) = [(310, "100"), (3, "-0"), (4, "100")] ∧
      List.Forall₂ Entry.IsBar r.entries
        (bars (write (Page.panel (ResultsView.ofResult (.ofBody extremes))))) := by
  have h : decode extremes = .ok ⟨[⟨"a", "b", ofBits 0x7FEFFFFFFFFFFFFF⟩,
      ⟨"a", "c", ofBits 0x8000000000000000⟩, ⟨"b", "c", hundred⟩]⟩ :=
    Except.toOption_eq_some_iff.1 (by decide +kernel)
  exact ⟨_, h, by decide +kernel, (decoded_numbers extremes _ h).2.2.2⟩

end Report

end SimilarityClient
