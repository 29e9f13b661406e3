import SimilarityClient.Proofs.Binary64.Plain
import SimilarityClient.Proofs.Report.Layout

/-! # The document of a report

What is written for a report is one object with the list of the entries. Each of
them is an object with both names and the similarity, which is a number where
it is finite.
-/

namespace SimilarityClient

open Text Json

namespace Decimal

variable {x : Decimal} {n e : Nat} {w ds : List Char}

theorem isMagnitude_point (hw : IsWhole w) (hd : IsDigits ds) (hn : ds ≠ []) :
    IsMagnitude (w ++ '.' :: ds) :=
  ⟨w, '.' :: ds, [], hw, .inr ⟨ds, hd, hn, rfl⟩, .inl rfl, by rw [List.append_nil]⟩

theorem isMagnitude_plain_negSucc (hn : 0 < n) :
    IsMagnitude (⟨n, .negSucc e⟩ : Decimal).plain := by
  have hd := isDigits_decimal n
  by_cases hl : (decimal n).length ≤ e + 1
  · rw [plain_of_le hl]
    exact isMagnitude_point isWhole_zero ((isDigits_replicate _).append hd)
      (List.append_ne_nil_of_right_ne_nil _ (decimal_ne_nil n))
  · have hp : 0 < ((decimal n).drop ((decimal n).length - (e + 1))).length := by
      rw [List.length_drop]
      omega
    rw [plain_of_lt hl]
    exact isMagnitude_point (isWhole_take_decimal hn (by omega)) (hd.subset (List.drop_subset _ _))
      (List.ne_nil_of_length_pos hp)

theorem isExponent_signed (z : Int) : IsExponent ('e' :: signed z) := by
  have hd := isDigits_decimal z.natAbs
  have hn := decimal_ne_nil z.natAbs
  unfold signed
  split
  · exact .inr ⟨'e', ['-'], _, by decide, by decide, hd, hn, rfl⟩
  · exact .inr ⟨'e', ['+'], _, by decide, by decide, hd, hn, rfl⟩

theorem isMagnitude_scientific (hx : 0 < x.digits) : IsMagnitude x.scientific := by
  have hw : IsWhole ((decimal x.digits).take 1) := isWhole_take_decimal hx Nat.one_pos
  have hd : IsDigits ((decimal x.digits).drop 1) :=
    (isDigits_decimal x.digits).subset (List.drop_subset _ _)
  by_cases hl : (decimal x.digits).length ≤ 1
  · refine ⟨_, [], _, hw, .inl rfl, isExponent_signed (x.pointAt - 1), ?_⟩
    rw [scientific, if_pos hl, List.drop_eq_nil_of_le hl, List.append_nil, List.append_nil]
    rfl
  · have hn : (decimal x.digits).drop 1 ≠ [] := List.drop_eq_nil_iff.not.2 hl
    refine ⟨_, '.' :: (decimal x.digits).drop 1, _, hw, .inr ⟨_, hd, hn, rfl⟩,
      isExponent_signed (x.pointAt - 1), ?_⟩
    rw [scientific, if_neg hl, List.append_assoc, List.append_assoc]
    rfl

theorem isMagnitude_json (x : Decimal) : IsMagnitude x.json := by
  obtain ⟨n, exponent⟩ := x
  rcases Nat.eq_zero_or_pos n with rfl | hn
  · exact isMagnitude_point isWhole_zero (isDigits_replicate 1) (List.cons_ne_nil _ _)
  unfold json
  rw [if_neg hn.ne']
  split
  · cases exponent with
    | ofNat e =>
      have he : 0 ≤ Int.ofNat e := Int.natCast_nonneg e
      rw [if_pos he]
      exact isMagnitude_point (isWhole_decimal_append hn (isDigits_replicate e))
        (isDigits_replicate 1) (List.cons_ne_nil _ _)
    | negSucc e =>
      have he : ¬0 ≤ Int.negSucc e := Int.not_le.2 (Int.negSucc_lt_zero e)
      rw [if_neg he, List.append_nil]
      exact isMagnitude_plain_negSucc hn
  · exact isMagnitude_scientific hn

end Decimal

theorem Binary64.isNumber_json {x : Binary64} (h : x.isFinite = true) : IsNumber x.json := by
  obtain ⟨negative, m, rfl, hm⟩ := exists_number h
  rw [json_number hm]
  cases negative with
  | false => exact .inl (Decimal.isMagnitude_json _)
  | true => exact .inr ⟨_, Decimal.isMagnitude_json _, rfl⟩

/-- The text of an entry as an object of which the similarity is a number. -/
def Entry.IsWritten (e : Entry) (v : List Char) : Prop :=
  ∃ v1 v2 v3, TextOf e.file1 v1 ∧ TextOf e.file2 v2 ∧ v3 = e.similarity.json ∧ IsNumber v3 ∧
    ObjectOf [("file1".toList, v1), ("file2".toList, v2), ("similarity".toList, v3)] v

/-- The text of a report as an object with the list of its entries. -/
def Report.IsWritten (r : Report) (v : List Char) : Prop :=
  ∃ ws w, List.Forall₂ Entry.IsWritten r.entries ws ∧ ListOf ws w ∧
    ObjectOf [("report".toList, w)] v

theorem isBlank_of_all {s : List Char} (h : s.all isSpace = true) : IsBlank s :=
  List.all_eq_true.1 h

theorem memberOf_written (name : String) (v : List Char) : MemberOf (name.toList, v)
    ('"' :: (name.toList.flatMap escaped ++ '"' :: ([] ++ ':' :: ([' '] ++ v)))) :=
  .mk (spells_escaped name.toList) isBlank_nil isBlank_space

namespace Report

def jsonObject (e : Entry) : List Char := '\x7b' :: jsonMembers e []

theorem jsonMembers_append (e : Entry) (rest : List Char) :
    jsonMembers e rest = jsonMembers e [] ++ rest := by
  simp only [jsonMembers, List.append_assoc, List.cons_append, List.nil_append]

theorem isWritten_jsonObject {e : Entry} (h : e.similarity.isFinite = true) :
    e.IsWritten (jsonObject e) := by
  have hx := Binary64.isNumber_json h
  have hb : IsBlank "\n      ".toList := isBlank_of_all (by decide)
  refine ⟨_, _, _, textOf_written e.file1, textOf_written e.file2, rfl, hx, ?_, _, _,
    .cons (memberOf_written "file1" _) (.cons (memberOf_written "file2" _)
      (.cons (memberOf_written "similarity" _) .nil)),
    .cons hb (.cons isBlank_nil hb (.cons isBlank_nil hb
      (.nil (isBlank_of_all (by decide : "\n    ".toList.all isSpace = true))))), ?_⟩
  · intro m hm
    simp only [List.mem_cons, List.not_mem_nil, or_false] at hm
    rcases hm with rfl | rfl | rfl
    · exact isValue_written e.file1
    · exact isValue_written e.file2
    · exact .number hx
  · unfold jsonObject jsonMembers
    rw [jsonMember_append, jsonMember_append, jsonMember_append]
    simp only [List.append_assoc, List.cons_append, List.nil_append]
    rfl

theorem exists_tail (es : List Entry) : ∃ t, Tail (es.map jsonObject) t ∧
    ∀ rest, jsonRest es rest = t ++ ']' :: rest := by
  induction es with
  | nil =>
    exact ⟨"\n  ".toList, .nil (isBlank_of_all (by decide)), fun rest => rfl⟩
  | cons e es ih =>
    obtain ⟨t, ht, hr⟩ := ih
    have hb : IsBlank "\n    ".toList := isBlank_of_all (by decide)
    refine ⟨_, .cons isBlank_nil hb ht, fun rest => ?_⟩
    rw [jsonRest_cons, jsonMembers_append, hr]
    simp only [jsonObject, List.append_assoc, List.cons_append, List.nil_append]
    rfl

theorem listOf_jsonList {es : List Entry} (h : ∀ e ∈ es, IsValue (jsonObject e)) :
    ListOf (es.map jsonObject) (jsonList es) := by
  cases es with
  | nil => exact listOf_nil
  | cons e es =>
    obtain ⟨t, ht, hr⟩ := exists_tail es
    have hb : IsBlank "\n    ".toList := isBlank_of_all (by decide)
    refine ⟨List.forall_mem_map.2 h, _, .cons hb ht, ?_⟩
    have hl := jsonList_cons e es []
    rw [List.append_nil, jsonMembers_append, hr] at hl
    rw [hl]
    simp only [jsonObject, List.append_assoc, List.cons_append]
    rfl

/-- The text that is written for a report is a document of the report. -/
theorem exists_isWritten {r : Report} (h : ∀ e ∈ r.entries, e.similarity.isFinite = true) :
    ∃ v, r.IsWritten v ∧ DocumentOf v (r.render .json) := by
  have hw : ∀ e ∈ r.entries, e.IsWritten (jsonObject e) := fun e he => isWritten_jsonObject (h e he)
  have hl : ListOf (r.entries.map jsonObject) (jsonList r.entries) := by
    refine listOf_jsonList fun e he => ?_
    obtain ⟨_, _, _, -, -, -, -, ho⟩ := hw e he
    exact ho.isValue
  have hb : IsBlank "\n  ".toList := isBlank_of_all (by decide)
  refine ⟨_, ⟨_, _, List.forall₂_map_right_iff.2 (List.forall₂_same.2 hw), hl,
    List.forall_mem_singleton.2 hl.isValue, _, _, .cons (memberOf_written "report" _) .nil,
    .cons hb (.nil (isBlank_of_all (by decide : "\n".toList.all isSpace = true))), rfl⟩,
    [], ['\n'], isBlank_nil, List.forall_mem_singleton.2 rfl, ?_⟩
  change String.ofList r.json = _
  rw [json_eq, jsonBody]
  simp only [List.append_assoc, List.cons_append, List.nil_append]
  rfl

end Report

end SimilarityClient
