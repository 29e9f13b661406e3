import SimilarityClient.Config
import SimilarityClient.Proofs.Text.Blank
import SimilarityClient.Proofs.Text.Numeral

/-! # Addresses and timeouts

An address is accepted exactly if its normal form has a scheme and no blanks,
and a timeout exactly if it is positive and has 64 bits. What has been accepted
is accepted again, and stays as it is.
-/

namespace SimilarityClient

namespace Config

open Text (isBlank trim decimal readUnsigned max64)

variable {raw base host port : String} {url before after : List Char} {n : Nat}

/-- The form in which addresses are kept. -/
structure IsAddress (url : List Char) : Prop where
  scheme : "http://".toList <+: url ∨ "https://".toList <+: url
  noBlank : ∀ c ∈ url, isBlank c = false
  noEndSlash : url.getLast? ≠ some '/'

theorem hasScheme_iff :
    hasScheme url = true ↔ "http://".toList <+: url ∨ "https://".toList <+: url := by
  rw [hasScheme, Bool.or_eq_true, List.isPrefixOf_iff_prefix, List.isPrefixOf_iff_prefix]

theorem normalizeUrl_eq_ok_iff : normalizeUrl raw = .ok base ↔
    base.toList = canonicalUrl raw.toList ∧ IsAddress base.toList := by
  rw [normalizeUrl]
  constructor
  · intro h
    split at h
    · cases h
    · rename_i hc
      cases h
      rw [Bool.not_eq_true, Bool.or_eq_false_iff, Bool.not_eq_false', List.any_eq_false] at hc
      rw [String.toList_ofList]
      refine ⟨rfl, hasScheme_iff.1 hc.1, fun c h => ?_, Text.getLast?_dropEndSlashes _⟩
      exact Bool.eq_false_iff.2 (hc.2 c h)
  · rintro ⟨hb, ha⟩
    have hs : hasScheme (canonicalUrl raw.toList) = true := hb ▸ hasScheme_iff.2 ha.scheme
    have hn : (canonicalUrl raw.toList).any isBlank = false := by
      rw [← hb, List.any_eq_false]
      exact fun c hc => by simp [ha.noBlank c hc]
    rw [if_neg (by simp [hs, hn]), ← hb, String.ofList_toList]

theorem canonicalUrl_surrounded (h : IsAddress url) (hb : ∀ c ∈ before, isBlank c = true)
    (ha : ∀ c ∈ after, isBlank c = true) (n : Nat) :
    canonicalUrl (before ++ (url ++ List.replicate n '/') ++ after) = url := by
  have hs : ∀ c ∈ url ++ List.replicate n '/', isBlank c = false := by
    intro c hc
    rcases List.mem_append.1 hc with hc | hc
    · exact h.noBlank c hc
    · rw [List.eq_of_mem_replicate hc]
      rfl
  rw [canonicalUrl, Text.trim_append hb hs ha]
  exact Text.dropEndSlashes_append_replicate h.noEndSlash n

theorem normalizeUrl_surrounded (h : IsAddress base.toList) (hb : ∀ c ∈ before, isBlank c = true)
    (ha : ∀ c ∈ after, isBlank c = true) (n : Nat) :
    normalizeUrl (String.ofList (before ++ (base.toList ++ List.replicate n '/') ++ after)) =
      .ok base := by
  refine normalizeUrl_eq_ok_iff.2 ⟨?_, h⟩
  rw [String.toList_ofList, canonicalUrl_surrounded h hb ha]

theorem normalizeUrl_self (h : IsAddress base.toList) : normalizeUrl base = .ok base := by
  have he : ∀ c ∈ ([] : List Char), isBlank c = true := List.forall_mem_nil _
  have hs := normalizeUrl_surrounded h he he 0
  rwa [List.nil_append, List.replicate_zero, List.append_nil, List.append_nil,
    String.ofList_toList] at hs

theorem exists_normalizeUrl (h : hostPortUrl host port = .ok base) :
    ∃ raw, normalizeUrl raw = .ok base := by
  rw [hostPortUrl] at h
  split at h
  · cases h
  · split at h <;> exact ⟨_, h⟩

theorem isAddress_of_hostPortUrl (h : hostPortUrl host port = .ok base) :
    IsAddress base.toList := by
  obtain ⟨raw, hr⟩ := exists_normalizeUrl h
  exact (normalizeUrl_eq_ok_iff.1 hr).2

theorem isAddress_defaultUrl : IsAddress defaultUrl.toList := by
  have hn : defaultUrl.toList.any isBlank = false := by decide
  refine ⟨.inl (by decide), fun c hc => ?_, by decide⟩
  exact Bool.eq_false_iff.2 (List.any_eq_false.1 hn c hc)

theorem readTimeout_eq_ok_iff :
    readTimeout raw = .ok n ↔ 0 < n ∧ readUnsigned max64 (trim raw.toList) = .ok n := by
  rw [readTimeout]
  cases readUnsigned max64 (trim raw.toList) with
  | error fault => simp
  | ok m =>
    constructor
    · intro h
      dsimp only at h
      split at h
      · cases h
        exact ⟨‹_›, rfl⟩
      · cases h
    · rintro ⟨hn, h⟩
      cases h
      exact if_pos hn

theorem readTimeout_le (h : readTimeout raw = .ok n) : n ≤ max64 :=
  Text.readUnsigned_le (readTimeout_eq_ok_iff.1 h).2

theorem readTimeout_decimal (hn : 0 < n) (hm : n ≤ max64) :
    readTimeout (String.ofList (decimal n)) = .ok n := by
  have hb : ∀ c ∈ decimal n, isBlank c = false := fun c hc =>
    Text.isBlank_of_isDigit (Text.isDigits_decimal n c hc)
  rw [readTimeout_eq_ok_iff, String.toList_ofList, Text.trim_eq_self hb]
  exact ⟨hn, Text.readUnsigned_decimal hm⟩

end Config

end SimilarityClient
