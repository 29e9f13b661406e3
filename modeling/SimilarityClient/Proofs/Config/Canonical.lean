import SimilarityClient.Form.Endpoint
import SimilarityClient.Proofs.Config.Precedence

/-! # Canonical settings

Settings are in normal form wherever they come from: a flag, a full address, a
pair of host and port, or the standard. Settings in normal form are read back
as they are, from variables and from flags.
-/

namespace SimilarityClient

namespace Config

open Text (isBlank trim decimal max64)

variable {env : Environment} {c c' : Config} {url? : Option String} {timeout? : Option Nat}
  {raw base kept : String} {n : Nat}

/-- Settings in normal form. -/
structure IsCanonical (c : Config) : Prop where
  address : IsAddress c.baseUrl.toList
  timeout_pos : 1 ≤ c.timeout
  timeout_le : c.timeout ≤ max64

theorem isAddress_of_readBaseUrl (h : readBaseUrl env = .ok base) : IsAddress base.toList := by
  rw [readBaseUrl] at h
  split at h
  · exact (normalizeUrl_eq_ok_iff.1 h).2
  · split at h
    · exact isAddress_of_hostPortUrl h
    · cases h
      exact isAddress_defaultUrl
    · cases h

theorem bounds_of_secondsOf (h : secondsOf env = .ok n) : 1 ≤ n ∧ n ≤ max64 := by
  rw [secondsOf] at h
  split at h
  · exact ⟨(readTimeout_eq_ok_iff.1 h).1, readTimeout_le h⟩
  · cases h
    decide

theorem isCanonical_of_ofEnvironment (h : ofEnvironment env = .ok c) : c.IsCanonical := by
  obtain ⟨hb, hn⟩ := ofEnvironment_eq_ok_iff.1 h
  exact ⟨isAddress_of_readBaseUrl hb, (bounds_of_secondsOf hn).1, (bounds_of_secondsOf hn).2⟩

theorem isAddress_of_urlOr (hk : IsAddress kept.toList) (h : urlOr kept url? = .ok base) :
    IsAddress base.toList := by
  cases url? with
  | none =>
    cases h
    exact hk
  | some url => exact (normalizeUrl_eq_ok_iff.1 h).2

theorem bounds_of_secondsOr {m : Nat} (hm : 1 ≤ m ∧ m ≤ max64) (ht : ∀ n ∈ timeout?, n ≤ max64)
    (h : secondsOr m timeout? = .ok n) : 1 ≤ n ∧ n ≤ max64 := by
  cases timeout? with
  | none =>
    cases h
    exact hm
  | some k =>
    rw [secondsOr] at h
    split at h
    · rename_i hk
      cases h
      exact ⟨hk, ht _ rfl⟩
    · cases h

theorem IsCanonical.override (hc : c.IsCanonical) (ht : ∀ n ∈ timeout?, n ≤ max64)
    (h : c.override url? timeout? = .ok c') : c'.IsCanonical := by
  obtain ⟨hu, hs⟩ := override_eq_ok_iff.1 h
  obtain ⟨hp, hl⟩ := bounds_of_secondsOr ⟨hc.timeout_pos, hc.timeout_le⟩ ht hs
  exact ⟨isAddress_of_urlOr hc.address hu, hp, hl⟩

theorem isCanonical_of_resolve (ht : ∀ n ∈ timeout?, n ≤ max64)
    (h : resolve env url? timeout? = .ok c) : c.IsCanonical := by
  rw [resolve, Except.bind_eq_ok_iff] at h
  obtain ⟨d, hd, hc⟩ := h
  exact (isCanonical_of_ofEnvironment hd).override ht hc

/-- Variables that spell out settings in normal form give them back. -/
theorem IsCanonical.ofEnvironment_eq (hc : c.IsCanonical)
    (hu : env "PLAGIUM_URL" = some c.baseUrl)
    (ht : env "PLAGIUM_TIMEOUT_SECS" = some (String.ofList (decimal c.timeout))) :
    ofEnvironment env = .ok c := by
  refine ofEnvironment_eq_ok_iff.2 ⟨?_, ?_⟩
  · simp only [readBaseUrl, hu]
    exact normalizeUrl_self hc.address
  · simp only [secondsOf, ht]
    exact readTimeout_decimal hc.timeout_pos hc.timeout_le

theorem IsCanonical.override_eq (hc : c.IsCanonical) (d : Config) :
    d.override (some c.baseUrl) (some c.timeout) = .ok c :=
  override_eq_ok_iff.2 ⟨normalizeUrl_self hc.address, secondsOr_some _ hc.timeout_pos⟩

theorem processUrl_eq_endpoint (h : normalizeUrl raw = .ok base) (n : Nat) :
    processUrl ⟨base, n⟩ = Endpoint.processUrl (String.ofList (trim raw.toList)) := by
  have hb := (normalizeUrl_eq_ok_iff.1 h).1
  rw [canonicalUrl] at hb
  rw [processUrl, Endpoint.processUrl, String.toList_ofList, ← hb, String.ofList_toList]
  rfl

/-- All settings that come about are in normal form, and come about again from variables or flags
that spell them out. Blanks around an address and slashes at its end make no difference. The page
and the program ask for comparisons at the same place. -/
theorem resolve_canonical :
    (∀ env url? (timeout? : Option UInt64) c,
      resolve env url? (timeout?.map UInt64.toNat) = .ok c →
      (("http://".toList <+: c.baseUrl.toList ∨ "https://".toList <+: c.baseUrl.toList) ∧
        (∀ ch ∈ c.baseUrl.toList, isBlank ch = false) ∧ c.baseUrl.toList.getLast? ≠ some '/' ∧
        1 ≤ c.timeout ∧ c.timeout ≤ max64) ∧
      (∀ env', env' "PLAGIUM_URL" = some c.baseUrl →
        env' "PLAGIUM_TIMEOUT_SECS" = some (String.ofList (decimal c.timeout)) →
        ofEnvironment env' = .ok c) ∧
      (∀ d : Config, d.override (some c.baseUrl) (some c.timeout) = .ok c) ∧
      ∀ before after n, (∀ ch ∈ before, isBlank ch = true) → (∀ ch ∈ after, isBlank ch = true) →
        normalizeUrl (String.ofList
          (before ++ (c.baseUrl.toList ++ List.replicate n '/') ++ after)) = .ok c.baseUrl) ∧
    ∀ raw base, normalizeUrl raw = .ok base → ∀ n,
      processUrl ⟨base, n⟩ = Endpoint.processUrl (String.ofList (trim raw.toList)) := by
  refine ⟨fun env url? timeout? c h => ?_, fun raw base h n => processUrl_eq_endpoint h n⟩
  have ht : ∀ n ∈ timeout?.map UInt64.toNat, n ≤ max64 := by
    intro n hn
    obtain ⟨t, -, rfl⟩ := Option.map_eq_some_iff.1 hn
    exact Nat.le_sub_one_of_lt t.toNat_lt
  have hc : c.IsCanonical := isCanonical_of_resolve ht h
  refine ⟨⟨hc.address.scheme, hc.address.noBlank, hc.address.noEndSlash, hc.timeout_pos,
    hc.timeout_le⟩, fun env' => hc.ofEnvironment_eq, hc.override_eq, fun before after n hb ha => ?_⟩
  exact normalizeUrl_surrounded hc.address hb ha n

def hostAndPort (host port : String) : Environment
  | "CORE_HOST" => some host
  | "CORE_PORT" => some port
  | _ => none

/-- The settings of a pair with blanks and slashes, and the longest timeout. -/
theorem resolve_canonical_pair :
    let env := hostAndPort " https://core// " "\t+0443 "
    let c : Config := ⟨"https://core:+0443", 18446744073709551615⟩
    resolve env none ((some (18446744073709551615 : UInt64)).map UInt64.toNat) = .ok c ∧
    standard.override (some c.baseUrl) (some c.timeout) = .ok c ∧
    normalizeUrl "\u2003https://core:+0443///\n" = .ok c.baseUrl ∧
    c.processUrl = Endpoint.processUrl "https://core:+0443/" := by
  intro env c
  have h : resolve env none ((some (18446744073709551615 : UInt64)).map UInt64.toNat) = .ok c := by
    decide +kernel
  obtain ⟨-, -, hd, hs⟩ := resolve_canonical.1 env none _ c h
  have hn := hs ['\u2003'] ['\n'] 3 (List.forall_mem_singleton.2 rfl)
    (List.forall_mem_singleton.2 rfl)
  have hr : normalizeUrl " https://core:+0443/ " = .ok c.baseUrl := by decide +kernel
  have hp := resolve_canonical.2 _ _ hr c.timeout
  have hl : String.ofList (['\u2003'] ++ (c.baseUrl.toList ++ List.replicate 3 '/') ++ ['\n']) =
      "\u2003https://core:+0443///\n" := by decide +kernel
  have ht : String.ofList (trim " https://core:+0443/ ".toList) = "https://core:+0443/" := by
    decide +kernel
  rw [hl] at hn
  rw [ht] at hp
  exact ⟨h, hd standard, hn, hp⟩

end Config

end SimilarityClient
