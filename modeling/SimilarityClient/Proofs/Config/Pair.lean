import Mathlib.Data.List.Infix
import SimilarityClient.Proofs.Config.Address
import SimilarityClient.Proofs.Url.Authority

/-! # Pairs of host and port

The address of a pair is the text of the host, with a scheme before it, and the
port as it is written. The port is a number of sixteen bits. The host is taken
as it stands: the address leads to it on that port if it is the text of a host.
-/

namespace SimilarityClient.Config

open Text (IsDigits isBlank trim readUnsigned max16)
open Url (IsHost IsScheme)

variable {host port base : String} {s start rest p : List Char} {n : Nat}

theorem head?_canonicalUrl (s : List Char) : ∀ c ∈ (canonicalUrl s).head?, isBlank c = false := by
  intro c hc
  obtain ⟨t, ht⟩ : canonicalUrl s <+: s.dropWhile isBlank :=
    (Text.dropEndWhile_prefix _ _).trans (Text.dropEndWhile_prefix _ _)
  have hd := List.head?_dropWhile_not isBlank s
  cases hs : canonicalUrl s with
  | nil =>
    rw [hs] at hc
    cases hc
  | cons d r =>
    rw [hs] at hc ht
    cases hc
    rw [← ht, List.cons_append, List.head?_cons] at hd
    simpa using hd

theorem canonicalUrl_eq_self (hf : ∀ c ∈ s.head?, isBlank c = false)
    (hl : ∀ c ∈ s.getLast?, c.isDigit = true) : canonicalUrl s = s := by
  have ht : trim s = s :=
    Text.trim_eq_self_of_ends hf fun c hc => Text.isBlank_of_isDigit (hl c hc)
  rw [canonicalUrl, ht]
  refine Text.dropEndWhile_eq_self fun c hc => ?_
  rw [beq_eq_false_iff_ne]
  rintro rfl
  cases hl '/' hc

theorem getLast?_of_readUnsigned (h : readUnsigned max16 p = .ok n) (s : List Char) :
    ∀ c ∈ (s ++ ':' :: p).getLast?, c.isDigit = true := by
  obtain ⟨ds, hp, hd, hn, -⟩ := Text.exists_digits_of_readUnsigned h
  intro c hc
  have hs : ds <:+ s ++ ':' :: p := by
    rcases hp with rfl | rfl
    · exact ⟨s ++ [':'], by simp⟩
    · exact ⟨s ++ [':', '+'], by simp⟩
  obtain ⟨t, ht⟩ := hs
  rw [← ht, List.getLast?_append_of_ne_nil _ hn] at hc
  exact hd c (List.mem_of_getLast? hc)

theorem canonicalUrl_pair (h : readUnsigned max16 p = .ok n)
    (hf : ∀ c ∈ (s ++ ':' :: p).head?, isBlank c = false) :
    canonicalUrl (s ++ ':' :: p) = s ++ ':' :: p :=
  canonicalUrl_eq_self hf (getLast?_of_readUnsigned h s)

theorem exists_of_isPort (h : isPort p = true) : ∃ n, readUnsigned max16 p = .ok n := by
  unfold isPort at h
  cases hr : readUnsigned max16 p with
  | error e =>
    rw [hr] at h
    cases h
  | ok n => exact ⟨n, rfl⟩

/-- The scheme of the pair is the one of the host, if that has one. -/
theorem exists_start (h : contains "://".toList s = true)
    (hs : "http://".toList <+: s ++ ':' :: p ∨ "https://".toList <+: s ++ ':' :: p) :
    ∃ start scheme usual rest, IsScheme start scheme usual ∧ s = start ++ rest := by
  -- A part of a scheme has no mark of a scheme in it, unless it is the whole.
  have hp : ∀ {start : List Char}, start <+: s ++ ':' :: p →
      (∀ t ∈ start.inits, contains "://".toList t = true → t = start) → start <+: s := by
    intro start hpre hall
    rcases List.prefix_or_prefix_of_prefix hpre (List.prefix_append s (':' :: p)) with h' | h'
    · exact h'
    · rw [hall s ((List.mem_inits s start).2 h') h]
  rcases hs with hs | hs
  · obtain ⟨rest, rfl⟩ := hp hs (by decide)
    exact ⟨_, _, _, rest, .http, rfl⟩
  · obtain ⟨rest, rfl⟩ := hp hs (by decide)
    exact ⟨_, _, _, rest, .https, rfl⟩

/-- How the address of a pair is put together. -/
structure IsJoined (host port base : String) (start rest : List Char) (n : Nat) : Prop where
  address : base.toList = start ++ (rest ++ ':' :: trim port.toList)
  number : readUnsigned max16 (trim port.toList) = .ok n
  own : contains "://".toList (canonicalUrl host.toList) = true →
    canonicalUrl host.toList = start ++ rest
  added : contains "://".toList (canonicalUrl host.toList) = false →
    start = "http://".toList ∧ rest = canonicalUrl host.toList

theorem exists_isJoined (h : hostPortUrl host port = .ok base) : ∃ start scheme usual rest n,
    IsScheme start scheme usual ∧ IsJoined host port base start rest n := by
  unfold hostPortUrl at h
  dsimp only at h
  split at h
  · cases h
  rename_i hp
  obtain ⟨n, hn⟩ := exists_of_isPort (Bool.of_not_eq_false fun hf => hp (hf ▸ rfl))
  split at h
  · rename_i hc
    obtain ⟨hb, ha⟩ := normalizeUrl_eq_ok_iff.1 h
    have hne : canonicalUrl host.toList ≠ [] := fun h0 => by
      rw [h0] at hc
      cases hc
    have hf : ∀ c ∈ (canonicalUrl host.toList ++ ':' :: trim port.toList).head?,
        isBlank c = false := by
      rw [List.head?_append_of_ne_nil _ hne]
      exact head?_canonicalUrl host.toList
    rw [String.toList_ofList, canonicalUrl_pair hn hf] at hb
    obtain ⟨start, scheme, usual, rest, hs, hr⟩ := exists_start hc (hb ▸ ha.scheme)
    refine ⟨start, scheme, usual, rest, n, hs, ?_, hn, fun _ => hr, fun hc' => ?_⟩
    · rw [hb, hr, List.append_assoc]
    · cases hc.symm.trans hc'
  · rename_i hc
    obtain ⟨hb, -⟩ := normalizeUrl_eq_ok_iff.1 h
    have hf : ∀ c ∈ ("http://".toList ++ canonicalUrl host.toList ++
        ':' :: trim port.toList).head?, isBlank c = false := by
      intro c hc
      cases hc
      rfl
    rw [String.toList_ofList, ← List.append_assoc, canonicalUrl_pair hn hf,
      List.append_assoc] at hb
    exact ⟨_, _, _, _, n, .http, hb, hn, fun hc' => absurd hc' hc, fun _ => ⟨rfl, rfl⟩⟩

/-- An address that is a scheme, a host, a colon and a port of digits, with nothing behind it. -/
def Addresses (url : List Char) (n : Nat) : Prop :=
  ∃ start scheme usual host ds, IsScheme start scheme usual ∧ IsHost host ∧ IsDigits ds ∧ ds ≠ [] ∧
    Nat.ofDigitChars 10 ds 0 = n ∧ n ≤ max16 ∧ url = start ++ (host ++ ':' :: ds)

def requestUrl (scheme : List Char) (usual n : Nat) (name : List Char) : Url :=
  ⟨scheme, some name, Url.portOr usual n, processPath.toList, none, none⟩

theorem takeWhile_reverse_digits {ds : List Char} (hd : IsDigits ds) (a : List Char) :
    (a ++ ':' :: ds).reverse.takeWhile (· != ':') = ds.reverse := by
  have hr : ∀ c ∈ ds.reverse, (c != ':') = true := by
    intro c hc
    rw [bne_iff_ne]
    rintro rfl
    cases hd ':' (List.mem_reverse.1 hc)
  rw [List.reverse_append, List.reverse_cons, List.append_assoc, List.takeWhile_append_of_pos hr]
  exact List.append_nil _

theorem eq_of_last_colon {a b ds es : List Char} (hd : IsDigits ds) (he : IsDigits es)
    (h : a ++ ':' :: ds = b ++ ':' :: es) : a = b ∧ ds = es := by
  have hr : ds.reverse = es.reverse := by
    rw [← takeWhile_reverse_digits hd a, h, takeWhile_reverse_digits he]
  obtain rfl : ds = es := List.reverse_injective hr
  exact ⟨List.append_cancel_right h, rfl⟩

theorem addresses_iff {scheme ds : List Char} {usual : Nat} (hs : IsScheme start scheme usual)
    (hd : IsDigits ds) (hn : ds ≠ []) (hv : Nat.ofDigitChars 10 ds 0 = n) (hle : n ≤ max16) :
    Addresses (start ++ (rest ++ ':' :: ds)) n ↔ IsHost rest := by
  constructor
  · rintro ⟨start', scheme', usual', host', ds', hs', hh, hd', -, -, -, he⟩
    obtain ⟨-, he⟩ := hs.append_inj hs' he
    obtain ⟨rfl, -⟩ := eq_of_last_colon hd hd' he
    exact hh
  · intro hh
    exact ⟨start, scheme, usual, rest, ds, hs, hh, hd, hn, hv, hle, rfl⟩

/-- The request goes to the host, on the port, for the whole path of comparisons. -/
theorem parse?_processUrl {scheme : List Char} {usual : Nat} (hs : IsScheme start scheme usual)
    (hj : IsJoined host port base start rest n) (hb : IsAddress base.toList) (hh : IsHost rest)
    (hd : IsDigits (trim port.toList)) (hn : trim port.toList ≠ []) (lib : Libraries)
    (timeout : Nat) : Url.parse? lib (processUrl ⟨base, timeout⟩).toList =
      (Url.readHost? lib rest).map (requestUrl scheme usual n) := by
  have ht : (processUrl ⟨base, timeout⟩).toList =
      start ++ (rest ++ ':' :: trim port.toList ++ '/' :: "v1.1/process".toList) := by
    rw [processUrl, String.toList_append, hj.address, List.append_assoc]
    rfl
  have hp : processPath.toList.all (fun c => !isBlank c) = true := by decide
  have hblank : ∀ c ∈ (processUrl ⟨base, timeout⟩).toList, isBlank c = false := by
    intro c hc
    rw [processUrl, String.toList_append, List.mem_append] at hc
    rcases hc with hc | hc
    · exact hb.noBlank c hc
    · exact Bool.not_eq_true' _ ▸ List.all_eq_true.1 hp c hc
  have hf : ∀ c ∈ (processUrl ⟨base, timeout⟩).toList.head?, 0x20 < c.toNat := by
    rw [ht]
    intro c hc
    cases hs <;> (cases hc; decide)
  have hl : ∀ c ∈ (processUrl ⟨base, timeout⟩).toList.getLast?, 0x20 < c.toNat := by
    rw [processUrl, String.toList_append, List.getLast?_append_of_ne_nil _ (by decide)]
    intro c hc
    cases hc
    decide
  have htrim := Url.trimmed_eq_self hblank hf hl
  rw [ht] at htrim ⊢
  rw [Url.parse?_host lib hs hh hd hn hj.number htrim]
  rfl

/-- A port that is accepted without a plus sign is written in digits, with its number as their
value. What stands between the scheme and the port is the host as it was given: the address is one
of a host and that port if it is the text of a host. Then a request goes there for the path of
comparisons and nothing else. -/
theorem pair_addresses (host port base : String) (h : hostPortUrl host port = .ok base)
    (hp : (trim port.toList).head? ≠ some '+') :
    ∃ start scheme usual rest n, IsScheme start scheme usual ∧
      IsJoined host port base start rest n ∧
      (IsDigits (trim port.toList) ∧ trim port.toList ≠ [] ∧
        Nat.ofDigitChars 10 (trim port.toList) 0 = n ∧ n ≤ max16) ∧
      (Addresses base.toList n ↔ IsHost rest) ∧
      (IsHost rest → ∀ lib timeout, Url.parse? lib (processUrl ⟨base, timeout⟩).toList =
        (Url.readHost? lib rest).map (requestUrl scheme usual n)) ∧
      ∀ name, (requestUrl scheme usual n name).effectivePort = some n ∧
        (requestUrl scheme usual n name).requestTarget = processPath.toList := by
  obtain ⟨start, scheme, usual, rest, n, hs, hj⟩ := exists_isJoined h
  have hle : n ≤ max16 := Text.readUnsigned_le hj.number
  obtain ⟨ds, hds, hd, hn, hv⟩ := Text.exists_digits_of_readUnsigned hj.number
  obtain rfl : trim port.toList = ds := by
    rcases hds with hds | hds
    · exact hds
    · rw [hds] at hp
      exact absurd rfl hp
  refine ⟨start, scheme, usual, rest, n, hs, hj, ⟨hd, hn, hv, hle⟩, ?_, ?_, fun name => ⟨?_, ?_⟩⟩
  · rw [hj.address]
    exact addresses_iff hs hd hn hv hle
  · exact fun hh => parse?_processUrl hs hj (isAddress_of_hostPortUrl h) hh hd hn
  · exact Url.effectivePort_portOr hs _ rfl rfl
  · exact List.append_nil _

/-- An address in brackets, on the port that goes without saying. -/
theorem pair_addresses_brackets :
    hostPortUrl " https://[::1]/ " "\t0443 " = .ok "https://[::1]:0443" ∧
    Addresses "https://[::1]:0443".toList 443 ∧
    Url.parse? .bare "https://[::1]:0443/v1.1/process".toList =
      some ⟨"https".toList, some "[::1]".toList, none, "/v1.1/process".toList, none, none⟩ := by
  have h : hostPortUrl " https://[::1]/ " "\t0443 " = .ok "https://[::1]:0443" := by decide +kernel
  obtain ⟨start, scheme, usual, rest, n, hs, hj, ⟨-, -, hv, -⟩, ha, hu, -⟩ :=
    pair_addresses _ _ _ h (by decide)
  have ht : trim "\t0443 ".toList = "0443".toList := by decide
  have he : "https://".toList ++ ("[::1]".toList ++ ':' :: "0443".toList) =
      start ++ (rest ++ ':' :: "0443".toList) := by
    rw [← ht]
    exact hj.address
  obtain ⟨rfl, hrest⟩ := IsScheme.https.append_inj hs he
  obtain rfl : "[::1]".toList = rest := List.append_cancel_right hrest
  obtain rfl : n = 443 := by
    rw [← hv, ht]
    decide
  have hh : IsHost "[::1]".toList :=
    ⟨by simp, by simp, .inr ⟨"::1".toList, rfl, by simp⟩⟩
  refine ⟨h, ha.2 hh, (hu hh .bare 60).trans ?_⟩
  cases hs
  decide +kernel

/-- A host may have a path, or be missing: it is taken as it stands. -/
theorem pair_with_path :
    hostPortUrl "core/api" "4800" = .ok "http://core/api:4800" ∧
    (∀ start scheme usual rest, IsScheme start scheme usual →
      "http://core/api:4800".toList = start ++ rest → '/' ∈ rest) ∧
    hostPortUrl "" "4800" = .ok "http://:4800" := by
  refine ⟨by decide +kernel, fun start scheme usual rest hs he => ?_, by decide +kernel⟩
  have he' : "http://".toList ++ "core/api:4800".toList = start ++ rest := he
  obtain ⟨-, rfl⟩ := IsScheme.http.append_inj hs he'
  decide

end SimilarityClient.Config
