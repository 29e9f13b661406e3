import SimilarityClient.Proofs.Config.Address
import SimilarityClient.Proofs.Fallible
import SimilarityClient.Session

/-! # Precedence of settings

Flags replace what the environment says, where a full address replaces a pair of
host and port. But the environment is read first, and as a whole: a fault of it
ends everything, also where flags replace the value at fault.
-/

namespace SimilarityClient

namespace Config

variable {env : Environment} {c c' : Config} {url? : Option String} {timeout? : Option Nat}
  {url base : String} {n : Nat}

/-- The configuration that an environment and flags make. -/
def resolve (env : Environment) (url? : Option String) (timeout? : Option Nat) :
    Except ConfigError Config :=
  ofEnvironment env >>= fun c => c.override url? timeout?

theorem resolve_environment (world : World) (i : CommandLine.Invocation) :
    resolve (Session.environment world) i.url i.timeout = Session.config world i := rfl

def secondsOf (env : Environment) : Except ConfigError Nat :=
  match env "PLAGIUM_TIMEOUT_SECS" with
  | some raw => readTimeout raw
  | none => .ok defaultTimeout

theorem both_eq_ok_iff {x : Except ConfigError String} {y : Except ConfigError Nat} :
    (x >>= fun base => y >>= fun n => .ok ⟨base, n⟩) = .ok c ↔
      x = .ok c.baseUrl ∧ y = .ok c.timeout := by
  simp only [Except.bind_eq_ok_iff, Except.ok.injEq]
  constructor
  · rintro ⟨base, hb, n, hn, rfl⟩
    exact ⟨hb, hn⟩
  · rintro ⟨hb, hn⟩
    exact ⟨_, hb, _, hn, rfl⟩

theorem ofEnvironment_eq_ok_iff : ofEnvironment env = .ok c ↔
    readBaseUrl env = .ok c.baseUrl ∧ secondsOf env = .ok c.timeout := by
  have h : ofEnvironment env =
      readBaseUrl env >>= fun base => secondsOf env >>= fun n => .ok ⟨base, n⟩ := by
    rw [ofEnvironment, secondsOf]
    cases env "PLAGIUM_TIMEOUT_SECS" <;> rfl
  rw [h, both_eq_ok_iff]

/-- The address of a flag, or one that is kept without it. -/
def urlOr (kept : String) : Option String → Except ConfigError String
  | some url => normalizeUrl url
  | none => .ok kept

def secondsOr (kept : Nat) : Option Nat → Except ConfigError Nat
  | some n => if 0 < n then .ok n else .error (.invalidTimeout "0")
  | none => .ok kept

theorem override_eq_ok_iff : c.override url? timeout? = .ok c' ↔
    urlOr c.baseUrl url? = .ok c'.baseUrl ∧ secondsOr c.timeout timeout? = .ok c'.timeout := by
  have h : c.override url? timeout? =
      urlOr c.baseUrl url? >>= fun base => secondsOr c.timeout timeout? >>= fun n =>
        .ok ⟨base, n⟩ := by
    cases url? with
    | none => rcases timeout? with _ | _ | n <;> rfl
    | some url => rcases timeout? with _ | _ | n <;> rfl
  rw [h, both_eq_ok_iff]

theorem secondsOr_some (kept : Nat) (hn : 0 < n) : secondsOr kept (some n) = .ok n := if_pos hn

/-- Every value of the environment that is not behind another one can be read. -/
structure IsSound (env : Environment) : Prop where
  url : ∀ url, env "PLAGIUM_URL" = some url → ∃ base, normalizeUrl url = .ok base
  pair : env "PLAGIUM_URL" = none →
    (env "CORE_HOST" = none ∧ env "CORE_PORT" = none) ∨
    ∃ host port base, env "CORE_HOST" = some host ∧ env "CORE_PORT" = some port ∧
      hostPortUrl host port = .ok base
  timeout : ∀ raw, env "PLAGIUM_TIMEOUT_SECS" = some raw → ∃ n, readTimeout raw = .ok n

theorem exists_readBaseUrl_iff : (∃ base, readBaseUrl env = .ok base) ↔
    (∀ url, env "PLAGIUM_URL" = some url → ∃ base, normalizeUrl url = .ok base) ∧
    (env "PLAGIUM_URL" = none →
      (env "CORE_HOST" = none ∧ env "CORE_PORT" = none) ∨
      ∃ host port base, env "CORE_HOST" = some host ∧ env "CORE_PORT" = some port ∧
        hostPortUrl host port = .ok base) := by
  rw [readBaseUrl]
  cases env "PLAGIUM_URL" with
  | some url => simp
  | none => cases env "CORE_HOST" <;> cases env "CORE_PORT" <;> simp

theorem exists_secondsOf_iff : (∃ n, secondsOf env = .ok n) ↔
    ∀ raw, env "PLAGIUM_TIMEOUT_SECS" = some raw → ∃ n, readTimeout raw = .ok n := by
  rw [secondsOf]
  cases env "PLAGIUM_TIMEOUT_SECS" <;> simp

theorem isSound_iff : IsSound env ↔ ∃ c, ofEnvironment env = .ok c := by
  constructor
  · rintro ⟨hu, hp, ht⟩
    obtain ⟨base, hb⟩ := exists_readBaseUrl_iff.2 ⟨hu, hp⟩
    obtain ⟨n, hn⟩ := exists_secondsOf_iff.2 ht
    exact ⟨⟨base, n⟩, ofEnvironment_eq_ok_iff.2 ⟨hb, hn⟩⟩
  · rintro ⟨c, hc⟩
    obtain ⟨hb, hn⟩ := ofEnvironment_eq_ok_iff.1 hc
    obtain ⟨hu, hp⟩ := exists_readBaseUrl_iff.1 ⟨_, hb⟩
    exact ⟨hu, hp, exists_secondsOf_iff.1 ⟨_, hn⟩⟩

/-- Flags replace all that a sound environment says, whatever that is. The fault of any other
environment is the answer for all flags. -/
theorem flags_replace_sound_environment (env : Environment) (hu : normalizeUrl url = .ok base)
    (hn : 0 < n) :
    (IsSound env → resolve env (some url) (some n) = .ok ⟨base, n⟩) ∧
    (¬IsSound env → ∃ e, ofEnvironment env = .error e ∧
      ∀ url? timeout?, resolve env url? timeout? = .error e) := by
  constructor
  · intro hs
    obtain ⟨c, hc⟩ := isSound_iff.1 hs
    rw [resolve, hc, Except.ok_bind]
    exact override_eq_ok_iff.2 ⟨hu, secondsOr_some _ hn⟩
  · intro hs
    cases hc : ofEnvironment env with
    | ok c => exact absurd (isSound_iff.2 ⟨c, hc⟩) hs
    | error e =>
      refine ⟨e, rfl, fun url? timeout? => ?_⟩
      rw [resolve, hc, Except.error_bind]

def loneHost (url? : Option String) : Environment
  | "PLAGIUM_URL" => url?
  | "CORE_HOST" => some "localhost"
  | _ => none

/-- A full address hides the host, and the flags hide both. -/
theorem flags_replace_sound_environment_hidden :
    normalizeUrl " https://core/ " = .ok "https://core" ∧ 0 < 5 ∧
    IsSound (loneHost (some "http://h")) ∧
    resolve (loneHost (some "http://h")) (some " https://core/ ") (some 5) =
      .ok ⟨"https://core", 5⟩ := by
  have hu : normalizeUrl " https://core/ " = .ok "https://core" := by decide +kernel
  have hs : IsSound (loneHost (some "http://h")) := by
    rw [isSound_iff]
    exact ⟨⟨"http://h", 60⟩, by decide +kernel⟩
  exact ⟨hu, by decide, hs, (flags_replace_sound_environment _ hu (by decide)).1 hs⟩

/-- Flags do not replace the address of an environment with a host and no port. -/
theorem resolve_loneHost :
    normalizeUrl "http://10.0.0.2:9000" = .ok "http://10.0.0.2:9000" ∧
    resolve (loneHost none) (some "http://10.0.0.2:9000") (some 5) =
      .error .incompleteHostPort := by decide +kernel

end Config

end SimilarityClient
