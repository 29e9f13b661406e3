import SimilarityClient.Text.Blank
import SimilarityClient.Text.Numeral

/-! # Configuration

The address of the server and the time to wait for it. They come from
variables of the environment, a full address before a pair of host and port,
and flags replace them.
-/

namespace SimilarityClient

open Text (decimal max16 max64)

inductive ConfigError
  | invalidUrl (url : String)
  | incompleteHostPort
  | invalidTimeout (text : String)
  deriving DecidableEq, Repr

def ConfigError.message : ConfigError → String
  | .invalidUrl url => "Invalid core URL '" ++ url ++ "': expected http:// or https://"
  | .incompleteHostPort => "CORE_HOST and CORE_PORT must be set together"
  | .invalidTimeout text =>
    "Invalid timeout '" ++ text ++ "': expected a positive number of seconds"

structure Config where
  baseUrl : String
  timeout : Nat
  deriving DecidableEq, Repr

abbrev Environment := String → Option String

namespace Config

def defaultUrl : String := "http://localhost:4800"
def defaultTimeout : Nat := 60

def processPath : String := "/v1.1/process"

def standard : Config := ⟨defaultUrl, defaultTimeout⟩

def processUrl (c : Config) : String := c.baseUrl ++ processPath

def hasScheme (s : List Char) : Bool :=
  "http://".toList.isPrefixOf s || "https://".toList.isPrefixOf s

/-- An address without outer blanks and trailing slashes. -/
def canonicalUrl (raw : List Char) : List Char := Text.dropEndSlashes (Text.trim raw)

/-- Accepts a web address without blanks. -/
def normalizeUrl (raw : String) : Except ConfigError String :=
  let url := canonicalUrl raw.toList
  if !hasScheme url || url.any Text.isBlank then .error (.invalidUrl raw)
  else .ok (String.ofList url)

def contains (part : List Char) : List Char → Bool
  | [] => part.isEmpty
  | c :: r => part.isPrefixOf (c :: r) || contains part r

def isPort (s : List Char) : Bool := (Text.readUnsigned max16 s).toBool

/-- The address of a host and a port; the scheme is added if there is none. -/
def hostPortUrl (host port : String) : Except ConfigError String :=
  let host := canonicalUrl host.toList
  let port := Text.trim port.toList
  let pair := host ++ ':' :: port
  if !isPort port then .error (.invalidUrl (String.ofList pair))
  else if contains "://".toList host then normalizeUrl (String.ofList pair)
  else normalizeUrl (String.ofList ("http://".toList ++ pair))

def readTimeout (raw : String) : Except ConfigError Nat :=
  match Text.readUnsigned max64 (Text.trim raw.toList) with
  | .ok n => if 0 < n then .ok n else .error (.invalidTimeout raw)
  | .error _ => .error (.invalidTimeout raw)

def readBaseUrl (env : Environment) : Except ConfigError String :=
  match env "PLAGIUM_URL" with
  | some url => normalizeUrl url
  | none =>
    match env "CORE_HOST", env "CORE_PORT" with
    | some host, some port => hostPortUrl host port
    | none, none => .ok defaultUrl
    | _, _ => .error .incompleteHostPort

def ofEnvironment (env : Environment) : Except ConfigError Config := do
  let baseUrl ← readBaseUrl env
  let timeout ← match env "PLAGIUM_TIMEOUT_SECS" with
    | some raw => readTimeout raw
    | none => pure defaultTimeout
  return ⟨baseUrl, timeout⟩

/-- Flags replace what the environment says. -/
def override (c : Config) (url : Option String) (timeout : Option Nat) :
    Except ConfigError Config := do
  let baseUrl ← match url with
    | some url => normalizeUrl url
    | none => pure c.baseUrl
  let timeout ← match timeout with
    | some 0 => throw (.invalidTimeout "0")
    | some n => pure n
    | none => pure c.timeout
  return ⟨baseUrl, timeout⟩

end Config

end SimilarityClient
