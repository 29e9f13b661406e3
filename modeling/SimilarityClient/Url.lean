import SimilarityClient.Libraries
import SimilarityClient.Text.Numeral

/-! # Addresses

Addresses are read as browsers read them: web schemes take either slash, hosts
are names in ASCII or numbers in their shortest form, paths lose their dot
segments, and what must not stand in an address is spelled by its bytes. Names
and passwords are dropped.
-/

namespace SimilarityClient

open Text (decimal digit?)

structure Url where
  scheme : List Char
  host : Option (List Char)
  port : Option Nat
  path : List Char
  query : Option (List Char)
  fragment : Option (List Char)
  deriving DecidableEq, Repr

namespace Url

def upperHex (n : Nat) : Char := if n < 10 then Char.ofNat (48 + n) else Char.ofNat (55 + n)

def percentByte (b : UInt8) : List Char := ['%', upperHex (b.toNat / 16), upperHex (b.toNat % 16)]

def isControl (c : Char) : Bool := c.toNat < 0x20 || 0x7E < c.toNat

def inFragment (c : Char) : Bool := isControl c || [' ', '"', '<', '>', '\x60'].contains c

def inQuery (c : Char) : Bool := isControl c || [' ', '"', '#', '<', '>', '\''].contains c

def inPath (c : Char) : Bool := inFragment c || ['#', '?', '\x7b', '\x7d'].contains c

/-- Spells the characters of a class by their bytes. -/
def encode (spelled : Char → Bool) (s : List Char) : List Char :=
  s.flatMap fun c => if spelled c then (String.utf8EncodeChar c).flatMap percentByte else [c]

def hexValue? (c : Char) : Option Nat :=
  if '0' ≤ c ∧ c ≤ '9' then some (c.toNat - 48)
  else if 'a' ≤ c ∧ c ≤ 'f' then some (c.toNat - 87)
  else if 'A' ≤ c ∧ c ≤ 'F' then some (c.toNat - 55)
  else none

/-- Puts bytes back for their spellings; the first argument counts digits of one
that has been read already. -/
def decodeFrom : Nat → List Char → Text.Bytes
  | _, [] => []
  | n + 1, _ :: r => decodeFrom n r
  | 0, c :: r =>
    if c = '%' then
      match r with
      | a :: b :: _ =>
        match hexValue? a, hexValue? b with
        | some h, some l => UInt8.ofNat (h * 16 + l) :: decodeFrom 2 r
        | _, _ => 0x25 :: decodeFrom 0 r
      | _ => 0x25 :: decodeFrom 0 r
    else String.utf8EncodeChar c ++ decodeFrom 0 r

def decode (s : List Char) : List Char := Text.readUtf8 (decodeFrom 0 s)

def isForbiddenInHost (c : Char) : Bool :=
  c.toNat ≤ 0x20 || c.toNat == 0x7F || c == Text.replacement ||
    ['#', '/', ':', '<', '>', '?', '@', '[', '\\', ']', '^', '|', '%'].contains c

def lowerAscii (c : Char) : Char := if 'A' ≤ c ∧ c ≤ 'Z' then Char.ofNat (c.toNat + 32) else c

def splitAt (mark : Char) : List Char → List (List Char)
  | [] => [[]]
  | c :: r =>
    if c = mark then [] :: splitAt mark r
    else match splitAt mark r with
      | p :: ps => (c :: p) :: ps
      | [] => [[c]]

def readBase? (base : Nat) : Nat → List Char → Option Nat
  | value, [] => some value
  | value, c :: r =>
    match hexValue? c with
    | some d => if d < base then readBase? base (value * base + d) r else none
    | none => none

/-- A part of a numeric host: hexadecimal, octal or decimal. -/
def readPart? : List Char → Option Nat
  | [] => none
  | '0' :: 'x' :: r | '0' :: 'X' :: r => readBase? 16 0 r
  | ['0'] => some 0
  | '0' :: r => readBase? 8 0 r
  | s => readBase? 10 0 s

/-- The parts of a host between points, without an empty one at its end. -/
def hostParts (host : List Char) : List (List Char) :=
  let parts := splitAt '.' host
  if 1 < parts.length ∧ parts.getLast? = some [] then parts.dropLast else parts

def endsInNumber (host : List Char) : Bool :=
  match (hostParts host).getLast? with
  | some last =>
    last ≠ [] && (last.all (fun c => (digit? c).isSome) ||
      (("0x".toList.isPrefixOf last || "0X".toList.isPrefixOf last) && (readPart? last).isSome))
  | none => false

/-- Every part but the last is a byte; the last one fills the bytes that are left. -/
def joinParts? : Nat → Nat → List Nat → Option Nat
  | _, _, [] => none
  | left, value, [last] =>
    if last < Nat.pow 256 left then some (value * Nat.pow 256 left + last) else none
  | left, value, n :: ns => if n < 256 then joinParts? (left - 1) (value * 256 + n) ns else none

def dotted (n : Nat) : List Char :=
  let byte (k : Nat) : List Char := decimal (n / Nat.pow 256 k % 256)
  byte 3 ++ '.' :: byte 2 ++ '.' :: byte 1 ++ '.' :: byte 0

def readIpv4? (host : List Char) : Option (List Char) := do
  let parts := hostParts host
  if 4 < parts.length then none
  let numbers ← parts.mapM readPart?
  return dotted (← joinParts? 4 0 numbers)

def readByte? (s : List Char) : Option Nat :=
  if s.length ≤ 3 ∧ (s.length ≤ 1 ∨ s.head? ≠ some '0') ∧ s.head? ≠ some '+' then
    (Text.readUnsigned 255 s).toOption
  else none

def readGroup? (s : List Char) : Option Nat :=
  if 1 ≤ s.length ∧ s.length ≤ 4 then readBase? 16 0 s else none

/-- Groups of one to four digits; the last one may be four bytes with points, which
stand for two groups. -/
def readGroups? : List (List Char) → Option (List Nat)
  | [] => some []
  | [last] =>
    if last.contains '.' then do
      match ← (splitAt '.' last).mapM readByte? with
      | [a, b, c, d] => return [a * 256 + b, c * 256 + d]
      | _ => none
    else (readGroup? last).map fun n => [n]
  | s :: rest => do return (← readGroup? s) :: (← readGroups? rest)

def cutDoubleColon : List Char → Option (List Char × List Char)
  | ':' :: ':' :: r => some ([], r)
  | [] => none
  | c :: r => (cutDoubleColon r).map fun (before, after) => (c :: before, after)

def groupsOf (s : List Char) : List (List Char) := if s = [] then [] else splitAt ':' s

/-- The eight groups of an address, of which a doubled colon may leave out those
that are zero. -/
def readIpv6? (s : List Char) : Option (List Nat) := do
  match cutDoubleColon s with
  | none =>
    let groups ← readGroups? (groupsOf s)
    if groups.length = 8 then some groups else none
  | some (before, after) =>
    if before.contains '.' then none
    let before ← readGroups? (groupsOf before)
    let after ← readGroups? (groupsOf after)
    let left := 8 - (before.length + after.length)
    if left = 0 then none else some (before ++ List.replicate left 0 ++ after)

def leadingZeros (groups : List Nat) : Nat := (groups.takeWhile (· == 0)).length

def longestZeros : List Nat → Nat
  | [] => 0
  | n :: rest => max (leadingZeros (n :: rest)) (longestZeros rest)

/-- Cuts groups at the first run of zeros of a length. -/
def cutZeros (length : Nat) : List Nat → List Nat × List Nat
  | [] => ([], [])
  | n :: rest =>
    if leadingZeros (n :: rest) = length then ([], (n :: rest).drop length)
    else
      let (before, after) := cutZeros length rest
      (n :: before, after)

def groupsText (groups : List Nat) : List Char :=
  [':'].intercalate (groups.map (Nat.toDigits 16))

/-- An address with the first of its longest runs of zeros left out, unless that is
a single one. -/
def ipv6Text (groups : List Nat) : List Char :=
  let length := longestZeros groups
  if length < 2 then groupsText groups
  else
    let (before, after) := cutZeros length groups
    groupsText before ++ [':', ':'] ++ groupsText after

/-- A name that is its own form in ASCII. -/
def isAsciiName (name : List Char) : Bool :=
  name.all (·.toNat < 0x80) && !(splitAt '.' name).any ("xn--".toList.isPrefixOf ·)

def asciiName? (lib : Libraries) (name : List Char) : Option (List Char) :=
  if isAsciiName name then some name else lib.asciiName? name

/-- The host of a web address, if the text is one. -/
def readHost? (lib : Libraries) (s : List Char) : Option (List Char) :=
  match s with
  | [] => none
  | '[' :: r =>
    if r.getLast? = some ']' then
      (readIpv6? r.dropLast).map fun groups => '[' :: ipv6Text groups ++ [']']
    else none
  | s => do
    let host ← asciiName? lib ((decode s).map lowerAscii)
    if host = [] ∨ host.any isForbiddenInHost then none
    else if endsInNumber host then readIpv4? host
    else some host

def isSingleDot (s : List Char) : Bool := s == ['.'] || s.map lowerAscii == "%2e".toList

def isDoubleDot (s : List Char) : Bool :=
  ["..", ".%2e", "%2e.", "%2e%2e"].any fun t => s.map lowerAscii == t.toList

/-- Drops dot segments; a path that ends in one ends in a slash. -/
def resolveDots (done : List (List Char)) : List (List Char) → List (List Char)
  | [] => done
  | s :: r =>
    let slash : List (List Char) := if r = [] then [[]] else []
    if isDoubleDot s then resolveDots (done.dropLast ++ slash) r
    else if isSingleDot s then resolveDots (done ++ slash) r
    else resolveDots (done ++ [encode inPath s]) r

def segments (web : Bool) (path : List Char) : List (List Char) :=
  splitAt '/' (if web then path.map fun c => if c = '\\' then '/' else c else path)

def normalPath (web : Bool) (path : List Char) : List Char :=
  let inner := match segments web path with
    | [] :: r => if r = [] then [[]] else r
    | r => r
  (resolveDots [] inner).flatMap ('/' :: ·)

/-- Schemes whose addresses need a host, with the port that goes without saying. -/
def webSchemes : List (List Char × Nat) :=
  [("http".toList, 80), ("https".toList, 443), ("ws".toList, 80), ("wss".toList, 443),
   ("ftp".toList, 21)]

def isSchemeChar (c : Char) : Bool := c.isAlphanum || c == '+' || c == '-' || c == '.'

/-- The scheme in lower case, and what follows its colon. -/
def splitScheme? (s : List Char) : Option (List Char × List Char) :=
  if (s.head?.any Char.isAlpha) then
    match s.dropWhile isSchemeChar with
    | ':' :: r => some ((s.takeWhile isSchemeChar).map lowerAscii, r)
    | _ => none
  else none

def isSlash (web : Bool) (c : Char) : Bool := c == '/' || (web && c == '\\')

def endsAuthority (web : Bool) (c : Char) : Bool := isSlash web c || c == '?' || c == '#'

/-- Cuts a text before the query and the fragment. -/
def cutTail (s : List Char) : List Char × Option (List Char) × Option (List Char) :=
  let body := s.takeWhile (· != '#')
  let fragment := match s.dropWhile (· != '#') with
    | _ :: r => some (encode inFragment r)
    | [] => none
  let query := match body.dropWhile (· != '?') with
    | _ :: r => some (encode inQuery r)
    | [] => none
  (body.takeWhile (· != '?'), query, fragment)

def afterAt (s : List Char) : List Char := (s.reverse.takeWhile (· != '@')).reverse

/-- The host ends at a colon outside brackets. -/
def splitPort (inBrackets : Bool) : List Char → List Char × List Char
  | [] => ([], [])
  | c :: r =>
    if c = ':' ∧ !inBrackets then ([], r)
    else
      let inside := if c = '[' then true else if c = ']' then false else inBrackets
      let (host, port) := splitPort inside r
      (c :: host, port)

/-- A port of at most sixteen bits; an empty one, or the usual one, goes unsaid. -/
def readPort? (usual : Option Nat) (s : List Char) : Option (Option Nat) :=
  if s = [] then some none
  else if !s.all (fun c => (digit? c).isSome) then none
  else match Text.readUnsigned Text.max16 s with
    | .ok n => some (if some n = usual then none else some n)
    | .error _ => none

def isIgnored (c : Char) : Bool := c == '\t' || c == '\n' || c == '\r'

def trimmed (s : List Char) : List Char :=
  let outer (c : Char) : Bool := c.toNat ≤ 0x20
  (((s.dropWhile outer).reverse.dropWhile outer).reverse).filter (!isIgnored ·)

/-- Reads an address with a host and a port. -/
def readAuthority? (lib : Libraries) (scheme : List Char) (usual : Option Nat) (s : List Char) :
    Option Url := do
  let web := usual.isSome
  let authority := s.takeWhile (!endsAuthority web ·)
  let rest := s.dropWhile (!endsAuthority web ·)
  let (hostText, portText) := splitPort false (afterAt authority)
  let host ← if web then (readHost? lib hostText).map some
    else some (if hostText = [] then none else some (encode isControl hostText))
  let port ← readPort? usual portText
  let (path, query, fragment) := cutTail rest
  let path := if web ∨ path ≠ [] then normalPath web path else []
  return ⟨scheme, host, port, path, query, fragment⟩

def parse? (lib : Libraries) (text : List Char) : Option Url := do
  let (scheme, rest) ← splitScheme? (trimmed text)
  match webSchemes.lookup scheme with
  | some usual => readAuthority? lib scheme (some usual) (rest.dropWhile (isSlash true))
  | none =>
    match rest with
    | '/' :: '/' :: r => readAuthority? lib scheme none r
    | rest =>
      let (path, query, fragment) := cutTail rest
      let path := if path.head? = some '/' then normalPath false path else encode isControl path
      return ⟨scheme, none, none, path, query, fragment⟩

def portText (u : Url) : List Char :=
  match u.port with
  | some n => ':' :: decimal n
  | none => []

def requestTarget (u : Url) : List Char :=
  u.path ++ match u.query with
    | some q => '?' :: q
    | none => []

def text (u : Url) : List Char :=
  let authority := match u.host with
    | some host => "//".toList ++ host ++ u.portText
    | none => []
  let fragment := match u.fragment with
    | some f => '#' :: f
    | none => []
  u.scheme ++ ':' :: authority ++ u.requestTarget ++ fragment

def effectivePort (u : Url) : Option Nat := u.port.or (webSchemes.lookup u.scheme)

/-- Requests go over `http` or `https`, to hosts that a request line can hold. -/
def isRequestable (u : Url) : Bool :=
  (u.scheme == "http".toList || u.scheme == "https".toList) &&
    match u.host with
    | some host => !host.any fun c => ['"', '\x60', '\x7b', '\x7d'].contains c
    | none => false

end Url

end SimilarityClient
