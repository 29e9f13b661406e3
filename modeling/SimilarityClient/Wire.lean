import SimilarityClient.Client

/-! # Messages on the wire

A request is a head of lines and a body. An answer has the same form; its body
comes in chunks, has a length that the head tells, or goes on to the end.
-/

namespace SimilarityClient.Wire

open Text (Bytes utf8 decimal)

def field (name value : String) : String := name ++ ": " ++ value ++ "\r\n"

/-- The head asks the server to hang up after its answer. -/
def head (address : Url) (r : Request) : String :=
  "POST " ++ r.target ++ " HTTP/1.1\r\n" ++
    field "content-type" r.contentType ++
    field "content-length" (String.ofList (decimal r.body.length)) ++
    field "accept" "*/*" ++
    field "host" (String.ofList (address.host.getD [] ++ address.portText)) ++
    field "connection" "close" ++ "\r\n"

def request (address : Url) (r : Request) : Bytes := utf8 (head address r).toList ++ r.body

def headChar (b : UInt8) : Char := Char.ofNat b.toNat

/-- Divides a message after its head, whose lines end in line feeds. The first
argument is the line so far, backwards. -/
def splitHead? (line : List Char) : Bytes → Option (List (List Char) × Bytes)
  | [] => none
  | 10 :: r =>
    match (line.dropWhile (· == '\r')).reverse with
    | [] => some ([], r)
    | text => (splitHead? [] r).map fun (lines, body) => (text :: lines, body)
  | b :: r => splitHead? (headChar b :: line) r

def readStatus? (line : List Char) : Option Nat :=
  match Url.splitAt ' ' line with
  | version :: status :: _ =>
    if "HTTP/1.".toList.isPrefixOf version ∧ status.length = 3 then
      (Text.readUnsigned Text.max16 status).toOption
    else none
  | _ => none

/-- The value of the first field of a name, given in small letters. -/
def field? (name : String) (lines : List (List Char)) : Option (List Char) :=
  lines.findSome? fun line =>
    if (line.takeWhile (· != ':')).map Url.lowerAscii = name.toList then
      some (Text.trim ((line.dropWhile (· != ':')).drop 1))
    else none

/-- A place in a body of chunks: in a line with a size, which is kept backwards,
or before bytes and a line's end. -/
inductive ChunkState
  | size (line : List Char)
  | content (left : Nat)

def readSize? (line : List Char) : Option Nat :=
  match line.takeWhile fun c => (Url.hexValue? c).isSome with
  | [] => none
  | digits => Url.readBase? 16 0 digits

/-- Joins chunks up to an empty one; `before` is kept backwards. -/
def readChunks? (before : Bytes) : ChunkState → Bytes → Option Bytes
  | _, [] => none
  | .size line, b :: r =>
    if b = 10 then
      match readSize? line.reverse with
      | some 0 => some before.reverse
      | some n => readChunks? before (.content n) r
      | none => none
    else readChunks? before (.size (headChar b :: line)) r
  | .content 0, b :: r =>
    if b = 10 then readChunks? before (.size []) r else readChunks? before (.content 0) r
  | .content (n + 1), b :: r => readChunks? (b :: before) (.content n) r

/-- The body that a message has at its end. Without a length it is whole only if the
server hung up by itself. -/
def readBody? (whole : Bool) (lines : List (List Char)) (rest : Bytes) : Option Bytes :=
  match field? "transfer-encoding" lines, field? "content-length" lines with
  | some _, _ => readChunks? [] (.size []) rest
  | none, some length => do
    let n ← (Text.readUnsigned Text.max64 length).toOption
    if rest.length < n then none else some (rest.take n)
  | none, none => if whole then some rest else none

/-- The status and the fields at the head of a message, and what follows. -/
def readHead? (message : Bytes) : Option (Nat × List (List Char) × Bytes) := do
  match ← splitHead? [] message with
  | ([], _) => none
  | (first :: fields, rest) => return (← readStatus? first, fields, rest)

/-- What becomes of a request to an address if a server sends a message. -/
def delivery (address : Url) (whole : Bool) (message : Bytes) : Delivery :=
  match readHead? message with
  | none => .failed (.dropped (String.ofList address.text))
  | some (status, fields, rest) =>
    match if status = 204 ∨ status = 304 then some [] else readBody? whole fields rest with
    | none => .failed .brokenOff
    | some body =>
      .answered ⟨status, (field? "content-type" fields).map String.ofList, body⟩

end SimilarityClient.Wire
