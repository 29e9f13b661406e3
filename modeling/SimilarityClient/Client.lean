import SimilarityClient.Charset
import SimilarityClient.Config
import SimilarityClient.FileTree
import SimilarityClient.Multipart
import SimilarityClient.Report.Decode
import SimilarityClient.SourceFile
import SimilarityClient.Url

/-! # Asking for a comparison

The files are read in their order and sent as one form. The answer counts if
its status tells of success and its body is a report.
-/

namespace SimilarityClient

open Text (Bytes decimal)

structure Request where
  target : String
  contentType : String
  body : Bytes
  deriving DecidableEq, Repr

structure Answer where
  status : Nat
  contentType : Option String
  body : Bytes
  deriving DecidableEq, Repr

/-- What can go wrong with a request and its answer, in the order in which they
go their way. -/
inductive HttpFault
  | badAddress
  | unusableAddress (url : String)
  | dropped (url : String)
  | misled (url : String)
  | brokenOff
  deriving DecidableEq, Repr

def HttpFault.message : HttpFault → String
  | .badAddress => "builder error"
  | .unusableAddress url => "builder error for url (" ++ url ++ ")"
  | .dropped url => "error sending request for url (" ++ url ++ ")"
  | .misled url => "error following redirect for url (" ++ url ++ ")"
  | .brokenOff => "error decoding response body"

/-- What becomes of a request: nobody is there to take it, or it is taken and then
comes to nothing or is answered. An answer that breaks off is none. -/
inductive Delivery
  | refused
  | failed (fault : HttpFault)
  | answered (answer : Answer)
  deriving DecidableEq, Repr

/-- A server at a host and a port; without an answer it hangs up. -/
structure Server where
  host : String
  port : Nat
  answer : Option Answer
  deriving DecidableEq, Repr

inductive ClientError
  | connection (url : String)
  | http (fault : HttpFault)
  | server (status : Nat) (body : String)
  | invalidResponse (fault : Json.Located)
  | unreadable (path : Path) (fault : FileFault)
  deriving DecidableEq, Repr

def ClientError.message : ClientError → String
  | .connection url =>
    "No connection to the plagium core at " ++ url ++ ". Check that the server is running"
  | .http fault => "HTTP request failed: " ++ fault.message
  | .server status body =>
    "Server error (" ++ String.ofList (decimal status) ++ "): " ++ body
  | .invalidResponse fault => "Invalid response: " ++ fault.message
  | .unreadable p fault => "Failed to read " ++ p.text ++ ": " ++ fault.message

namespace Answer

def isSuccess (a : Answer) : Bool := 200 ≤ a.status && a.status < 300

/-- Two statuses go without a body. -/
def text (a : Answer) (lib : Libraries) : String :=
  if a.status = 204 ∨ a.status = 304 then "" else bodyText lib a.contentType a.body

def report (a : Answer) (lib : Libraries) : Except ClientError Report :=
  if !a.isSuccess then .error (.server a.status (a.text lib))
  else match Report.decode (a.text lib) with
    | .ok report => .ok report
    | .error fault => .error (.invalidResponse fault)

end Answer

namespace Server

def isAt (server : Server) (url : Url) : Bool :=
  url.scheme == "http".toList && url.host == some server.host.toList &&
    url.effectivePort == some server.port

def deliver (server : Server) (url : Url) : Delivery :=
  if server.isAt url then
    match server.answer with
    | some answer => .answered answer
    | none => .failed (.dropped (String.ofList url.text))
  else .refused

instance : Coe Server (Url → Delivery) := ⟨deliver⟩

end Server

namespace Client

/-- The field of the file at a position, counted from zero. -/
def fieldAt (position : Nat) : String := fieldName (position + 1)

/-- Reads the files into parts, the first of them for position `k`. -/
def readParts (tree : FileTree) (k : Nat) :
    List SourceFile → Except ClientError (List Multipart.Part)
  | [] => .ok []
  | f :: fs =>
    match tree.read f.path with
    | .error fault => .error (.unreadable f.path fault)
    | .ok content => do
      let parts ← readParts tree (k + 1) fs
      return ⟨fieldAt k, f.name, content⟩ :: parts

/-- The address that a request can be sent to. -/
def readAddress (lib : Libraries) (url : String) : Except ClientError Url :=
  match Url.parse? lib url.toList with
  | none => .error (.http .badAddress)
  | some u =>
    if u.isRequestable then .ok u else .error (.http (.unusableAddress (String.ofList u.text)))

def request (boundary : String) (url : Url) (parts : List Multipart.Part) : Request where
  target := String.ofList url.requestTarget
  contentType := Multipart.contentType boundary
  body := Multipart.body (Text.utf8 boundary.toList) parts

/-- Everything that comes before sending. -/
def prepare (lib : Libraries) (tree : FileTree) (boundary url : String)
    (files : List SourceFile) : Except ClientError (Url × Request) := do
  let parts ← readParts tree 0 files
  let address ← readAddress lib url
  return (address, request boundary address parts)

/-- Everything that comes after sending. -/
def conclude (lib : Libraries) (url : String) : Delivery → Except ClientError Report
  | .refused => .error (.connection url)
  | .failed fault => .error (.http fault)
  | .answered answer => answer.report lib

def taken? (r : Request) : Delivery → Option Request
  | .refused => none
  | _ => some r

/-- Submits files: the request that was taken, if any, and the report. -/
def submit (tree : FileTree) (deliver : Url → Delivery) (boundary url : String)
    (files : List SourceFile) (lib : Libraries := .bare) :
    Option Request × Except ClientError Report :=
  match prepare lib tree boundary url files with
  | .error e => (none, .error e)
  | .ok (address, r) =>
    let delivery := deliver address
    (taken? r delivery, conclude lib url delivery)

end Client

end SimilarityClient
