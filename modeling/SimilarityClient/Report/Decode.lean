import SimilarityClient.Json.Record
import SimilarityClient.Report.Basic

/-! # Reading reports

The answer of the server is a JSON document: a record with the list of entries,
which are records of two names and a number.
-/

namespace SimilarityClient

open Json

/-- An entry of which some members are known. -/
structure PartialEntry where
  file1 : Option String
  file2 : Option String
  similarity : Option Binary64

def Entry.shape : Shape PartialEntry Entry where
  expected := "struct ReportEntry"
  members := [
    ⟨"file1", (·.file1.isSome), fun e s => do
      let (x, rest) ← readString s
      return (⟨some x, e.file2, e.similarity⟩, rest)⟩,
    ⟨"file2", (·.file2.isSome), fun e s => do
      let (x, rest) ← readString s
      return (⟨e.file1, some x, e.similarity⟩, rest)⟩,
    ⟨"similarity", (·.similarity.isSome), fun e s => do
      let (x, rest) ← readBinary64 s
      return (⟨e.file1, e.file2, some x⟩, rest)⟩]
  empty := ⟨none, none, none⟩
  finished? := fun e => do return ⟨← e.file1, ← e.file2, ← e.similarity⟩

def Entry.read : Reader Entry := Entry.shape.read

def Report.shape : Shape (Option (List Entry)) Report where
  expected := "struct ProcessResponse"
  members := [⟨"report", (·.isSome), fun _ s => do
    let (entries, rest) ← readList Entry.read s
    return (some entries, rest)⟩]
  empty := none
  finished? := fun entries => entries.map Report.mk

def Report.read : Reader Report := Report.shape.read

def Report.decode (text : String) : Except Located Report :=
  readDocument Report.read text.toList

end SimilarityClient
