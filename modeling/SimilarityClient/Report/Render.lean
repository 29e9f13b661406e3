import SimilarityClient.Json.Text
import SimilarityClient.Report.Csv

/-! # Rendering reports

A table for people, a JSON document with the raw numbers, and comma separated
records.
-/

namespace SimilarityClient

namespace Report

inductive Format
  | table | json | csv
  deriving DecidableEq, Repr

def Format.default : Format := .table

def table (r : Report) : List Char :=
  if r.entries = [] then "No results\n".toList
  else "Report:\n".toList ++ r.entries.flatMap fun e => "  ".toList ++ e.line.toList ++ ['\n']

def jsonMember (name : String) (value : List Char) : List Char :=
  "      ".toList ++ Json.writeText name.toList ++ ": ".toList ++ value

def jsonEntry (e : Entry) : List Char :=
  "    \x7b\n".toList ++ jsonMember "file1" (Json.writeText e.file1.toList) ++ ",\n".toList ++
    jsonMember "file2" (Json.writeText e.file2.toList) ++ ",\n".toList ++
    jsonMember "similarity" e.similarity.json ++ "\n    \x7d".toList

def jsonEntries : List Entry → List Char
  | [] => []
  | [e] => jsonEntry e
  | e :: es => jsonEntry e ++ ",\n".toList ++ jsonEntries es

def json (r : Report) : List Char :=
  let list :=
    if r.entries = [] then "[]".toList else "[\n".toList ++ jsonEntries r.entries ++ "\n  ]".toList
  "\x7b\n  \"report\": ".toList ++ list ++ "\n\x7d\n".toList

def csvRecord (e : Entry) : List Char :=
  Csv.record [e.file1.toList, e.file2.toList, e.similarity.plain]

def csv (r : Report) : List Char :=
  Csv.record ["file1".toList, "file2".toList, "similarity".toList] ++ r.entries.flatMap csvRecord

def render (r : Report) (format : Format) : String :=
  String.ofList <| match format with
    | .table => r.table
    | .json => r.json
    | .csv => r.csv

end Report

end SimilarityClient
