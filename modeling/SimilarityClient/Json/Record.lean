import SimilarityClient.Json.Skip

/-! # Reading lists and records

A record is read from an object, whatever the order of its members and with
unknown ones passed over, or from the list of its members in their order. Each
member is given once.
-/

namespace SimilarityClient.Json

variable {α σ : Type}

/-- Reads a value from the start of a text and leaves the rest. -/
abbrev Reader (α : Type) := List Char → Except Stop (α × List Char)

/-- Stops at a value of the wrong kind: behind it, or in front of its bracket. -/
def stopUnexpected (expected : String) (s : List Char) : Except Stop α :=
  match s with
  | [] => stopIn .valueExpected []
  | c :: r =>
    let found (value : Found) (rest : List Char) : Except Stop α :=
      stopAt (.unexpected value expected) rest
    if c = 'n' then readLiteral ['u', 'l', 'l'] r >>= found .null
    else if c = 't' then readLiteral ['r', 'u', 'e'] r >>= found (.boolean true)
    else if c = 'f' then readLiteral ['a', 'l', 's', 'e'] r >>= found (.boolean false)
    else if c = '-' then do
      let (n, rest) ← readMagnitude true r
      found (.number n) rest
    else if startsWithDigit s then do
      let (n, rest) ← readMagnitude false s
      found (.number n) rest
    else if c = '"' then do
      let (text, rest) ← readText r
      found (.text text) rest
    else if c = '[' then found .list s
    else if c = '\x7b' then found .object s
    else stopIn .valueExpected s

def readString : Reader String := fun s =>
  match skipSpace s with
  | [] => stopAt .endInValue []
  | '"' :: r => do
    let (text, rest) ← readText r
    return (String.ofList text, rest)
  | s => stopUnexpected "a string" s

def readBinary64 : Reader Binary64 := fun s =>
  match skipSpace s with
  | [] => stopAt .endInValue []
  | '-' :: r => do
    let (n, rest) ← readMagnitude true r
    return (n.toBinary64, rest)
  | s =>
    if startsWithDigit s then do
      let (n, rest) ← readMagnitude false s
      return (n.toBinary64, rest)
    else stopUnexpected "f64" s

/-- What is ahead in a list or an object: its end, with what stands behind it, or
another element. -/
inductive Ahead
  | closed (rest : List Char)
  | element (rest : List Char)

def nextElement (first : Bool) (s : List Char) : Except Stop Ahead :=
  match skipSpace s with
  | [] => stopAt .endInList []
  | c :: r =>
    if c = ']' then .ok (.closed r)
    else if first then .ok (.element (c :: r))
    else if c = ',' then
      match skipSpace r with
      | [] => stopAt .endInValue []
      | d :: t => if d = ']' then stopIn .trailingComma (d :: t) else .ok (.element (d :: t))
    else stopIn .listCommaExpected (c :: r)

/-- Looks for the next key of an object; the rest starts behind its opening mark. -/
def nextKey (first : Bool) (s : List Char) : Except Stop Ahead :=
  match skipSpace s with
  | [] => stopAt .endInObject []
  | c :: r =>
    if c = '\x7d' then .ok (.closed r)
    else if first then
      if c = '"' then .ok (.element r) else stopIn .textKeyExpected (c :: r)
    else if c = ',' then
      match skipSpace r with
      | [] => stopAt .endInValue []
      | d :: t =>
        if d = '"' then .ok (.element t)
        else if d = '\x7d' then stopIn .trailingComma (d :: t)
        else stopIn .textKeyExpected (d :: t)
    else stopIn .objectCommaExpected (c :: r)

/-- Reads elements up to the end of a list. Each takes a character, so as many
steps as there are characters are enough. -/
def readElements (read : Reader α) : Nat → Bool → List Char → Except Stop (List α × List Char)
  | 0, _, s => stopAt .endInList s
  | n + 1, first, s => do
    match ← nextElement first s with
    | .closed rest => return ([], rest)
    | .element s =>
      let (x, s) ← read s
      let (xs, rest) ← readElements read n false s
      return (x :: xs, rest)

def readList (read : Reader α) : Reader (List α) := fun s =>
  match skipSpace s with
  | [] => stopAt .endInValue []
  | '[' :: r => readElements read (r.length + 1) true r
  | s => stopUnexpected "a sequence" s

/-- A member of a record that is filled step by step. -/
structure Member (σ : Type) where
  name : String
  given : σ → Bool
  read : σ → Reader σ

/-- How a record is read: its members, the record with none of them, and the
finished one. -/
structure Shape (σ α : Type) where
  expected : String
  members : List (Member σ)
  empty : σ
  finished? : σ → Option α

namespace Shape

variable (shape : Shape σ α)

/-- "1 element", or "3 elements". -/
def lengthExpected : String :=
  let n := shape.members.length
  shape.expected ++ " with " ++ String.ofList (Text.decimal n) ++
    (if n = 1 then " element" else " elements")

def readEnd (s : List Char) : Except Stop (List Char) :=
  match skipSpace s with
  | [] => stopAt .endInList []
  | c :: r =>
    if c = ']' then .ok r
    else if c = ',' then
      match skipSpace r with
      | d :: t => if d = ']' then stopIn .trailingComma (d :: t) else stopIn .trailingText (d :: t)
      | [] => stopIn .trailingText []
    else stopIn .trailingText (c :: r)

/-- Reads members in their order, the first of them at position `k`. -/
def readInOrder : List (Member σ) → Nat → σ → List Char → Except Stop (σ × List Char)
  | [], _, record, s => do
    let rest ← readEnd s
    return (record, rest)
  | m :: ms, k, record, s => do
    match ← nextElement (k == 0) s with
    | .closed rest => stopAt (.wrongLength k shape.lengthExpected) rest
    | .element s =>
      let (record, s) ← m.read record s
      readInOrder ms (k + 1) record s

/-- A member that is repeated is reported behind its key, and behind the end of
the object if that follows. -/
def stopRepeated (name : String) (s : List Char) : Except Stop (σ × List Char) :=
  match skipSpace s with
  | c :: r => stopAt (.repeatedMember name) (if c = '\x7d' then r else c :: r)
  | [] => stopAt (.repeatedMember name) []

/-- Reads members by their names. Each takes a character, so as many steps as
there are characters are enough. -/
def readByName : Nat → Bool → σ → List Char → Except Stop (σ × List Char)
  | 0, _, _, s => stopAt .endInObject s
  | n + 1, first, record, s => do
    match ← nextKey first s with
    | .closed rest =>
      match shape.members.find? (!·.given record) with
      | some m => stopAt (.missingMember m.name) rest
      | none => return (record, rest)
    | .element s =>
      let (key, s) ← readText s
      match shape.members.find? (·.name.toList == key) with
      | none =>
        let s ← readColon s
        let s ← skipValue s
        readByName n false record s
      | some m =>
        if m.given record then stopRepeated m.name s
        else
          let s ← readColon s
          let (record, s) ← m.read record s
          readByName n false record s

def read : Reader α := fun s => do
  let (record, rest) ← match skipSpace s with
    | [] => stopAt .endInValue []
    | '[' :: r => shape.readInOrder shape.members 0 shape.empty r
    | '\x7b' :: r => shape.readByName (r.length + 1) true shape.empty r
    | s => stopUnexpected shape.expected s
  match shape.finished? record with
  | some x => return (x, rest)
  | none => stopAt .endInObject rest

end Shape

/-- Reads a document that holds one value and blanks around it. -/
def readDocument (read : Reader α) (text : List Char) : Except Located α :=
  let result : Except Stop α := do
    let (x, rest) ← read text
    match skipSpace rest with
    | [] => return x
    | rest => stopIn .trailingText rest
  match result with
  | .ok x => .ok x
  | .error stop => .error ⟨stop.fault, stop.place text⟩

end SimilarityClient.Json
