import SimilarityClient.Config
import SimilarityClient.Text.Quoted
import SimilarityClient.Text.Utf8

/-! # Environment files

A file may define variables, one to a line. Quotation marks and a backslash at
a line's end let a definition run over several lines. What the environment
already has stays, the first of several definitions counts, and loading ends at
the first line that is wrong.
-/

namespace SimilarityClient.EnvFile

open Text (Bytes isBlank)

/-- How far a definition has come at the end of a line. -/
inductive LineState
  | complete | escape
  | strong | strongEscape
  | weak | weakEscape
  | blank | comment
  deriving DecidableEq, Repr

def LineState.step (c : Char) : LineState → LineState
  | complete =>
    if isBlank c ∧ c ≠ '\n' ∧ c ≠ '\r' then blank
    else if c = '\\' then escape
    else if c = '"' then weak
    else if c = '\'' then strong
    else complete
  | blank =>
    if c = '#' then comment
    else if c = '\\' then escape
    else if c = '"' then weak
    else if c = '\'' then strong
    else complete
  | escape => complete
  | weak => if c = '\\' then weakEscape else if c = '"' then complete else weak
  | weakEscape => weak
  | strong => if c = '\\' then strongEscape else if c = '\'' then complete else strong
  | strongEscape => strong
  | comment => comment

/-- The state after a line, and what stands before a comment in it. -/
def scanLine (state : LineState) : List Char → LineState × List Char
  | [] => (state, [])
  | c :: r =>
    let next := state.step c
    if next = .comment then (.comment, [])
    else
      let (last, before) := scanLine next r
      (last, c :: before)

def splitLines : Bytes → List Bytes
  | [] => []
  | b :: r =>
    if b = 10 then [b] :: splitLines r
    else match splitLines r with
      | l :: ls => (b :: l) :: ls
      | [] => [[b]]

def text? (bytes : Bytes) : Option (List Char) :=
  let s := Text.readUtf8 bytes
  if Text.utf8 s = bytes then some s else none

def dropLineEnd (s : List Char) : List Char :=
  match s.reverse with
  | '\n' :: '\r' :: r => r.reverse
  | '\n' :: r => r.reverse
  | _ => s

/-- Whether a variable is being named, with or without braces. -/
inductive Naming
  | none | bare | braced
  deriving DecidableEq, Repr

structure ValueState where
  strong : Bool
  weak : Bool
  escaped : Bool
  ending : Bool
  naming : Naming
  name : List Char
  output : List Char

def ValueState.initial : ValueState := ⟨false, false, false, false, .none, [], []⟩

def unescape? (c : Char) : Option Char :=
  if c = 'n' then some '\n' else if ['\\', '\'', '"', '$', ' '].contains c then some c else none

def ValueState.substitute (env : Environment) (v : ValueState) : ValueState :=
  let value := ((env (String.ofList v.name)).getD "").toList
  { v with name := [], output := v.output ++ value }

def ValueState.push (v : ValueState) (c : Char) : ValueState := { v with output := v.output ++ [c] }

def ValueState.stepNaming (env : Environment) (v : ValueState) (c : Char) : ValueState :=
  if Text.isAlphanumeric c then { v with name := v.name ++ [c] }
  else if v.naming = .braced then
    if c = '\x7d' then { v.substitute env with naming := .none }
    else { v with name := v.name ++ [c] }
  else if c = '\x7b' ∧ v.name = [] then { v with naming := .braced }
  else
    let v := v.substitute env
    if c = '$' then v else { v with naming := .none }.push c

def ValueState.stepPlain (v : ValueState) (c : Char) : ValueState :=
  if c = '$' then { v with naming := .bare }
  else if v.weak then
    if c = '"' then { v with weak := false }
    else if c = '\\' then { v with escaped := true }
    else v.push c
  else if c = '\'' then { v with strong := true }
  else if c = '"' then { v with weak := true }
  else if c = '\\' then { v with escaped := true }
  else if c = ' ' ∨ c = '\t' then { v with ending := true }
  else v.push c

def readValueFrom (env : Environment) (v : ValueState) : List Char → Option ValueState
  | [] => some v
  | c :: r =>
    if v.ending then
      if c = ' ' ∨ c = '\t' then readValueFrom env v r
      else if c = '#' then some v
      else none
    else if v.escaped then do
      let d ← unescape? c
      readValueFrom env { v.push d with escaped := false } r
    else if v.strong then
      readValueFrom env (if c = '\'' then { v with strong := false } else v.push c) r
    else if v.naming ≠ .none then readValueFrom env (v.stepNaming env c) r
    else readValueFrom env (v.stepPlain c) r

def readValue? (env : Environment) (s : List Char) : Option String := do
  let v ← readValueFrom env .initial s
  if v.naming = .braced ∨ v.strong ∨ v.weak then none
  else return String.ofList (v.substitute env).output

def isAsciiLetter (c : Char) : Bool := ('a' ≤ c && c ≤ 'z') || ('A' ≤ c && c ≤ 'Z')
def isKeyStart (c : Char) : Bool := isAsciiLetter c || c == '_'
def isKeyChar (c : Char) : Bool := isKeyStart c || ('0' ≤ c && c ≤ '9') || c == '.'

def readKey? (s : List Char) : Option (List Char × List Char) :=
  if s.head?.any isKeyStart then some (s.takeWhile isKeyChar, s.dropWhile isKeyChar) else none

def dropBlanks (s : List Char) : List Char := s.dropWhile isBlank

/-- The key of a definition and what follows its equals sign. The word `export`
may stand in front, and may be a key itself. -/
def readHead? (s : List Char) : Option (List Char × List Char) := do
  let (key, r) ← readKey? s
  match dropBlanks r with
  | '=' :: r => return (key, r)
  | r =>
    if key = "export".toList then
      let (key, r) ← readKey? r
      match dropBlanks r with
      | '=' :: r => return (key, r)
      | _ => none
    else none

inductive Line
  | empty
  | define (key value : String)
  | wrong

def isEmptyLine (s : List Char) : Bool := s.head?.all (· == '#')

def readLine (env : Environment) (line : List Char) : Line :=
  let s := dropBlanks (Text.dropEndWhile isBlank line)
  if isEmptyLine s then .empty
  else match readHead? s with
    | none => .wrong
    | some (key, r) =>
      let r := dropBlanks r
      if isEmptyLine r then .define (String.ofList key) ""
      else match readValue? env r with
        | some value => .define (String.ofList key) value
        | none => .wrong

/-- An environment with a variable that it keeps if it has it. -/
def define (env : Environment) (key value : String) : Environment := fun name =>
  (env name).or (if name = key then some value else none)

/-- Loads lines; `pending` holds those of a definition that has begun. -/
def loadFrom (env : Environment) (state : LineState) (pending : List Char) :
    List Bytes → Environment
  | [] => env
  | bytes :: rest =>
    match text? bytes with
    | none => env
    | some chars =>
      let whole := pending ++ chars
      if (dropBlanks whole).head? = some '#' then loadFrom env .complete [] rest
      else
        let (next, before) := scanLine state chars
        let finish (line : List Char) : Environment :=
          match readLine env line with
          | .empty => loadFrom env .complete [] rest
          | .define key value => loadFrom (define env key value) .complete [] rest
          | .wrong => env
        match next with
        | .complete => finish (dropLineEnd whole)
        | .comment => finish (pending ++ before)
        | next => loadFrom env next whole rest

def dropMark : Bytes → Bytes
  | 0xEF :: 0xBB :: 0xBF :: r => r
  | r => r

/-- The environment after a file has been loaded. -/
def load (env : Environment) (content : Bytes) : Environment :=
  loadFrom env .complete [] (splitLines (dropMark content))

end SimilarityClient.EnvFile
