import SimilarityClient.Json.Number

/-! # Values that nobody looks at

One value of any kind and depth is passed over. A stack holds the lists and
objects that are still open; no depth is too large.
-/

namespace SimilarityClient.Json

inductive Frame
  | list | object
  deriving DecidableEq, Repr

def Frame.closing : Frame → Char
  | .list => ']'
  | .object => '\x7d'

def Frame.endFault : Frame → Fault
  | .list => .endInList
  | .object => .endInObject

def Frame.commaFault : Frame → Fault
  | .list => .listCommaExpected
  | .object => .objectCommaExpected

/-- The rest of a literal after its first letter. -/
def readLiteral : List Char → List Char → Except Stop (List Char)
  | [], s => .ok s
  | _ :: _, [] => stopAt .endInValue []
  | l :: ls, c :: r => if c = l then readLiteral ls r else stopIn .literalExpected (c :: r)

/-- What comes after a value: nothing more, or another value inside a frame. -/
inductive Next
  | done (rest : List Char)
  | item (frames : List Frame) (rest : List Char)

def readColon (s : List Char) : Except Stop (List Char) :=
  match skipSpace s with
  | [] => stopAt .endInObject []
  | ':' :: r => .ok r
  | r => stopIn .colonExpected r

/-- Goes to the next item of the innermost frame; in an object, over its key. -/
def toItem (frame : Frame) (frames : List Frame) (s : List Char) : Except Stop Next :=
  match frame with
  | .list => .ok (.item (frame :: frames) s)
  | .object =>
    match skipSpace s with
    | [] => stopAt .endInObject []
    | '"' :: r => do
      let r ← skipText r
      let r ← readColon r
      return .item (frame :: frames) r
    | r => stopIn .textKeyExpected r

/-- Leaves the frames that end here, after a value. -/
def leave : List Frame → List Char → Except Stop Next
  | [], s => .ok (.done s)
  | frame :: frames, s =>
    match skipSpace s with
    | [] => stopAt frame.endFault []
    | c :: r =>
      if c = ',' then toItem frame frames r
      else if c = frame.closing then leave frames r
      else stopIn frame.commaFault (c :: r)

/-- Enters a frame that has just been opened. -/
def enter (frame : Frame) (frames : List Frame) (s : List Char) : Except Stop Next :=
  match skipSpace s with
  | [] => stopAt frame.endFault []
  | c :: r => if c = frame.closing then leave frames r else toItem frame frames (c :: r)

/-- Passes over the start of a value, or all of it if nothing is inside. -/
def skipItem (frames : List Frame) (s : List Char) : Except Stop Next :=
  match skipSpace s with
  | [] => stopAt .endInValue []
  | c :: r =>
    if c = 'n' then readLiteral ['u', 'l', 'l'] r >>= leave frames
    else if c = 't' then readLiteral ['r', 'u', 'e'] r >>= leave frames
    else if c = 'f' then readLiteral ['a', 'l', 's', 'e'] r >>= leave frames
    else if c = '-' then skipMagnitude r >>= leave frames
    else if startsWithDigit (c :: r) then skipMagnitude (c :: r) >>= leave frames
    else if c = '"' then skipText r >>= leave frames
    else if c = '[' then enter .list frames r
    else if c = '\x7b' then enter .object frames r
    else stopIn .valueExpected (c :: r)

/-- Passes over items until no frame is open. Each item takes a character, so as
many steps as there are characters are enough. -/
def skipItems : Nat → List Frame → List Char → Except Stop (List Char)
  | 0, _, s => stopAt .endInValue s
  | n + 1, frames, s => do
    match ← skipItem frames s with
    | .done rest => return rest
    | .item frames rest => skipItems n frames rest

def skipValue (s : List Char) : Except Stop (List Char) := skipItems (s.length + 1) [] s

end SimilarityClient.Json
