import SimilarityClient.Path
import SimilarityClient.Text.Utf8

/-! # File trees

Every item stands at a location, the names that lead to it from the root. The
root is a directory. Walking a path follows links, up to a limit.
-/

namespace SimilarityClient

open Text (Bytes)

/-- A locked file may be neither read nor written, and a closed directory may be
gone through but not listed. A device gives no bytes and drops what it is given,
or refuses it when full. -/
inductive Item
  | file (content : Bytes)
  | locked
  | directory
  | closed
  | link (target : String)
  | device (full : Bool)
  deriving DecidableEq, Repr

def Item.isDirectory : Item → Bool
  | directory | closed => true
  | _ => false

inductive FileFault
  | notFound | denied | notDirectory | isDirectory | tooManyLinks | nameTooLong | noSpace
  | nulInName
  | other (text : String)
  deriving DecidableEq, Repr

def FileFault.message : FileFault → String
  | .notFound => "No such file or directory (os error 2)"
  | .denied => "Permission denied (os error 13)"
  | .notDirectory => "Not a directory (os error 20)"
  | .isDirectory => "Is a directory (os error 21)"
  | .noSpace => "No space left on device (os error 28)"
  | .nameTooLong => "File name too long (os error 36)"
  | .tooManyLinks => "Too many levels of symbolic links (os error 40)"
  | .nulInName => "file name contained an unexpected NUL byte"
  | .other text => text

abbrev Location := List String

/-- Items with their locations, and the working directory. -/
structure FileTree where
  items : List (Location × Item)
  current : Location
  deriving DecidableEq, Repr

/-- A step of a walk. Staying asks for a directory, as a trailing slash does. -/
inductive Step
  | stay | up
  | down (name : String)
  deriving DecidableEq, Repr

namespace Step

def ofPiece (piece : List Char) : Step :=
  if piece = [] ∨ piece = ['.'] then stay
  else if piece = ['.', '.'] then up
  else down (String.ofList piece)

end Step

namespace FileTree

variable (tree : FileTree)

def empty : FileTree := ⟨[], []⟩

def item? (loc : Location) : Option Item :=
  if loc = [] then some .directory
  else (tree.items.find? (·.1 == loc)).map (·.2)

def isDirectoryAt (loc : Location) : Bool := (tree.item? loc).any Item.isDirectory

def put (loc : Location) (item : Item) : FileTree :=
  if tree.items.any (·.1 == loc) then
    { tree with items := tree.items.map fun e => if e.1 == loc then (loc, item) else e }
  else { tree with items := tree.items ++ [(loc, item)] }

@[simp] theorem item?_nil : tree.item? [] = some .directory := rfl

@[simp] theorem current_put (loc : Location) (item : Item) :
    (tree.put loc item).current = tree.current := by
  unfold put; split <;> rfl

theorem find?_map_replace (loc here : Location) (item : Item) (items : List (Location × Item)) :
    ((items.map fun e => if e.1 == loc then (loc, item) else e).find? (·.1 == here)).map (·.2) =
      if here = loc ∧ items.any (·.1 == loc) then some item
      else (items.find? (·.1 == here)).map (·.2) := by
  induction items with
  | nil => simp
  | cons e es ih =>
    by_cases he : e.1 = loc
    · by_cases hh : here = loc
      · simp [he, hh]
      · have hl : loc ≠ here := fun h => hh h.symm
        simpa [he, hh, hl] using ih
    · by_cases hh : e.1 = here
      · have hl : here ≠ loc := fun h => he (hh.trans h)
        simp [hh, hl]
      · have hb : (e.1 == loc) = false := by simpa using he
        rw [List.any_cons, hb, Bool.false_or]
        simpa [he, hh] using ih

theorem item?_put (loc here : Location) (item : Item) (h : loc ≠ []) :
    (tree.put loc item).item? here = if here = loc then some item else tree.item? here := by
  by_cases hh : here = []
  · subst hh; simp [Ne.symm h]
  · unfold put
    split <;> rename_i ha
    · simp only [item?, hh, if_false, find?_map_replace, ha, and_true]
    · by_cases hl : here = loc
      · subst hl
        have : tree.items.find? (·.1 == here) = none := by
          rw [List.find?_eq_none]
          intro e he hb
          exact ha (List.any_eq_true.2 ⟨e, he, hb⟩)
        simp [item?, hh, this]
      · have : loc ≠ here := fun h => hl h.symm
        simp [item?, hh, hl, this]

/-- The longest name, and the length that no path reaches. -/
def maxName : Nat := 255
def pathLimit : Nat := 4096

def tooLong (name : String) : Bool := maxName < Text.byteLength name.toList

/-- How a walk ends: at a location, at a fault, or at a link before more steps. -/
inductive Walk
  | arrived (loc : Location)
  | failed (fault : FileFault)
  | linked (dir : Location) (target : String) (rest : List Step)

/-- Walks as far as there is no link. -/
def descend (loc : Location) : List Step → Walk
  | [] => .arrived loc
  | step :: rest =>
    if !tree.isDirectoryAt loc then .failed .notDirectory
    else match step with
      | .stay => descend loc rest
      | .up => descend loc.dropLast rest
      | .down name =>
        if tooLong name then .failed .nameTooLong
        else match tree.item? (loc ++ [name]) with
          | none => .failed .notFound
          | some (.link target) => .linked loc target rest
          | some _ => descend (loc ++ [name]) rest

def isAbsolute (s : List Char) : Bool := s.head? == some '/'

/-- Where a walk along a text begins. -/
def start (dir : Location) (text : String) : Location :=
  if isAbsolute text.toList then [] else dir

def steps (text : String) : List Step := (Path.pieces text.toList).map Step.ofPiece

/-- Walks on behind links; the first argument limits the walks between them. -/
def follow : Nat → Location → List Step → Except FileFault Location
  | 0, _, _ => .error .tooManyLinks
  | n + 1, loc, path =>
    match tree.descend loc path with
    | .arrived loc => .ok loc
    | .failed fault => .error fault
    | .linked dir target rest => follow n (start dir target) (steps target ++ rest)

/-- Forty links may be followed. -/
def maxWalks : Nat := 41

/-- Paths that no walk is begun for. -/
def checkPath (p : Path) : Except FileFault Unit :=
  if p.text.toList.contains '\x00' then .error .nulInName
  else if p.text = "" then .error .notFound
  else if pathLimit ≤ Text.byteLength p.text.toList then .error .nameTooLong
  else .ok ()

def locate (p : Path) : Except FileFault Location := do
  checkPath p
  tree.follow maxWalks (start tree.current p.text) (steps p.text)

/-- The item that a path leads to, links followed. -/
def stat (p : Path) : Except FileFault Item := do
  let loc ← tree.locate p
  match tree.item? loc with
  | some item => return item
  | none => throw .notFound

def isFile (p : Path) : Bool :=
  match tree.stat p with
  | .ok (.file _) | .ok .locked => true
  | _ => false

def isDirectory (p : Path) : Bool :=
  match tree.stat p with
  | .ok item => item.isDirectory
  | .error _ => false

def read (p : Path) : Except FileFault Bytes := do
  match ← tree.stat p with
  | .file content => return content
  | .locked => throw .denied
  | .device _ => return []
  | _ => throw .isDirectory

/-- The name of an item that stands directly in a directory. -/
def childName? (dir loc : Location) : Option String :=
  if loc.dropLast = dir then loc.getLast? else none

def children (dir : Location) : List String :=
  tree.items.filterMap fun e => childName? dir e.1

def list (p : Path) : Except FileFault (List String) := do
  let loc ← tree.locate p
  match tree.item? loc with
  | some .directory => return tree.children loc
  | some .closed => throw .denied
  | _ => throw .notDirectory

/-- The steps to the directory that a path ends in, and the name behind them. A
path that does not end in a name has no name; a slash at its end is passed over. -/
def ending (pieces : List (List Char)) : List Step × Option String :=
  match pieces.reverse with
  | [] => ([], none)
  | last :: before =>
    match Step.ofPiece last with
    | .down name => (before.reverse.map Step.ofPiece, some name)
    | .stay =>
      if last = [] then ((before.dropWhile (· = [])).tail.reverse.map Step.ofPiece, none)
      else (pieces.map Step.ofPiece, none)
    | .up => (pieces.map Step.ofPiece, none)

/-- Walks to a directory and finds the place for a name in it. A link under that
name is followed, whether or not it leads to an item. -/
def targetIn : Nat → Location → List Step × Option String → Except FileFault Location
  | 0, _, _ => .error .tooManyLinks
  | n + 1, dir, (path, name?) =>
    match tree.descend dir path with
    | .failed fault => .error fault
    | .linked dir text rest => targetIn n (start dir text) (steps text ++ rest, name?)
    | .arrived dir =>
      match name? with
      | none => .error .isDirectory
      | some name =>
        if !tree.isDirectoryAt dir then .error .notDirectory
        else if tooLong name then .error .nameTooLong
        else match tree.item? (dir ++ [name]) with
          | some (.link text) => targetIn n (start dir text) (ending (Path.pieces text.toList))
          | _ => .ok (dir ++ [name])

/-- The location that writing to a path creates or replaces. The last piece of
the path has to be a name. -/
def target (n : Nat) (dir : Location) (pieces : List (List Char)) : Except FileFault Location :=
  tree.targetIn n dir (ending pieces)

def writeAt (loc : Location) (content : Bytes) : Except FileFault FileTree :=
  match tree.item? loc with
  | some .directory | some .closed => .error .isDirectory
  | some .locked => .error .denied
  | some (.device full) => if full then .error .noSpace else .ok tree
  | _ => .ok (tree.put loc (.file content))

/-- Writes a file, a new one or over an old one. -/
def write (p : Path) (content : Bytes) : Except FileFault FileTree := do
  checkPath p
  let loc ← tree.target maxWalks (start tree.current p.text) (Path.pieces p.text.toList)
  tree.writeAt loc content

/-- Goes down to a directory, made where there is none. -/
def makeDirectoriesFrom (tree : FileTree) (dir : Location) : List (List Char) → FileTree
  | [] => tree
  | piece :: rest =>
    match Step.ofPiece piece with
    | .stay => makeDirectoriesFrom tree dir rest
    | .up => makeDirectoriesFrom tree dir.dropLast rest
    | .down name =>
      match tree.follow maxWalks dir [.down name] with
      | .ok loc => makeDirectoriesFrom tree loc rest
      | .error _ => makeDirectoriesFrom (tree.put (dir ++ [name]) .directory) (dir ++ [name]) rest

def makeDirectories (p : Path) : FileTree :=
  tree.makeDirectoriesFrom (start tree.current p.text) (Path.pieces p.text.toList)

def parent (p : Path) : Path :=
  let before := (Path.pieces p.text.toList).dropLast
  ⟨String.ofList (before.flatMap (· ++ ['/']))⟩

/-- Makes an item, and the directories that lead to it. -/
def make (p : Path) (item : Item) : FileTree :=
  let tree := tree.makeDirectories (parent p)
  match item with
  | .directory => tree.makeDirectories p
  | .file content => (tree.write p content).toOption.getD tree
  | item =>
    match tree.target maxWalks (start tree.current p.text) (Path.pieces p.text.toList) with
    | .ok loc => tree.put loc item
    | .error _ => tree

/-- A file of this name in the working directory or the nearest directory above. -/
def findUpward (name : String) : Nat → Location → Except FileFault Location
  | 0, _ => .error .notFound
  | n + 1, dir =>
    match tree.follow maxWalks dir [.down name] with
    | .ok loc =>
      match tree.item? loc with
      | some (.file _) | some .locked => .ok loc
      | _ => if dir = [] then .error .notFound else findUpward name n dir.dropLast
    | .error .notFound => if dir = [] then .error .notFound else findUpward name n dir.dropLast
    | .error fault => .error fault

def readUpward? (name : String) : Option Bytes :=
  match tree.findUpward name (tree.current.length + 1) tree.current with
  | .ok loc =>
    match tree.item? loc with
    | some (.file content) => some content
    | _ => none
  | .error _ => none

end FileTree

end SimilarityClient
