import SimilarityClient.Extension
import SimilarityClient.FileTree
import SimilarityClient.SourceFile
import SimilarityClient.Text.Numeral

/-! # Collecting files

The files to compare come from paths: a file stands for itself, a directory
for its direct entries with an accepted extension. The result is sorted and
free of repetitions; it may be narrowed to files of given names, and has to
leave a pair.
-/

namespace SimilarityClient

inductive CollectError
  | notFound (path : Path)
  | notSelected (name : String)
  | unreadable (path : Path) (fault : FileFault)
  | notEnough (found : Nat)
  deriving DecidableEq, Repr

namespace CollectError

def message : CollectError → String
  | notFound p => "No such file or directory: " ++ p.text
  | notSelected name => "No candidate file named '" ++ name ++ "'"
  | unreadable p fault => "Failed to read " ++ p.text ++ ": " ++ fault.message
  | notEnough found =>
    "Found " ++ String.ofList (Text.decimal found) ++ " matching file(s), at least 2 are required"

end CollectError

namespace Collection

/-- The entries of a directory that are files with an accepted extension. -/
def ofDirectory (tree : FileTree) (extensions : List String) (dir : Path) (names : List String) :
    List SourceFile :=
  ((names.map dir.join).filter fun p => tree.isFile p && Extension.accepts extensions p).map
    SourceFile.ofPath

/-- The files that one path stands for, the entries of a directory taken in some order. -/
def ofPathArranged (tree : FileTree) (extensions : List String)
    (arrange : List String → List String) (p : Path) : Except CollectError (List SourceFile) :=
  if tree.isFile p then .ok [SourceFile.ofPath p]
  else if tree.isDirectory p then
    match tree.list p with
    | .ok names => .ok (ofDirectory tree extensions p (arrange names))
    | .error fault => .error (.unreadable p fault)
  else .error (.notFound p)

def ofPath (tree : FileTree) (extensions : List String) (p : Path) :
    Except CollectError (List SourceFile) :=
  ofPathArranged tree extensions id p

def ofPaths (tree : FileTree) (extensions : List String) :
    List Path → Except CollectError (List SourceFile)
  | [] => .ok []
  | p :: ps => do
    let files ← ofPath tree extensions p
    let more ← ofPaths tree extensions ps
    return files ++ more

/-- All files that the paths stand for, in order and each once. -/
def collect (tree : FileTree) (paths : List Path) (extensions : List String) :
    Except CollectError (List SourceFile) := do
  let files ← ofPaths tree (Extension.normalize extensions) paths
  return SourceFile.dropRepeats (SourceFile.sort files)

/-- Keeps the files with one of the names; no names keep all. -/
def select (files : List SourceFile) (names : List String) :
    Except CollectError (List SourceFile) :=
  if names = [] then .ok files
  else match names.find? fun name => !files.any (·.name == name) with
    | some missing => .error (.notSelected missing)
    | none => .ok (files.filter fun f => names.contains f.name)

def requirePair (files : List SourceFile) : Except CollectError (List SourceFile) :=
  if files.length < 2 then .error (.notEnough files.length) else .ok files

def comparable (tree : FileTree) (paths : List Path) (extensions : List String) :
    Except CollectError (List SourceFile) := do
  requirePair (← collect tree paths extensions)

def selected (tree : FileTree) (paths : List Path) (extensions names : List String) :
    Except CollectError (List SourceFile) := do
  requirePair (← select (← collect tree paths extensions) names)

end Collection

end SimilarityClient
