import SimilarityClient.Session
import SimilarityClient.Wire
import Std.Async.DNS
import Std.Async.System
import Std.Async.TCP
import Std.Async.Timer

/-! # The command line

Looks at the files that the arguments name, begins a session, carries its
request to the server and passes on what the session prints and writes.
-/

namespace SimilarityClient.Main

open CommandLine (Invocation Task)
open Text (Bytes)
open Std.Async (Async)

def textOf (loc : Location) : String := "/" ++ "/".intercalate loc

def locationOf (text : String) : Location :=
  ((Path.pieces text.toList).filter (· ≠ [])).map String.ofList

/-- The names of what stands in a directory, if it can be listed. -/
def lookInto (loc : Location) : IO (Option (List String)) := do
  try
    let place := (← IO.currentDir) / textOf loc
    return some ((← place.readDir).toList.map (·.fileName))
  catch _ => return none

/-- What stands at a location; the bytes of files are left out. -/
def look (loc : Location) : IO (Option Item) := do
  try
    let place := (← IO.currentDir) / textOf loc
    match (← place.symlinkMetadata).type with
    | .file => return some (.file [])
    | .dir => return some (if (← lookInto loc).isSome then .directory else .closed)
    | .symlink => return some (.link (← IO.FS.realPath place).toString)
    | .other => return some (.device false)
  catch _ => return none

def readFile (loc : Location) : IO Item := do
  try
    return .file (← IO.FS.readBinFile (textOf loc)).toList
  catch _ => return .locked

def addItem (tree : FileTree) (loc : Location) : IO FileTree := do
  if (tree.item? loc).isSome then return tree
  match ← look loc with
  | some item => return tree.put loc item
  | none => return tree

/-- Adds all that stands on the way down from a location. -/
def addWay (tree : FileTree) (loc : Location) : Location → IO FileTree
  | [] => return tree
  | name :: rest => do addWay (← addItem tree (loc ++ [name])) (loc ++ [name]) rest

/-- Adds all that stands along a walk, and tells where it leads. -/
def addWalk (tree : FileTree) (loc : Location) : List Step → IO (FileTree × Location)
  | [] => return (tree, loc)
  | .stay :: rest => addWalk tree loc rest
  | .up :: rest => addWalk tree loc.dropLast rest
  | .down name :: rest => do
    let here := loc ++ [name]
    let tree ← addItem tree here
    match tree.item? here with
    | some (.link target) =>
      addWalk (← addWay tree [] (locationOf target)) (locationOf target) rest
    | _ => addWalk tree here rest

/-- Adds what a path leads to, and what stands in it if it is a directory. -/
def addPath (tree : FileTree) (p : Path) : IO FileTree := do
  let (tree, loc) ← addWalk tree (FileTree.start tree.current p.text) (FileTree.steps p.text)
  if tree.item? loc = some .directory then
    ((← lookInto loc).getD []).foldlM
      (fun tree name => return (← addWalk tree loc [.down name]).1) tree
  else return tree

/-- Adds the bytes of a file that a path leads to. -/
def addContent (tree : FileTree) (p : Path) : IO FileTree := do
  match tree.locate p with
  | .ok loc => if tree.isFile p then return tree.put loc (← readFile loc) else return tree
  | .error _ => return tree

/-- The working directory, and the nearest file with definitions. -/
def home : IO FileTree := do
  let current := locationOf (← IO.currentDir).toString
  let tree ← addWay ⟨[], current⟩ [] current
  let above := (List.range (current.length + 1)).map current.take
  let tree ← above.foldlM (fun tree dir => return (← addWalk tree dir [.down ".env"]).1) tree
  match tree.findUpward ".env" (current.length + 1) current with
  | .ok loc => return tree.put loc (← readFile loc)
  | .error _ => return tree

def sentFiles (tree : FileTree) : Task → List SourceFile
  | .process options =>
    if options.dryRun then []
    else match Collection.selected tree options.paths options.extensions options.only with
      | .ok files => files
      | .error _ => []
  | _ => []

def treeFor (task : Task) : IO FileTree := do
  let tree ← task.paths.foldlM addPath (← home)
  let readFrom := (sentFiles tree task).map (·.path) ++ task.output?.toList
  readFrom.foldlM addContent tree

/-- A boundary that nobody can foresee. -/
def newBoundary : IO String := do
  let bytes ← IO.getRandomBytes 32
  return String.join (bytes.toList.map fun b =>
    String.ofList [Url.upperHex (b.toNat / 16), Url.upperHex (b.toNat % 16)])

def worldFor (task : Task) : IO World := do
  let env ← Std.Async.System.getEnv
  return { tree := ← treeFor task, env := env.get?, boundary := ← newBoundary }

def hostName (address : Url) : String :=
  String.ofList ((address.host.getD []).filter fun c => c != '[' && c != ']')

def socketAddress (port : UInt16) : Std.Net.IPAddr → Std.Net.SocketAddress
  | .v4 ip => .v4 ⟨ip, port⟩
  | .v6 ip => .v6 ⟨ip, port⟩

/-- The first connection that comes about. -/
def connectAny : List Std.Net.SocketAddress → Async (Option Std.Async.TCP.Socket.Client)
  | [] => return none
  | place :: rest => do
    try
      let socket ← Std.Async.TCP.Socket.Client.mk
      socket.connect place
      return some socket
    catch _ => connectAny rest

def connect (address : Url) : Async (Option Std.Async.TCP.Socket.Client) := do
  let port := (address.effectivePort.getD 0).toUInt16
  try
    let hosts ← Std.Async.DNS.getAddrInfo (hostName address) (toString port)
    connectAny (hosts.toList.map (socketAddress port))
  catch _ => return none

/-- All that a server sends, and whether it hangs up by itself. -/
partial def receive (socket : Std.Async.TCP.Socket.Client) (before : ByteArray) :
    Async (Bool × ByteArray) := do
  match ← (try some <$> socket.recv? 65536 catch _ => return none) with
  | some (some bytes) => receive socket (before ++ bytes)
  | some none => return (true, before)
  | none => return (false, before)

def dropped (address : Url) : Delivery := .failed (.dropped (String.ofList address.text))

/-- Connections are plain; an address that asks for more finds nobody. -/
def exchange (address : Url) (r : Request) : Async Delivery := do
  if address.scheme ≠ "http".toList then return .refused
  match ← connect address with
  | none => return .refused
  | some socket =>
    try
      socket.send ⟨(Wire.request address r).toArray⟩
      let (whole, message) ← receive socket ByteArray.empty
      return Wire.delivery address whole message.toList
    catch _ => return dropped address

instance : Inhabited Delivery := ⟨.refused⟩

/-- Gives up when the time is over. -/
def deliver (seconds : Nat) (address : Url) (r : Request) : IO Delivery :=
  let limit := Std.Time.Millisecond.Offset.ofNat (min (seconds * 1000) (Nat.pow 2 40))
  Async.block (Std.Async.Async.race (exchange address r) do
    Std.Async.sleep limit
    return dropped address)

def print (outcome : Outcome) : IO UInt32 := do
  IO.eprint outcome.stderr
  IO.print outcome.stdout
  return outcome.code.toUInt32

def content? (tree : FileTree) (p : Path) : Option Bytes := (tree.read p).toOption

def written? (before after : FileTree) (task : Task) : Option (Path × Bytes) := do
  let p ← task.output?
  let bytes ← content? after p
  if content? before p = some bytes then none else some (p, bytes)

def save (p : Path) (bytes : Bytes) : IO Bool := do
  try
    IO.FS.writeBinFile p.text ⟨bytes.toArray⟩
    return true
  catch _ => return false

/-- A tree with a file that may not be written. -/
def lock (tree : FileTree) (p : Path) : FileTree :=
  match tree.target FileTree.maxWalks (FileTree.start tree.current p.text)
      (Path.pieces p.text.toList) with
  | .ok loc => tree.put loc .locked
  | .error _ => tree

/-- Does a task. Where its file cannot be written, the outcome is that of a world
in which the file is locked. -/
def perform (i : Invocation) : IO UInt32 := do
  let world ← worldFor i.task
  match Session.begin world i with
  | .ended outcome => print outcome
  | .sending address request resume =>
    let seconds := match Session.config world i with
      | .ok c => c.timeout
      | .error _ => Config.defaultTimeout
    let delivery ← deliver seconds address request
    let outcome := resume delivery
    match written? world.tree outcome.tree i.task with
    | none => print outcome
    | some (p, bytes) =>
      if ← save p bytes then print outcome
      else
        let world := { world with tree := lock world.tree p }
        print ((Session.begin world i).settle delivery)

end SimilarityClient.Main

open SimilarityClient

def main (args : List String) : IO UInt32 :=
  match CommandLine.Invocation.ofArguments args with
  | .error refusal =>
    let world : World := { tree := FileTree.empty, env := fun _ => none, boundary := "" }
    Main.print (Session.refused world refusal)
  | .ok i => Main.perform i
