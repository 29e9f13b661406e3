import SimilarityClient.Client
import SimilarityClient.Collection
import SimilarityClient.CommandLine.Invocation
import SimilarityClient.EnvFile
import SimilarityClient.Report.Render

/-! # Sessions

A session is one run of the program: from arguments, variables, files and
deliveries to what is printed, written and sent. The stages of a comparison follow
one another, and the first that fails ends the run with its message.
-/

namespace SimilarityClient

open CommandLine (Invocation ProcessOptions Task Refusal)
open Text (decimal)

inductive SessionError
  | config (e : ConfigError)
  | collect (e : CollectError)
  | client (e : ClientError)
  | render (text : String)
  | write (fault : FileFault)
  deriving DecidableEq, Repr

def SessionError.message : SessionError → String
  | .config e => "Configuration error: " ++ e.message
  | .collect e => e.message
  | .client e => e.message
  | .render text => "Output error: " ++ text
  | .write fault => "Failed to write output: " ++ fault.message

structure World where
  tree : FileTree
  env : Environment
  boundary : String
  lib : Libraries := .bare

structure Outcome where
  code : Nat
  stdout : String
  stderr : String
  tree : FileTree
  request : Option Request

namespace Session

def numeral (n : Nat) : String := String.ofList (decimal n)

def listedFrom (k : Nat) : List SourceFile → String
  | [] => ""
  | f :: fs => "   " ++ numeral k ++ ". " ++ f.path.text ++ "\n" ++ listedFrom (k + 1) fs

def selectedText (files : List SourceFile) : String :=
  "📂 Selected " ++ numeral files.length ++ " files\n" ++ listedFrom 1 files

def dryRunText : String := "\n🔍 Dry run, nothing submitted\n"

def submittingText (c : Config) : String := "\n📤 Submitting to " ++ c.processUrl ++ "\n"

def comparedText (r : Report) : String :=
  let highest := match r.highest? with
    | some x => "   Highest similarity: " ++ String.ofList x.twoPlaces ++ "%\n"
    | none => ""
  "✅ Compared " ++ numeral r.entries.length ++ " pairs\n" ++ highest

def writtenText (p : Path) : String := "💾 Output written to: " ++ p.text ++ "\n"

def noFilesText : String := "📋 No matching files found.\n"

def matchingText (files : List SourceFile) : String :=
  "📋 Matching files (" ++ numeral files.length ++ "):\n\n"

def pathLines (files : List SourceFile) : String :=
  String.join (files.map fun f => f.path.text ++ "\n")

def configText (c : Config) : String :=
  "Core URL:  " ++ c.baseUrl ++ "\nEndpoint:  " ++ c.processUrl ++ "\nTimeout:   " ++
    numeral c.timeout ++ "s\n"

def versionText : String := "Plagium Detector CLI v0.1.0\n"

def errorText (e : SessionError) : String := "❌ Error: " ++ e.message ++ "\n"

variable (world : World)

def done (stdout stderr : String) : Outcome := ⟨0, stdout, stderr, world.tree, none⟩

def fail (log : String) (e : SessionError) : Outcome :=
  ⟨1, "", log ++ errorText e, world.tree, none⟩

def refused : Refusal → Outcome
  | .help text => ⟨0, text, "", world.tree, none⟩
  | .usage message =>
    ⟨2, "", "error: " ++ message ++ "\n\nFor more information, try '--help'.\n", world.tree, none⟩
  | .commandMissing => ⟨2, "", CommandLine.programHelp, world.tree, none⟩

/-- The environment with what a file in the working directory, or above, defines. -/
def environment : Environment :=
  match world.tree.readUpward? ".env" with
  | some content => EnvFile.load world.env content
  | none => world.env

def config (i : Invocation) : Except ConfigError Config := do
  (← Config.ofEnvironment (environment world)).override i.url i.timeout

/-- A session has ended, or waits for a request to be delivered. -/
inductive Progress
  | ended (outcome : Outcome)
  | sending (address : Url) (request : Request) (resume : Delivery → Outcome)

def present (options : ProcessOptions) (log : String) (report : Report) : Outcome :=
  let log := log ++ comparedText report
  let text := report.render options.format
  match options.output with
  | none => done world text log
  | some p =>
    match world.tree.write p (Text.utf8 text.toList) with
    | .ok tree => { done world "" (log ++ writtenText p) with tree }
    | .error fault => fail world log (.write fault)

def resume (options : ProcessOptions) (log url : String) (request : Request)
    (delivery : Delivery) : Outcome :=
  let outcome := match Client.conclude world.lib url delivery with
    | .error e => fail world log (.client e)
    | .ok report => present world options log report
  { outcome with request := Client.taken? request delivery }

def submit (options : ProcessOptions) (c : Config) (files : List SourceFile) : Progress :=
  let log := selectedText files ++ submittingText c
  match Client.prepare world.lib world.tree world.boundary c.processUrl files with
  | .error e => .ended (fail world log (.client e))
  | .ok (address, request) =>
    .sending address request (resume world options log c.processUrl request)

def process (i : Invocation) (options : ProcessOptions) : Progress :=
  match config world i with
  | .error e => .ended (fail world "" (.config e))
  | .ok c =>
    match Collection.selected world.tree options.paths options.extensions options.only with
    | .error e => .ended (fail world "" (.collect e))
    | .ok files =>
      if options.dryRun then .ended (done world "" (selectedText files ++ dryRunText))
      else submit world options c files

def files (paths : List Path) (extensions : List String) : Outcome :=
  match Collection.collect world.tree paths extensions with
  | .error e => fail world "" (.collect e)
  | .ok [] => done world "" noFilesText
  | .ok files => done world (pathLines files) (matchingText files)

def showConfig (i : Invocation) : Outcome :=
  match config world i with
  | .error e => fail world "" (.config e)
  | .ok c => done world (configText c) ""

/-- Runs up to the point where a request has to be delivered. -/
def begin (i : Invocation) : Progress :=
  match i.task with
  | .process options => process world i options
  | .files paths extensions => .ended (files world paths extensions)
  | .config => .ended (showConfig world i)
  | .version => .ended (done world versionText "")

def Progress.settle (delivery : Delivery) : Progress → Outcome
  | .ended outcome => outcome
  | .sending _ _ resume => resume delivery

def Progress.finish (deliver : Url → Delivery) : Progress → Outcome
  | .ended outcome => outcome
  | .sending address _ resume => resume (deliver address)

def invoke (i : Invocation) (deliver : Url → Delivery) : Outcome := (begin world i).finish deliver

def start (args : List String) : Progress :=
  match Invocation.ofArguments args with
  | .error refusal => .ended (refused world refusal)
  | .ok i => begin world i

def run (args : List String) (deliver : Url → Delivery) : Outcome :=
  (start world args).finish deliver

end Session

end SimilarityClient
