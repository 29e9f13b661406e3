import SimilarityClient.CommandLine.Scan
import SimilarityClient.Path

/-! # Invocations

What the arguments ask the program to do.
-/

namespace SimilarityClient.CommandLine

structure ProcessOptions where
  paths : List Path
  only : List String
  extensions : List String
  format : Report.Format
  output : Option Path
  dryRun : Bool
  deriving DecidableEq, Repr

inductive Task
  | process (options : ProcessOptions)
  | files (paths : List Path) (extensions : List String)
  | config
  | version
  deriving DecidableEq, Repr

namespace Task

def paths : Task → List Path
  | process options => options.paths ++ options.output.toList
  | files paths _ => paths
  | _ => []

def output? : Task → Option Path
  | process options => options.output
  | _ => none

end Task

structure Invocation where
  url : Option String
  timeout : Option Nat
  task : Task
  deriving DecidableEq, Repr

namespace Invocation

def extensions (s : Scan) : List String :=
  let given := s.values ext
  if given = [] then [Extension.standard] else given

def readSeconds (value : String) : Option Nat :=
  (Text.readUnsigned Text.max64 value.toList).toOption

def paths (s : Scan) : List Path := s.operands.map Path.mk

def processOptions (s : Scan) : ProcessOptions where
  paths := paths s
  only := s.values only
  extensions := extensions s
  format := ((s.value? format).bind readFormat?).getD .default
  output := (s.value? output).map Path.mk
  dryRun := s.has dryRun

def taskOf (c : Command) (s : Scan) : Task :=
  if c = Command.process then .process (processOptions s)
  else if c = Command.files then .files (paths s) (extensions s)
  else if c = Command.config then .config
  else .version

/-- Flags of the command count before those of the program. -/
def ofArguments (args : List String) : Except Refusal Invocation := do
  let whole ← Scan.ofProgram .start false args
  let value? (f : Flag) : Option String := (whole.inside.value? f).or (whole.before.value? f)
  return {
    url := value? CommandLine.url
    timeout := (value? CommandLine.timeout).bind readSeconds
    task := taskOf whole.command whole.inside }

end Invocation

end SimilarityClient.CommandLine
