import SimilarityClient.Extension
import SimilarityClient.Report.Render

/-! # Flags and commands

The flags that the program knows, with the texts that explain them, and the
commands that take them.
-/

namespace SimilarityClient.CommandLine

/-- What the value of a flag has to be. -/
inductive ValueKind
  | text | path | seconds | format
  deriving DecidableEq, Repr

structure Value where
  name : String
  kind : ValueKind
  deriving DecidableEq, Repr

/-- A flag; one without a value is a switch. -/
structure Flag where
  long : String
  short : Option Char
  value : Option Value
  repeatable : Bool
  help : String
  standard : Option String
  deriving DecidableEq, Repr

def Flag.shown (f : Flag) : String :=
  match f.value with
  | some v => "--" ++ f.long ++ " <" ++ v.name ++ ">"
  | none => "--" ++ f.long

def formatName : Report.Format → String
  | .table => "table"
  | .json => "json"
  | .csv => "csv"

def formatHelp : Report.Format → String
  | .table => "One `a - b -> NN.NN%` line per pair"
  | .json => "Pretty printed response body"
  | .csv => "`file1,file2,similarity` rows"

def formats : List Report.Format := [.table, .json, .csv]

def readFormat? (name : String) : Option Report.Format := formats.find? (formatName · == name)

def url : Flag where
  long := "url"
  short := none
  value := some ⟨"URL", .text⟩
  repeatable := false
  help := "Plagium core base URL (overrides PLAGIUM_URL / CORE_HOST + CORE_PORT)"
  standard := none

def timeout : Flag where
  long := "timeout"
  short := none
  value := some ⟨"TIMEOUT", .seconds⟩
  repeatable := false
  help := "Request timeout in seconds (overrides PLAGIUM_TIMEOUT_SECS)"
  standard := none

def only : Flag where
  long := "only"
  short := none
  value := some ⟨"NAME", .text⟩
  repeatable := true
  help := "Only submit these file names from the candidates (repeatable)"
  standard := none

def ext : Flag where
  long := "ext"
  short := some 'e'
  value := some ⟨"EXTENSIONS", .text⟩
  repeatable := true
  help := "Accepted file extension (repeatable)"
  standard := some Extension.standard

def format : Flag where
  long := "format"
  short := some 'f'
  value := some ⟨"FORMAT", .format⟩
  repeatable := false
  help := "Report format"
  standard := some (formatName .default)

def output : Flag where
  long := "output"
  short := some 'o'
  value := some ⟨"OUTPUT", .path⟩
  repeatable := false
  help := "Output file (default: stdout)"
  standard := none

def dryRun : Flag where
  long := "dry-run"
  short := none
  value := none
  repeatable := false
  help := "List the files without contacting the core"
  standard := none

/-- Asks for the help text; what it says of itself depends on the command. -/
def help : Flag where
  long := "help"
  short := some 'h'
  value := none
  repeatable := false
  help := "Print help"
  standard := none

/-- Values that stand without a flag. -/
structure Operand where
  shown : String
  help : String
  deriving DecidableEq, Repr

/-- A command, its flags in the order in which its help lists them. -/
structure Command where
  name : String
  about : String
  operand : Option Operand
  flags : List Flag
  deriving DecidableEq, Repr

namespace Command

def paths (help : String) : Operand := ⟨"<PATHS>...", help⟩

def process : Command where
  name := "process"
  about := "Compare the matching files found in the given paths"
  operand := some (paths "Directories to scan and/or individual files to send")
  flags := [only, url, ext, timeout, format, output, dryRun, CommandLine.help]

def files : Command where
  name := "files"
  about := "List the files that would be submitted"
  operand := some (paths "Directories to scan and/or individual files")
  flags := [ext, url, timeout, CommandLine.help]

def config : Command where
  name := "config"
  about := "Show the effective configuration"
  operand := none
  flags := [url, timeout, CommandLine.help]

def version : Command where
  name := "version"
  about := "Show the client version"
  operand := none
  flags := [url, timeout, CommandLine.help]

def help : Command where
  name := "help"
  about := "Print this message or the help of the given subcommand(s)"
  operand := some ⟨"[COMMAND]...", "Print help for the subcommand(s)"⟩
  flags := []

def all : List Command := [process, files, config, version, help]

def find? (name : String) : Option Command := all.find? (·.name == name)

end Command

def programName : String := "plagium"

def programAbout : String :=
  "Detect plagiarism between source files using the plagium core"

def programFlags : List Flag := [url, timeout, help]

end SimilarityClient.CommandLine
