import SimilarityClient.CommandLine.Help
import SimilarityClient.Text.Numeral

/-! # Scanning arguments

Arguments are read from left to right. A flag or a run of operands stays open
until something else begins; then its values are checked and it is taken.
-/

namespace SimilarityClient.CommandLine

/-- Why nothing is run: a help text was asked for, or the usage is wrong. -/
inductive Refusal
  | help (text : String)
  | usage (message : String)
  | commandMissing
  deriving DecidableEq, Repr

/-- What is open. A flag may still wait for its value. -/
inductive Pending
  | none
  | flag (f : Flag) (value : Option String)
  | operands (values : List String)
  deriving DecidableEq, Repr

/-- Flags with their values, and operands, that have been taken, and what is open. -/
structure Scan where
  flags : List (Flag × Option String)
  operands : List String
  pending : Pending
  deriving DecidableEq, Repr

namespace Scan

def start : Scan := ⟨[], [], .none⟩

def refuse {α : Type} (message : String) : Except Refusal α := .error (.usage message)

def refuseMissingValue {α : Type} (shown : String) : Except Refusal α :=
  refuse ("a value is required for '" ++ shown ++ "' but none was supplied")

def refuseUnexpected {α : Type} (arg : String) : Except Refusal α :=
  refuse ("unexpected argument '" ++ arg ++ "' found")

def refuseUnknownCommand {α : Type} (arg : String) : Except Refusal α :=
  refuse ("unrecognized subcommand '" ++ arg ++ "'")

def invalidValue (f : Flag) (value : String) : String :=
  "invalid value '" ++ value ++ "' for '" ++ f.shown ++ "'"

def checkValue (f : Flag) (kind : ValueKind) (value : String) : Except Refusal Unit :=
  match kind with
  | .text => .ok ()
  | .path => if value = "" then refuseMissingValue f.shown else .ok ()
  | .seconds =>
    match Text.readUnsigned Text.max64 value.toList with
    | .ok _ => .ok ()
    | .error fault => refuse (invalidValue f value ++ ": " ++ fault.message)
  | .format =>
    if (readFormat? value).isSome then .ok ()
    else if value = "" then refuseMissingValue f.shown
    else refuse (invalidValue f value)

def take (s : Scan) (f : Flag) (value : Option String) : Except Refusal Scan := do
  if !f.repeatable && s.flags.any (·.1 == f) then
    refuse ("the argument '" ++ f.shown ++ "' cannot be used multiple times")
  else
    match f.value, value with
    | some v, some value => checkValue f v.kind value
    | _, _ => pure ()
    return { s with flags := s.flags ++ [(f, value)], pending := .none }

def settle (c : Command) (s : Scan) : Except Refusal Scan :=
  match s.pending with
  | .none => .ok s
  | .flag f none => refuseMissingValue f.shown
  | .flag f (some value) => s.take f (some value)
  | .operands values =>
    if values.contains "" then refuseMissingValue ((c.operand.map (·.shown)).getD "")
    else .ok { s with operands := s.operands ++ values, pending := .none }

def isWaiting (s : Scan) : Bool :=
  match s.pending with
  | .flag _ none => true
  | _ => false

/-- A flag begins, perhaps with a value that is written together with it. -/
def begin (c : Command) (helpText : Bool → String) (long : Bool) (s : Scan) (f : Flag)
    (attached : Option String) : Except Refusal Scan :=
  match f.value, attached with
  | some _, some value => do (← s.settle c).take f (some value)
  | some _, none => do return { (← s.settle c) with pending := .flag f none }
  | none, some value =>
    refuse ("unexpected value '" ++ value ++ "' for '" ++ f.shown ++
      "' found; no more were expected")
  | none, none => do
    let s ← s.settle c
    if f = help then .error (.help (helpText long)) else s.take f none

def splitEquals (s : List Char) : List Char × Option String :=
  match s.dropWhile (· != '=') with
  | _ :: r => (s.takeWhile (· != '='), some (String.ofList r))
  | [] => (s, none)

/-- Reads what follows two dashes. -/
def longFlag (c : Command) (helpText : Bool → String) (s : Scan) (text : List Char) :
    Except Refusal Scan :=
  let (name, attached) := splitEquals text
  match c.flags.find? (·.long.toList == name) with
  | some f => begin c helpText true s f attached
  | none => refuseUnexpected ("--" ++ String.ofList name)

/-- The value behind a short flag; an equals sign may stand between. -/
def attachedValue : List Char → Option String
  | [] => none
  | '=' :: r => some (String.ofList r)
  | r => some (String.ofList r)

/-- Reads what follows one dash: switches, and a flag with its value at the end. -/
def shortFlags (c : Command) (helpText : Bool → String) (s : Scan) :
    List Char → Except Refusal Scan
  | [] => .ok s
  | x :: r =>
    match c.flags.find? (·.short == some x) with
    | none => refuseUnexpected ("-" ++ x.toString)
    | some f =>
      if f.value.isSome then begin c helpText false s f (attachedValue r)
      else do shortFlags c helpText (← begin c helpText false s f none) r

/-- Reads a text that is the value of a waiting flag, or an operand. -/
def plain (c : Command) (s : Scan) (trailing : Bool) (arg : String) : Except Refusal Scan :=
  match s.pending with
  | .flag f none =>
    if trailing then refuseMissingValue f.shown
    else .ok { s with pending := .flag f (some arg) }
  | .operands values => .ok { s with pending := .operands (values ++ [arg]) }
  | _ =>
    if c.operand.isSome then do
      return { (← s.settle c) with pending := .operands [arg] }
    else refuseUnexpected arg

inductive Look
  | dashes
  | long (text : List Char)
  | short (text : List Char)
  | plain
  deriving DecidableEq, Repr

def look (arg : String) : Look :=
  match arg.toList with
  | ['-', '-'] => .dashes
  | '-' :: '-' :: r => .long r
  | ['-'] => .plain
  | '-' :: r => .short r
  | _ => .plain

/-- A command that takes operands needs one. -/
def finish (c : Command) (s : Scan) : Except Refusal Scan := do
  let s ← s.settle c
  if c.operand.isSome && s.operands = [] then
    refuse "the following required arguments were not provided:"
  else return s

/-- Reads the arguments of a command; after two dashes all are operands. -/
def ofCommand (c : Command) (s : Scan) (trailing : Bool) : List String → Except Refusal Scan
  | [] => s.finish c
  | arg :: rest =>
    if trailing then do ofCommand c (← s.plain c true arg) true rest
    else match look arg with
      | .dashes => ofCommand c s true rest
      | .long text => do ofCommand c (← s.longFlag c c.helpText text) false rest
      | .short text => do ofCommand c (← s.shortFlags c c.helpText text) false rest
      | .plain => do ofCommand c (← s.plain c false arg) false rest

/-- Finds the command whose help is asked for by name. -/
def helpFor : List String → Refusal
  | [] => .help programHelp
  | name :: rest =>
    match Command.find? name, rest with
    | none, _ => .usage ("unrecognized subcommand '" ++ name ++ "'")
    | some c, [] => .help (c.helpText true)
    | some _, extra :: _ => .usage ("unrecognized subcommand '" ++ extra ++ "'")

/-- The program itself, seen as a command without operands. -/
def program : Command where
  name := ""
  about := programAbout
  operand := none
  flags := programFlags

/-- The command, what stands before it and what its arguments are. -/
structure Whole where
  command : Command
  before : Scan
  inside : Scan
  deriving DecidableEq, Repr

/-- Reads the arguments of the program up to its command, and then those of the
command. What is open before the command is checked last. -/
def ofProgram (s : Scan) (trailing : Bool) : List String → Except Refusal Whole
  | [] => do
    let s ← s.settle program
    if s.flags = [] then .error .commandMissing
    else refuse ("'" ++ programName ++ "' requires a subcommand but one was not provided")
  | arg :: rest =>
    if trailing then
      if (Command.find? arg).isSome then refuseUnexpected arg else refuseUnknownCommand arg
    else if s.isWaiting && look arg = .plain then do
      ofProgram (← s.plain program false arg) false rest
    else match (if s.isWaiting then none else Command.find? arg) with
      | some c =>
        if c = Command.help then .error (helpFor rest)
        else do
          let inside ← ofCommand c .start false rest
          return ⟨c, ← s.settle program, inside⟩
      | none =>
        match look arg with
        | .dashes => ofProgram s true rest
        | .long text => do ofProgram (← s.longFlag program (fun _ => programHelp) text) false rest
        | .short text => do
          ofProgram (← s.shortFlags program (fun _ => programHelp) text) false rest
        | .plain => refuseUnknownCommand arg

def value? (s : Scan) (f : Flag) : Option String :=
  (s.flags.reverse.find? (·.1 == f)).bind (·.2)

def values (s : Scan) (f : Flag) : List String :=
  (s.flags.filter (·.1 == f)).filterMap (·.2)

def has (s : Scan) (f : Flag) : Bool := s.flags.any (·.1 == f)

end Scan

end SimilarityClient.CommandLine
