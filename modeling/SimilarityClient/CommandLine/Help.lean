import SimilarityClient.CommandLine.Flag

/-! # Help texts

A short help has a line for each flag. A command one of whose flags explains
its values has a long help too, with a paragraph for each flag.
-/

namespace SimilarityClient.CommandLine

def spaces (n : Nat) : String := String.ofList (List.replicate n ' ')

def padTo (width : Nat) (s : String) : String := s ++ spaces (width - s.length)

def widest (names : List String) : Nat := (names.map String.length).foldl max 0

def table (rows : List (String × String)) : String :=
  let width := widest (rows.map (·.1))
  String.join (rows.map fun (name, meaning) => "  " ++ padTo width name ++ "  " ++ meaning ++ "\n")

namespace Flag

/-- The flag with its short form, or with the room for one. -/
def spelled (f : Flag) : String :=
  (match f.short with
    | some c => "-" ++ c.toString ++ ", "
    | none => "    ") ++ f.shown

def explainsValues (f : Flag) : Bool := f.value.any (·.kind == .format)

def standardText (f : Flag) : Option String := f.standard.map fun s => "[default: " ++ s ++ "]"

def choicesText (f : Flag) : Option String :=
  if f.explainsValues then
    some ("[possible values: " ++ ", ".intercalate (formats.map formatName) ++ "]")
  else none

def shortHelp (f : Flag) : String :=
  " ".intercalate (f.help :: f.standardText.toList ++ f.choicesText.toList)

end Flag

/-- Paragraphs stand ten spaces from the margin. -/
def indent : String := spaces 10

/-- The values of a flag, a line for each. -/
def choicesHelp : String :=
  let width := widest (formats.map formatName)
  "\n\n" ++ indent ++ "Possible values:" ++ String.join (formats.map fun f =>
    let name := formatName f
    "\n" ++ indent ++ "- " ++ name ++ ": " ++ spaces (width - name.length) ++ formatHelp f)

def Flag.longHelp (f : Flag) : String :=
  let standard := match f.standardText with
    | some s => "\n" ++ indent ++ "\n" ++ indent ++ s
    | none => ""
  indent ++ f.help ++ (if f.explainsValues then choicesHelp else "") ++ standard

namespace Command

def hasLongHelp (c : Command) : Bool := c.flags.any (·.explainsValues)

def usage (c : Command) : String :=
  let options := if c.flags = [] then "" else " [OPTIONS]"
  let operand := match c.operand with
    | some o => " " ++ o.shown
    | none => ""
  programName ++ " " ++ c.name ++ options ++ operand

/-- What the help flag says where there are two helps. -/
def otherHelp (long : Bool) : String :=
  if long then " (see a summary with '-h')" else " (see more with '--help')"

/-- The flags, as their help in one of its lengths shows them. -/
def helpFlags (c : Command) (long : Bool) : List Flag :=
  c.flags.map fun f =>
    if f = CommandLine.help ∧ c.hasLongHelp then { f with help := f.help ++ otherHelp long } else f

def shortSections (c : Command) : String :=
  let operands := match c.operand with
    | some o => "\nArguments:\n" ++ table [(o.shown, o.help)]
    | none => ""
  let flags := if c.flags = [] then ""
    else "\nOptions:\n" ++ table ((c.helpFlags false).map fun f => (f.spelled, f.shortHelp))
  operands ++ flags

def longSections (c : Command) : String :=
  let operands := match c.operand with
    | some o => "\nArguments:\n  " ++ o.shown ++ "\n" ++ indent ++ o.help ++ "\n"
    | none => ""
  let flags := "\n\n".intercalate
    ((c.helpFlags true).map fun f => "  " ++ f.spelled ++ "\n" ++ f.longHelp)
  operands ++ "\nOptions:\n" ++ flags ++ "\n"

def helpText (c : Command) (long : Bool) : String :=
  c.about ++ "\n\nUsage: " ++ c.usage ++ "\n" ++
    (if long && c.hasLongHelp then c.longSections else c.shortSections)

end Command

def programHelp : String :=
  programAbout ++ "\n\nUsage: " ++ programName ++ " [OPTIONS] <COMMAND>\n\nCommands:\n" ++
    table (Command.all.map fun c => (c.name, c.about)) ++ "\nOptions:\n" ++
    table (programFlags.map fun f => (f.spelled, f.shortHelp))

end SimilarityClient.CommandLine
