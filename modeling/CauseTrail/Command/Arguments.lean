import CauseTrail.Command.Basic
import CauseTrail.Config.Loader

/-!
# Arguments

The first argument that is no option names the command; the arguments behind it are those of the
command. There, options and operands may come in any order. An option is written with two dashes
and its name, or with one dash and its letter; its value is attached with an equals sign to the
name, or directly to the letter, or is the next argument whatever that looks like. Behind two bare
dashes all arguments are operands. Of an option that is given again, the last value counts.

Some values are refused: a name that is not one of a choice, a directory where a file is to be
named, and a file where a directory is to be named.

## Main definitions

* `Switch`, `Given`: the options of a command, and what is given to it
* `Given.ofArguments?`: reading the arguments of a command
* `Command.ofArguments?`: reading a command line
-/

namespace CauseTrail

/-- An option of a command. -/
structure Switch where
  name : String
  letter? : Option Char := none
  takesValue : Bool := true
deriving DecidableEq, Repr

/-- What an argument gives to a command. -/
inductive Given where
  | value (name text : String)
  | flag (name : String)
  | operand (text : String)
deriving DecidableEq, Repr

namespace Given

/-- Whether an argument is written as an option. -/
def isOption (s : String) : Bool :=
  match s.toList with
  | '-' :: _ :: _ => true
  | _ => false

/-- The characters before the first equals sign, and those behind it. -/
def splitValue : List Char → List Char × Option (List Char)
  | [] => ([], none)
  | c :: cs =>
    if c = '=' then ([], some cs)
    else
      let (name, value?) := splitValue cs
      (c :: name, value?)

/-- What options give that are written by their letters, and the name of the one that waits for
its value. -/
def ofLetters? (switches : List Switch) : List Char → Option (List Given × Option String)
  | [] => some ([], none)
  | c :: cs =>
    match switches.find? fun s => s.letter? = some c with
    | none => none
    | some s =>
      if s.takesValue then
        if cs = [] then some ([], some s.name)
        else some ([.value s.name (String.ofList cs)], none)
      else (fun r => (.flag s.name :: r.1, r.2)) <$> ofLetters? switches cs

/-- What an argument gives that is written as an option, and the name of the option that waits for
its value. -/
def ofOption? (switches : List Switch) (s : String) : Option (List Given × Option String) :=
  match s.toList with
  | '-' :: '-' :: cs =>
    let (name, value?) := splitValue cs
    match switches.find? fun s => s.name = String.ofList name, value? with
    | none, _ => none
    | some s, some text =>
      if s.takesValue then some ([.value s.name (String.ofList text)], none) else none
    | some s, none =>
      if s.takesValue then some ([], some s.name) else some ([.flag s.name], none)
  | _ :: cs => ofLetters? switches cs
  | [] => none

/-- What arguments give behind an option that waits for its value, if one does. -/
def ofArgumentsFrom? (switches : List Switch) : (waiting : Option String) → List String →
    Option (List Given)
  | some _, [] => none
  | none, [] => some []
  | some name, s :: ss => (.value name s :: ·) <$> ofArgumentsFrom? switches none ss
  | none, s :: ss =>
    if s = "--" then some (ss.map .operand)
    else if isOption s then
      match ofOption? switches s with
      | none => none
      | some (given, waiting) => (given ++ ·) <$> ofArgumentsFrom? switches waiting ss
    else (.operand s :: ·) <$> ofArgumentsFrom? switches none ss

/-- What the arguments of a command with the given options give. -/
def ofArguments? (switches : List Switch) (ss : List String) : Option (List Given) :=
  ofArgumentsFrom? switches none ss

/-- The value that is given last to an option. -/
def value? (given : List Given) (name : String) : Option String :=
  (given.filterMap fun g =>
    match g with
    | .value n text => if n = name then some text else none
    | _ => none).getLast?

/-- Whether a flag is given. -/
def has (given : List Given) (name : String) : Bool := given.contains (.flag name)

/-- The operands. -/
def operands (given : List Given) : List String :=
  given.filterMap fun g =>
    match g with
    | .operand text => some text
    | _ => none

end Given

namespace Command

/-- What the text of a path leads to. An empty text leads nowhere, and one that ends in a slash, or
in a slash and a dot, does not lead to a file. -/
def leadsTo (h : Host) (s : String) : Option Entry :=
  if s = "" then none
  else
    match h.files.find h.directory (.ofText s) with
    | .ok (_, some (.file bytes)) =>
      if (Path.pieces s.toList).getLast?.any Path.isName then some (.file bytes) else none
    | .ok (_, e?) => e?
    | .error _ => none

/-- Whether a text can name a file. What is there can be read. -/
def canNameFile (h : Host) (s : String) : Bool := leadsTo h s ≠ some .directory

/-- Whether a text can name a directory. What is there can be read and searched. -/
def canNameDirectory (h : Host) (s : String) : Bool :=
  match leadsTo h s with
  | some (.file _) => false
  | _ => true

/-- The option that names a directory. -/
def directorySwitch : Switch := { name := "directory", letter? := some 'd' }

/-- The option that chooses how to display. -/
def displaySwitch : Switch := { name := "format" }

/-- How to display, a table by default. -/
def displayOf? (given : List Given) : Option Display :=
  match Given.value? given displaySwitch.name with
  | none => some .table
  | some name => Display.ofName? name

/-- The command that writes a file, of its arguments. -/
def createOf? (ss : List String) : Option Command := do
  let given ← Given.ofArguments? [directorySwitch, { name := "transport" },
    { name := "environment" }, { name := "force", takesValue := false }] ss
  let transport ← TransportKind.ofName? ((Given.value? given "transport").getD "console")
  guard (Given.operands given = [])
  return .create ((Given.value? given directorySwitch.name).getD ".") transport
    ((Given.value? given "environment").getD "development") (Given.has given "force")

/-- The command that shows options, of its arguments. -/
def optionsOf? (h : Host) (ss : List String) : Option Command := do
  let given ← Given.ofArguments? [{ name := "config", letter? := some 'c' }, directorySwitch,
    displaySwitch, { name := "validate", takesValue := false }] ss
  let file? := Given.value? given "config"
  let directory? := Given.value? given directorySwitch.name
  let display ← displayOf? given
  guard (file?.all (canNameFile h) ∧ directory?.all (canNameDirectory h))
  guard (Given.operands given = [])
  return .options file? directory? display (Given.has given "validate")

/-- The command that prints the name of a type, of its arguments. -/
def typeNameOf? (ss : List String) : Option Command := do
  let given ← Given.ofArguments? [] ss
  match Given.operands given with
  | [text] => return .typeName text
  | _ => none

/-- The command that shows a sample, of its arguments. -/
def demoOf? (ss : List String) : Option Command := do
  let given ← Given.ofArguments? [displaySwitch] ss
  let display ← displayOf? given
  guard (Given.operands given = [])
  return .demo display

/-- The command that tells the version, of its arguments. -/
def versionOf? (ss : List String) : Option Command := do
  let given ← Given.ofArguments? [] ss
  guard (Given.operands given = [])
  return .version

/-- A command of its name and its arguments. -/
def named? (h : Host) : List String → Option Command
  | "version" :: ss => versionOf? ss
  | "init" :: ss => createOf? ss
  | "config" :: ss => optionsOf? h ss
  | "parse-type" :: ss => typeNameOf? ss
  | "demo" :: ss => demoOf? ss
  | _ => none

/-- The command of a command line, or none if it is not understood. Whether the version was asked
for before the name of a command is told by `versionAsked`. -/
def ofArgumentsFrom? (h : Host) : (versionAsked : Bool) → List String → Option Command
  | versionAsked, s :: ss =>
    if s = "--version" then ofArgumentsFrom? h true ss
    else if s = "--" then if versionAsked then some .briefVersion else named? h ss
    else if Given.isOption s then none
    else if versionAsked then some .briefVersion
    else named? h (s :: ss)
  | versionAsked, [] => if versionAsked then some .briefVersion else none

/-- The command of a command line, or none if it is not understood. -/
def ofArguments? (h : Host) (ss : List String) : Option Command := ofArgumentsFrom? h false ss

end Command

end CauseTrail
