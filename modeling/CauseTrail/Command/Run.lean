import CauseTrail.Command.Arguments
import CauseTrail.Console.Table
import CauseTrail.Telemetry.Capture
import CauseTrail.TypeName
import CauseTrail.Yaml.Printer

/-!
# Running commands

A command changes the state and leaves a report: what it printed, what it printed as an error, and
whether it succeeded. A command line that is not understood changes nothing. Paths in the messages
of the command that writes a file are taken as markup; other texts are printed as they are.

## Main definitions

* `Report`: what a command leaves
* `Command.run`: a command
* `Telemetry.commandLine`: a command line
-/

namespace CauseTrail

/-- What makes a command fail otherwise than with a message of its own. -/
inductive Escaped where
  | markup (e : Markup.Unmatched)
  | load (e : LoadError)
  | file (e : FileError)
deriving Repr

/-- The wording of such a failure. -/
def Escaped.message : Escaped → String
  | markup e => e.message
  | load e => e.message
  | file e => e.message

/-- What a command leaves. -/
structure Report where
  exit : Nat := 0
  out : List Char := []
  err : List Char := []
  escaped? : Option Escaped := none

namespace Report

/-- The report of a command line that is not understood. -/
def misused : Report := { exit := 2 }

/-- The report of a command that failed with something else than a message. -/
def escape (e : Escaped) : Report := { exit := 1, escaped? := some e }

/-- The report of a command that printed something, which may not be markup. -/
def printed : Except Markup.Unmatched (List Char) → Report
  | .ok out => { out }
  | .error e => escape (.markup e)

/-- The report of a command that printed a line with markup. -/
def line (markup : String) : Report := printed (Console.print markup.toList)

/-- The report of a command that failed with a message with markup. -/
def failed (markup : String) : Report :=
  match Console.print markup.toList with
  | .ok err => { exit := 1, err }
  | .error e => escape (.markup e)

end Report

namespace Command

/-! ## The version -/

/-- The version and what the program runs on. -/
def versionReport (platform : String) : Report :=
  Report.printed do
    let first ← Console.print s!"[bold]errorchain-sdk[/bold] v{versionNumber}".toList
    let second ← Console.print platform.toList
    return first ++ second

/-! ## Writing a file of options -/

/-- What a file of options begins with. -/
def header : String :=
  "# errorchain client options.\n" ++
  "# ERRORCHAIN_<OPTION> environment variables override these values and\n" ++
  "# ERRORCHAIN_CONFIG can point at another file.  A relative transport_path\n" ++
  "# is resolved against this file's directory.\n"

/-- The options that a new file spells out. -/
def newOptions (transport : TransportKind) (environment : String) : Options where
  transport := transport
  environment? := some environment
  transportPath? := if transport = .jsonl then some "events.jsonl" else none

/-- The directory that a file is written into. -/
def target (h : Host) (directory : String) : Path :=
  { (h.here.join (.ofText directory)).lexical with anchor := .top }

/-- The file that is written. -/
def newFile (h : Host) (directory : String) : Path := (target h directory).child Loader.mainFileName

/-- The content of a new file. -/
def newContent (o : Options) : List UInt8 := Text.utf8 (header ++ Yaml.write o.dump)

/-- The files after a new file was written, its directory with it, as far as that succeeds. -/
def writeNew (h : Host) (directory : String) (o : Options) : FileTree.Outcome :=
  match h.files.makeDirectory h.directory (target h directory) false with
  | (files, .error e) => (files, .error e)
  | (files, .ok _) =>
    files.outcome (files.write h.directory (newFile h directory) (newContent o))

/-- The report on a new file. -/
def writeReport (file : Path) : Except FileError Unit → Report
  | .ok _ => .line s!"[green]Wrote {file.text}[/green]"
  | .error e =>
    if e.fault.number?.isSome then .failed s!"Failed to write {file.text}: {e.message}"
    else .escape (.file e)

/-- A new file of options written into a directory. -/
def createIn (h : Host) (directory : String) (o : Options) (force : Bool) : FileTree × Report :=
  let file := newFile h directory
  match h.files.exists' h.directory file with
  | .error e => (h.files, .escape (.file e))
  | .ok there =>
    if there && !force then
      (h.files, .line (s!"[yellow]{file.text} already exists; " ++
        "use --force to replace it.[/yellow]"))
    else
      let written := writeNew h directory o
      (written.1, writeReport file written.2)

/-! ## Showing options -/

/-- The options that are shown, with the file they come from and what that file gives. -/
structure Shown where
  file? : Option Path
  options : Options
  fromFile : Mapping

/-- What is to be shown. -/
def loadShown (h : Host) (file? directory? : Option Path) : Except LoadError Shown := do
  let l : Loader := {}
  let chosen? ← l.chooseFile h file? directory?
  let options ← l.load h chosen? directory?
  let values ← Loader.fileValues h chosen?
  return ⟨chosen?, options, values⟩

/-- What is logged meanwhile. -/
def shownLog (h : Host) (file? directory? : Option Path) : List LogEntry :=
  let l : Loader := {}
  match l.chooseFile h file? directory? with
  | .error _ => []
  | .ok chosen? =>
    l.loadLog h chosen? directory? ++
      match l.load h chosen? directory?, chosen? with
      | .ok _, some p => Loader.readLog h p
      | _, _ => []

/-- Where the value of an option comes from. -/
def originOf (l : Loader) (h : Host) (fromFile : Mapping) (f : Options.Field) : String :=
  if (Mapping.get? (l.environmentValues h) f.name).isSome then l.lead ++ f.name.toUpper
  else if (Mapping.get? fromFile f.name).isSome then "file"
  else "default"

/-- The table of options. -/
def optionsTable (h : Host) (s : Shown) : Console.Table where
  title := "errorchain options (" ++ (s.file?.map Path.text).getD "no config file" ++ ")"
  columns := [⟨"option", false⟩, ⟨"value", false⟩, ⟨"source", false⟩]
  rows := Options.Field.all.map fun f =>
    [f.name, Markup.escape (s.options.get f).literal, originOf {} h s.fromFile f]

/-- A mapping in JSON over several lines; what cannot be written stands for none. -/
def pageOf (m : Mapping) : List Char :=
  match Json.write .page (.map m) with
  | .ok s => s.toList ++ ['\n']
  | .error _ => []

/-- The report on options. -/
def optionsReport (h : Host) (s : Shown) (display : Display) (checkOnly : Bool) : Report :=
  if checkOnly then
    let origin := Markup.escape (Loader.sourceName s.file?)
    .line s!"[green]Options from {origin} are valid.[/green]"
  else
    match display with
    | .json => { out := pageOf s.options.dump }
    | .table => .printed (optionsTable h s).draw

/-- The report on options that cannot be loaded. -/
def loadReport : LoadError → Report
  | .refused e => .failed ("Could not load options: " ++ Markup.escape e.message)
  | e => .escape (.load e)

/-- The options that are loaded, shown. -/
def showOptions (h : Host) (file? directory? : Option Path) (display : Display)
    (checkOnly : Bool) : Report :=
  match loadShown h file? directory? with
  | .error e => loadReport e
  | .ok s => optionsReport h s display checkOnly

/-! ## A sample -/

/-- The fault of the sample: a failed setting, caused by a text that is no number. -/
def sampleFault : Fault :=
  let cause := Raised.mk (.ofClass "ValueError"
    [.text "invalid literal for int() with base 10: 'NaN'"]) none none false
  .raised (.mk (.ofClass "RuntimeError" [.text "could not read retry count"]) (some cause)
    (some cause) true)

/-- The state after the sample was captured through a hub of its own, with the events that its
transport keeps. -/
def captureSample (t : Telemetry) : Telemetry × List Event :=
  let added := t.addTransport (.memory [])
  let client := added.1.addClient ⟨{}, added.2⟩
  let hub := client.1.addHub (.ofClient (some client.2))
  let t := (hub.1.captureFault hub.2 sampleFault).1
  (t, (t.transport added.2).kept.map t.event)

/-- The table of an event. -/
def eventTable (e : Event) : Console.Table where
  title := s!"event {e.id.hex} ({e.level.name})"
  columns := [⟨"#", true⟩, ⟨"type", false⟩, ⟨"value", false⟩]
  rows := e.records.zipIdx.map fun r => [toString r.2, r.1.type, r.1.value?.getD ""]

/-- The report on an event. -/
def eventReport (display : Display) (e : Event) : Report :=
  match display with
  | .json => { out := pageOf e.payload }
  | .table => .printed (eventTable e).draw

/-! ## All commands -/

/-- The name of the type in a debug text. -/
def typeNameReport (text : String) : Report :=
  let name := TypeName.ofDebug text
  if name = "" then .failed "No type name found (text starts with a delimiter)."
  else { out := name.toList ++ ['\n'] }

/-- The state after a command, with its report. `platform` tells what the program runs on. -/
def run (t : Telemetry) (platform : String) : Command → Telemetry × Report
  | .briefVersion => (t, { out := s!"cli, version {versionNumber}\n".toList })
  | .version => (t, versionReport platform)
  | .create directory transport environment force =>
    let created := createIn t.host directory (newOptions transport environment) force
    ({ t with host := { t.host with files := created.1 } }, created.2)
  | .options file? directory? display checkOnly =>
    let file? := file?.map Path.ofText
    let directory? := directory?.map Path.ofText
    ({ t with log := t.log ++ shownLog t.host file? directory? },
      showOptions t.host file? directory? display checkOnly)
  | .typeName text => (t, typeNameReport text)
  | .demo display =>
    let captured := captureSample t
    (captured.1, (captured.2.head?.map (eventReport display)).getD {})

end Command

/-- The state after a command line, with the report of its command. -/
def Telemetry.commandLine (t : Telemetry) (platform : String) (arguments : List String) :
    Telemetry × Report :=
  match Command.ofArguments? t.host arguments with
  | none => (t, .misused)
  | some c => c.run t platform

end CauseTrail
