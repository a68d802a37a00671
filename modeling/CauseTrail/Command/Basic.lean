import CauseTrail.Options.Basic

/-!
# Commands

The command line knows five commands, and one option in place of a command that tells the version.

## Main definitions

* `Command`: the commands
* `Display`: how options and events are displayed
-/

namespace CauseTrail

/-- How options and events are displayed. -/
inductive Display where
  | table
  | json
deriving DecidableEq, Repr, Inhabited

namespace Display

/-- All ways to display. -/
def all : List Display := [table, json]

/-- The name of a way to display. -/
def name : Display → String
  | table => "table"
  | json => "json"

/-- The way to display of a name. -/
def ofName? (s : String) : Option Display := all.find? fun d => d.name = s

theorem ofName?_name (d : Display) : ofName? d.name = some d := by
  cases d <;> decide

end Display

/-- What is asked for on the command line. -/
inductive Command where
  /-- Tells the version in one line. -/
  | briefVersion
  /-- Tells the version and what the program runs on. -/
  | version
  /-- Writes a file that spells out all options into a directory. A file that is there already is
  kept unless it is forced. -/
  | create (directory : String) (transport : TransportKind) (environment : String) (force : Bool)
  /-- Shows the options that are loaded from the given file, or else from one that is searched in
  a directory, or tells only whether they are valid. -/
  | options (file? directory? : Option String) (display : Display) (checkOnly : Bool)
  /-- Prints the name of the type in a debug text. -/
  | typeName (text : String)
  /-- Captures a sample fault and shows its event. -/
  | demo (display : Display)
deriving DecidableEq, Repr

/-- The version. -/
def Command.versionNumber : String := "0.1.0"

end CauseTrail
