import CauseTrail.Event.Basic
import CauseTrail.Files.Path

/-!
# The log

What the library does on its own account is logged. An entry says what happened; its text begins
with the level and the name of the part that wrote it.

## Main definitions

* `LogEntry`: the entries
* `LogEntry.text`: an entry as it is written
-/

namespace CauseTrail

/-- What is worth a line of the log. -/
inductive LogEntry where
  | fileRead (path : Path)
  | fileLoaded (path : Path)
  | noFile
  /-- Variables override the options of these names. -/
  | overridden (names : List String)
  /-- A client, as it is shown, was bound to a hub. -/
  | bound (client hub : String)
  /-- A layer is taken away at another depth than it was put at. -/
  | depthMismatch (depth pushed : Nat)
  | sending (id : Uuid) (records : List Record)
  | written (id : Uuid) (path : Path)
deriving Repr

namespace LogEntry

/-- The level of an entry. -/
def level : LogEntry → String
  | fileLoaded _ => "INFO"
  | depthMismatch .. => "WARNING"
  | _ => "DEBUG"

/-- The part that wrote an entry. -/
def source : LogEntry → String
  | fileRead _ | fileLoaded _ | noFile | overridden _ => "errorchain.config.loader"
  | bound .. | depthMismatch .. => "errorchain.hub.hub"
  | sending .. => "errorchain.hub.client"
  | written .. => "errorchain.transport.base"

/-- A record in one phrase. -/
def phrase (r : Record) : String := r.type ++ ": " ++ r.value?.getD "None"

/-- The wording of an entry. -/
def message : LogEntry → String
  | fileRead path => "Read config file " ++ path.text
  | fileLoaded path => "Loaded errorchain config from " ++ path.text
  | noFile => "No errorchain config file found; using defaults."
  | overridden names => "Environment overrides: " ++ ", ".intercalate names
  | bound client hub => s!"Bound {client} to {hub}"
  | depthMismatch depth pushed =>
    s!"Hub layer stack depth {depth} does not match pushed depth {pushed}"
  | sending id records => s!"Sending event {id.hex}: " ++ ", ".intercalate (records.map phrase)
  | written id path => s!"Wrote event {id.hex} to {path.text}"

/-- An entry as it is written. -/
def text (e : LogEntry) : String := s!"{e.level} {e.source}: {e.message}"

end LogEntry

end CauseTrail
