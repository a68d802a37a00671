import CauseTrail.Config.Error
import CauseTrail.Console.EventLine
import CauseTrail.Event.Basic
import CauseTrail.Json.Printer
import CauseTrail.Registry

/-!
# Transports

A transport delivers events. Four transports are built in and chosen by the options: one discards
every event, one keeps what was sent, one prints a line for each event, and one appends each event
to a file as a line of JSON. A fifth one refuses every event, for trying out what happens then.

## Main definitions

* `Transport`: the transports
* `Transport.ofValues?`, `Transport.ofOptions?`: the transport that options choose
* `DeliveryError`: why an event is not delivered
-/

namespace CauseTrail

/-- A way to deliver events. -/
inductive Transport where
  /-- Discards events. -/
  | null
  /-- Keeps events, the first one sent first. -/
  | memory (events : List (Ref Event))
  /-- Prints events. -/
  | console
  /-- Appends events to the file at a path. -/
  | jsonl (path : Path)
  /-- Refuses events. -/
  | failing
deriving Repr, Inhabited

/-- Why options choose no transport. -/
inductive Transport.ChoiceError where
  | refused (e : ConfigError)
  /-- The path is a value of the given kind and no text. -/
  | notAPath (kind : String)
deriving Repr

/-- The wording of a failure to choose a transport. -/
def Transport.ChoiceError.message : Transport.ChoiceError → String
  | .refused e => e.message
  | .notAPath kind =>
    if kind = (Value.bytes []).kind then
      "argument should be a str object or an os.PathLike object returning str, " ++
        s!"not <class '{kind}'>"
    else s!"expected str, bytes or os.PathLike object, not {kind}"

namespace Transport

/-- The name of the kind of a transport. -/
def kind : Transport → String
  | null => "NullTransport"
  | memory _ => "MemoryTransport"
  | console => "ConsoleTransport"
  | jsonl _ => "JSONFileTransport"
  | failing => "FailingTransport"

/-- The events that a transport keeps. -/
def kept : Transport → List (Ref Event)
  | memory events => events
  | _ => []

/-- The path of the file that a transport appends to. -/
def path? : Transport → Option Path
  | jsonl path => some path
  | _ => none

/-- A transport as it is shown. -/
def shown (t : Transport) : String := Value.call t.kind [s!"events={t.kept.length}"]

/-- The transport after it forgot what it keeps. -/
def cleared : Transport → Transport
  | memory _ => memory []
  | t => t

/-- The transport of a kind and a path that were not validated. -/
def ofValues? (kind path : Value) : Except ChoiceError Transport :=
  match kind with
  | .text name =>
    match TransportKind.ofName? name with
    | some .null => .ok .null
    | some .memory => .ok (.memory [])
    | some .console => .ok .console
    | some .jsonl =>
      match path with
      | .text s => if s = "" then .error (.refused .pathRequired) else .ok (.jsonl (.ofText s))
      | v => if v.truthy then .error (.notAPath v.kind) else .error (.refused .pathRequired)
    | none => .error (.refused (.unknownTransport kind))
  | _ => .error (.refused (.unknownTransport kind))

/-- The transport that options choose. -/
def ofOptions? (o : Options) : Except ChoiceError Transport :=
  ofValues? (o.get .transport) (o.get .transportPath)

end Transport

/-- Why an event is not delivered. -/
inductive DeliveryError where
  /-- The transport refuses all events. -/
  | refused
  /-- The file cannot be written. -/
  | unwritable (path : Path) (id : Uuid) (e : FileError)
  /-- The file cannot be emptied. -/
  | untruncatable (path : Path) (e : FileError)
  /-- An annotation holds what cannot be written. -/
  | unencodable (e : Json.WriteError)
  /-- The path cannot be looked up. -/
  | inaccessible (e : FileError)
  /-- The line for the console is no markup. -/
  | markup (e : Markup.Unmatched)
deriving Repr

namespace DeliveryError

/-- The wording of a failed delivery. -/
def message : DeliveryError → String
  | refused => "down"
  | unwritable path _ e => s!"Cannot write event to {path.text}: {e.message}"
  | untruncatable path e => s!"Cannot truncate event file {path.text}: {e.message}"
  | unencodable e => e.message
  | inaccessible e => e.message
  | markup e => e.message

/-- The context of a failed delivery. -/
def context : DeliveryError → Mapping
  | unwritable path id _ =>
    [(.text "path", .text path.text), (.text "event_id", .text id.hex)]
  | untruncatable path _ => [(.text "path", .text path.text)]
  | _ => []

end DeliveryError

end CauseTrail
