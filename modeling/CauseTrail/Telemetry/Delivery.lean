import CauseTrail.Json.Printer
import CauseTrail.Event.Payload
import CauseTrail.Telemetry.State

/-!
# Delivery

A client that is enabled fills in what an event leaves open of release, environment and server
from its own options, logs the event if it is to, and hands it to its transport. The transport
takes the event as a whole or not at all: a line is complete before the file is opened for it.

## Main definitions

* `Event.filled`: an event with what options add to it
* `Telemetry.deliver`: an event handed to a transport
* `Telemetry.send`: an event sent by a client

## Main results

* `Telemetry.send_disabled`: a disabled client does nothing
-/

namespace CauseTrail

/-- The event with what options add to it: only what it leaves open is filled in. -/
def Event.filled (e : Event) (o : Options) : Event :=
  { e with
    release? := e.release?.or o.release?
    environment? := e.environment?.or o.environment?
    serverName? := e.serverName?.or o.serverName? }

/-- The line of an event in a file, or the first thing in the event that cannot be written. -/
def Event.line (e : Event) : Except Json.WriteError (List UInt8) :=
  (fun s => Text.utf8 (s ++ "\n")) <$> Json.write .line (.map e.payload)

namespace Telemetry

/-- Why the file at a path cannot be written. -/
def fileFailure (path : Path) (id : Uuid) (e : FileError) : DeliveryError :=
  if e.fault.number?.isSome then .unwritable path id e else .inaccessible e

/-- The state after an event was handed to a transport. -/
def deliver (t : Telemetry) (r : Ref Transport) (e : Ref Event) :
    Telemetry × Except DeliveryError Unit :=
  match t.transport r with
  | .null => (t, .ok ())
  | .failing => (t, .error .refused)
  | .memory events =>
    ({ t with transports := t.transports.set r (.memory (events ++ [e])) }, .ok ())
  | .console =>
    match Console.print (t.event e).markup.toList with
    | .error u => (t, .error (.markup u))
    | .ok shown => ({ t with console := t.console ++ shown }, .ok ())
  | .jsonl path =>
    match (t.event e).line with
    | .error x => (t, .error (.unencodable x))
    | .ok line =>
      match t.host.files.append t.host.directory path line with
      | .error x => (t, .error (fileFailure path (t.event e).id x))
      | .ok files =>
        (note { t with host := { t.host with files := files } } (.written (t.event e).id path),
          .ok ())

/-- The transport that appends to the file at a path, which is emptied first unless it is kept. -/
def openFile (t : Telemetry) (path : Path) (keep : Bool) :
    Telemetry × Except DeliveryError Transport :=
  if keep then (t, .ok (.jsonl path))
  else
    match t.host.files.write t.host.directory path [] with
    | .ok files => ({ t with host := { t.host with files := files } }, .ok (.jsonl path))
    | .error e =>
      (t, .error (if e.fault.number?.isSome then .untruncatable path e else .inaccessible e))

/-- The log of an event that a client is about to send. -/
def noteSending (t : Telemetry) (o : Options) (e : Ref Event) : Telemetry :=
  if o.debug then t.note (.sending (t.event e).id (t.event e).records) else t

/-- The state after a client sent an event, with the identifier of the event, which is nil if the
client is disabled. -/
def send (t : Telemetry) (c : Ref Client) (e : Ref Event) :
    Telemetry × Except DeliveryError Uuid :=
  let client := t.client c
  if client.options.enabled then
    let t := t.changeEvent e (·.filled client.options)
    match (t.noteSending client.options e).deliver client.transport e with
    | (after, .ok ()) => (after, .ok (t.event e).id)
    | (after, .error x) => (after, .error x)
  else (t, .ok .nil)

theorem send_disabled {t : Telemetry} {c : Ref Client} (e : Ref Event)
    (h : (t.client c).options.enabled = false) : t.send c e = (t, .ok .nil) := by
  simp [send, h]

end Telemetry

end CauseTrail
