import CauseTrail.Event.Assembly
import CauseTrail.Telemetry.Delivery
import CauseTrail.Telemetry.Layers

/-!
# Capture

To capture an event through a hub is to look up the active client, to give the event an identifier
and a time if it has none, to send it with that client, and to record its identifier. Without an
active client nothing at all is done and the identifier is nil. To capture a fault is to look up
the active client first, and to build the event as its options say.

A fault can also be dispatched to any context that tells whether it is active and that captures
events. The two questions are separate: what was active when asked may be so no more when the
event comes.

## Main definitions

* `Telemetry.stamp`: an event with its identifier and its time
* `Telemetry.captureEvent`, `Telemetry.captureFault`: what is captured through a hub
* `ProcessingContext`, `Telemetry.dispatch`: what is captured through a context

## Main results

* `Telemetry.captureEvent_inactive`, `Telemetry.captureFault_inactive`: without an active client
  nothing changes
-/

namespace CauseTrail

/-- Why nothing is captured. -/
inductive CaptureError where
  /-- No event can be built of the fault. -/
  | fault (e : FaultError)
  /-- The event is not delivered. -/
  | delivery (e : DeliveryError)
deriving Repr

/-- The wording of a failure to capture. -/
def CaptureError.message : CaptureError → String
  | fault e => e.message
  | delivery e => e.message

namespace Telemetry

/-- The state with an identifier given to an event that has none. -/
def identify (t : Telemetry) (e : Ref Event) : Telemetry :=
  if (t.event e).id = .nil then
    { t.changeEvent e fun event => { event with id := t.sources.id t.ids } with ids := t.ids + 1 }
  else t

/-- The state with the time given to an event that has none. -/
def timestamp (t : Telemetry) (e : Ref Event) : Telemetry :=
  match (t.event e).timestamp? with
  | some _ => t
  | none =>
    { t.changeEvent e fun event =>
        { event with timestamp? := some (t.sources.time t.readings) } with
      readings := t.readings + 1 }

/-- The state with an identifier and a time given to an event as far as it has none. -/
def stamp (t : Telemetry) (e : Ref Event) : Telemetry := (t.identify e).timestamp e

/-- The state with the identifier of an event that was sent through a hub recorded; nil stands for
an event that was not sent. -/
def record (t : Telemetry) (h : Ref Hub) (id : Uuid) : Telemetry :=
  if id = .nil then t else t.changeHub h fun hub => { hub with last? := some id }

/-- An event stamped, sent with a client that was looked up before, and recorded on a hub. -/
def captureWith (t : Telemetry) (h : Ref Hub) (c : Ref Client) (e : Ref Event) :
    Telemetry × Except CaptureError Uuid :=
  match (t.stamp e).send c e with
  | (t, .ok id) => (t.record h id, .ok id)
  | (t, .error x) => (t, .error (.delivery x))

/-- An event captured through a hub. -/
def captureEvent (t : Telemetry) (h : Ref Hub) (e : Ref Event) :
    Telemetry × Except CaptureError Uuid :=
  match t.activeClient? h with
  | none => (t, .ok .nil)
  | some c => t.captureWith h c e

/-- The event of a fault, built as the options of a client say, and captured with that client. -/
def captureFaultWith (t : Telemetry) (h : Ref Hub) (c : Ref Client) (f : Fault) :
    Telemetry × Except CaptureError Uuid :=
  match Event.ofFaultDefault (t.client c).options.followContext f with
  | .error x => (t, .error (.fault x))
  | .ok event =>
    let added := t.addEvent event
    added.1.captureWith h c added.2

/-- A fault captured through a hub. -/
def captureFault (t : Telemetry) (h : Ref Hub) (f : Fault) : Telemetry × Except CaptureError Uuid :=
  match t.activeClient? h with
  | none => (t, .ok .nil)
  | some c => t.captureFaultWith h c f

/-- An event captured by a thread, through the given hub or else through the current one. -/
def captureEventFrom (t : Telemetry) (thread : Thread) (h? : Option (Ref Hub)) (e : Ref Event) :
    Telemetry × Except CaptureError Uuid :=
  let found := t.hubOrCurrent thread h?
  found.1.captureEvent found.2 e

/-- A fault captured by a thread, through the given hub or else through the current one. -/
def captureFaultFrom (t : Telemetry) (thread : Thread) (h? : Option (Ref Hub)) (f : Fault) :
    Telemetry × Except CaptureError Uuid :=
  let found := t.hubOrCurrent thread h?
  found.1.captureFault found.2 f

end Telemetry

/-- What faults are dispatched to: it tells whether it is active, and it captures events. -/
structure ProcessingContext where
  isActive : Telemetry → Telemetry × Bool
  capture : Telemetry → Ref Event → Telemetry × Except CaptureError Uuid

/-- A hub as a context. -/
def ProcessingContext.ofHub (h : Ref Hub) : ProcessingContext where
  isActive t := (t, t.isActive h)
  capture t e := t.captureEvent h e

namespace Telemetry

/-- A fault dispatched to a context: its event is built, contexts of exceptions included, if the
context is active, and is then captured by the context. -/
def dispatch (t : Telemetry) (context : ProcessingContext) (f : Fault) :
    Telemetry × Except CaptureError Uuid :=
  match context.isActive t with
  | (t, false) => (t, .ok .nil)
  | (t, true) =>
    match Event.ofFaultDefault true f with
    | .error x => (t, .error (.fault x))
    | .ok event =>
      let added := t.addEvent event
      context.capture added.1 added.2

theorem captureEvent_inactive {t : Telemetry} {h : Ref Hub} (e : Ref Event)
    (inactive : t.activeClient? h = none) : t.captureEvent h e = (t, .ok .nil) := by
  simp [captureEvent, inactive]

theorem captureFault_inactive {t : Telemetry} {h : Ref Hub} (f : Fault)
    (inactive : t.activeClient? h = none) : t.captureFault h f = (t, .ok .nil) := by
  simp [captureFault, inactive]

end Telemetry

end CauseTrail
