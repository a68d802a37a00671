import CauseTrail.Config.Loader
import CauseTrail.Transport

/-!
# The state of telemetry

A client holds options and a transport. A hub holds a stack of layers, each with a client or none;
only the top layer counts. There is one main hub, and each thread has a current hub of its own.
Clients share transports, hubs share clients, and an event may be kept by several transports, so
all of them are found in registries.

Identifiers and times come from two sources that are asked for one after the other; the state
counts how often each was asked.

## Main definitions

* `Client`, `Hub`, `Thread`: what telemetry is made of
* `Sources`: identifiers and times
* `Telemetry`: the state
-/

namespace CauseTrail

/-- What sends events: options and a transport. The options are the client's own; that two clients
are given one and the same object of options, and are both touched when it is set, is left out. -/
structure Client where
  options : Options
  transport : Ref Transport
deriving Repr

instance : Inhabited Client := ⟨{}, ⟨0⟩⟩

/-- A stack of layers, the top one first, and the identifier of the last event that was sent. -/
structure Hub where
  layers : List (Option (Ref Client))
  last? : Option Uuid := none
deriving Repr

instance : Inhabited Hub := ⟨[none], none⟩

/-- A thread of control. -/
structure Thread where
  index : Nat
deriving DecidableEq, Repr, Inhabited

/-- The thread that is there from the start. -/
def Thread.first : Thread := ⟨0⟩

/-- The identifiers and the times, in the order in which they are given out. -/
structure Sources where
  id : Nat → Uuid
  time : Nat → Timestamp

/-- The state of telemetry. -/
structure Telemetry where
  host : Host
  sources : Sources
  events : Registry Event := .empty
  transports : Registry Transport := .empty
  clients : Registry Client := .empty
  hubs : Registry Hub := .empty
  main? : Option (Ref Hub) := none
  current? : Thread → Option (Ref Hub) := fun _ => none
  /-- How many threads there have been. -/
  threads : Nat := 1
  /-- How many identifiers were given out. -/
  ids : Nat := 0
  /-- How many times the clock was read. -/
  readings : Nat := 0
  log : List LogEntry := []
  console : List Char := []

namespace Hub

/-- The hub whose only layer holds a client or none. -/
def ofClient (client? : Option (Ref Client)) : Hub := ⟨[client?], none⟩

/-- The client of the top layer. -/
def client? (h : Hub) : Option (Ref Client) := h.layers.head?.join

/-- The number of layers. -/
def depth (h : Hub) : Nat := h.layers.length

/-- A hub as it is shown. -/
def shown (h : Hub) : String := Value.call "Hub" [s!"layers={h.depth}"]

/-- The layers with the client of the top one replaced. -/
def replaceTop (client? : Option (Ref Client)) : List (Option (Ref Client)) →
    List (Option (Ref Client))
  | [] => []
  | _ :: below => client? :: below

/-- The hub with the client of the top layer replaced. -/
def bind (h : Hub) (client? : Option (Ref Client)) : Hub :=
  { h with layers := replaceTop client? h.layers }

/-- The hub with one layer more. -/
def push (h : Hub) (client? : Option (Ref Client)) : Hub :=
  { h with layers := client? :: h.layers }

/-- The hub without its top layer. -/
def pop (h : Hub) : Hub := { h with layers := h.layers.tail }

@[simp] theorem client?_ofClient (c? : Option (Ref Client)) : (ofClient c?).client? = c? := rfl

@[simp] theorem client?_push (h : Hub) (c? : Option (Ref Client)) : (h.push c?).client? = c? := rfl

@[simp] theorem depth_push (h : Hub) (c? : Option (Ref Client)) :
    (h.push c?).depth = h.depth + 1 := rfl

@[simp] theorem depth_bind (h : Hub) (c? : Option (Ref Client)) :
    (h.bind c?).depth = h.depth := by
  rcases h with ⟨_ | _, _⟩ <;> rfl

@[simp] theorem pop_push (h : Hub) (c? : Option (Ref Client)) : (h.push c?).pop = h := rfl

end Hub

namespace Telemetry

/-- The state with one more entry in the log. -/
def note (t : Telemetry) (e : LogEntry) : Telemetry := { t with log := t.log ++ [e] }

/-- The event of a reference. -/
def event (t : Telemetry) (e : Ref Event) : Event := t.events.get e

/-- The client of a reference. -/
def client (t : Telemetry) (c : Ref Client) : Client := t.clients.get c

/-- The hub of a reference. -/
def hub (t : Telemetry) (h : Ref Hub) : Hub := t.hubs.get h

/-- The transport of a reference. -/
def transport (t : Telemetry) (r : Ref Transport) : Transport := t.transports.get r

/-- The state with an event put in. -/
def addEvent (t : Telemetry) (e : Event) : Telemetry × Ref Event :=
  ({ t with events := t.events.add e }, t.events.next)

/-- The state with a transport put in. -/
def addTransport (t : Telemetry) (r : Transport) : Telemetry × Ref Transport :=
  ({ t with transports := t.transports.add r }, t.transports.next)

/-- The state with a client put in. -/
def addClient (t : Telemetry) (c : Client) : Telemetry × Ref Client :=
  ({ t with clients := t.clients.add c }, t.clients.next)

/-- The state with a hub put in. -/
def addHub (t : Telemetry) (h : Hub) : Telemetry × Ref Hub :=
  ({ t with hubs := t.hubs.add h }, t.hubs.next)

/-- The state with an event changed. -/
def changeEvent (t : Telemetry) (e : Ref Event) (f : Event → Event) : Telemetry :=
  { t with events := t.events.modify e f }

/-- The state with a hub changed. -/
def changeHub (t : Telemetry) (h : Ref Hub) (f : Hub → Hub) : Telemetry :=
  { t with hubs := t.hubs.modify h f }

/-- The state with the options of a client replaced. -/
def setOptions (t : Telemetry) (c : Ref Client) (o : Options) : Telemetry :=
  { t with clients := t.clients.modify c fun client => { client with options := o } }

/-- The state after one option of a client was set, which an issue prevents. No other client has the
same options. -/
def setOption (t : Telemetry) (c : Ref Client) (name : String) (v : Value) :
    Telemetry × Except (List Issue) Unit :=
  match (t.client c).options.set? name v with
  | .ok o => (t.setOptions c o, .ok ())
  | .error issues => (t, .error issues)

/-- The state after a transport forgot what it keeps. -/
def clear (t : Telemetry) (r : Ref Transport) : Telemetry :=
  { t with transports := t.transports.modify r Transport.cleared }

/-- A client as it is shown. -/
def shownClient (t : Telemetry) (c : Ref Client) : String :=
  let client := t.client c
  Value.call "Client" [s!"enabled={(Value.bool client.options.enabled).literal}",
    s!"transport={(t.transport client.transport).kind}"]

/-- A client or none as it is shown. -/
def shownClient? (t : Telemetry) (c? : Option (Ref Client)) : String :=
  (c?.map t.shownClient).getD Value.null.literal

end Telemetry

end CauseTrail
