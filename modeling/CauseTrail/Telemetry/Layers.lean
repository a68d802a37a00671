import CauseTrail.Telemetry.State

/-!
# Hubs, layers and threads

The client of the top layer of a hub can be replaced, and a layer can be put on top for a while.
When it is taken away again at another depth than it was put at, that is logged, and the layer
that is on top then goes.

The main hub and the current hub of a thread are made when they are asked for first. The current
hub of a thread starts with the client that the main hub has then. While a thread runs a body in a
hub, that hub is its current one; afterwards it has the one it had before, or none.

## Main definitions

* `Telemetry.bind`, `Telemetry.enter`, `Telemetry.leave`, `Telemetry.withClient`: layers
* `Telemetry.main`, `Telemetry.current`: the hubs that are made when asked for
* `Telemetry.run`, `Telemetry.inNewThread`: bodies with another current hub

## Main results

* `Telemetry.main_main`: asking again changes nothing
* `Telemetry.current?_run`: a body run in a hub leaves the slot of its thread as it was
-/

namespace CauseTrail.Telemetry

/-- The client that would send what is captured on a hub now: the one of the top layer, if it is
enabled. -/
def activeClient? (t : Telemetry) (h : Ref Hub) : Option (Ref Client) :=
  (t.hub h).client?.filter fun c => (t.client c).options.enabled

/-- Whether what is captured on a hub now would be sent. -/
def isActive (t : Telemetry) (h : Ref Hub) : Bool := (t.activeClient? h).isSome

/-! ## Layers -/

/-- The state with the client of the top layer of a hub replaced. -/
def bind (t : Telemetry) (h : Ref Hub) (c? : Option (Ref Client)) : Telemetry :=
  let t := t.changeHub h (·.bind c?)
  t.note (.bound (t.shownClient? c?) (t.hub h).shown)

/-- The state with a layer put on top of a hub, and the depth that the hub has with it. -/
def enter (t : Telemetry) (h : Ref Hub) (c? : Option (Ref Client)) : Telemetry × Nat :=
  let t := t.changeHub h (·.push c?)
  (t, (t.hub h).depth)

/-- The state with the top layer of a hub taken away, for one that was put there at a depth. -/
def leave (t : Telemetry) (h : Ref Hub) (pushed : Nat) : Telemetry :=
  let depth := (t.hub h).depth
  let t := if depth = pushed then t else t.note (.depthMismatch depth pushed)
  t.changeHub h Hub.pop

/-- The outcome of a body that runs with one more layer on top of a hub. -/
def withClient {α : Type} (t : Telemetry) (h : Ref Hub) (c? : Option (Ref Client))
    (body : Telemetry → Telemetry × α) : Telemetry × α :=
  let entered := t.enter h c?
  let done := body entered.1
  (done.1.leave h entered.2, done.2)

/-! ## The hubs of threads -/

/-- The state with its main hub. -/
def main (t : Telemetry) : Telemetry × Ref Hub :=
  match t.main? with
  | some h => (t, h)
  | none =>
    let added := t.addHub (.ofClient none)
    ({ added.1 with main? := some added.2 }, added.2)

/-- The state with the current hub of a thread replaced. -/
def setCurrent (t : Telemetry) (thread : Thread) (h? : Option (Ref Hub)) : Telemetry :=
  { t with current? := fun other => if other = thread then h? else t.current? other }

/-- The state with the current hub of a thread. -/
def current (t : Telemetry) (thread : Thread) : Telemetry × Ref Hub :=
  match t.current? thread with
  | some h => (t, h)
  | none =>
    let found := t.main
    let added := found.1.addHub (.ofClient (found.1.hub found.2).client?)
    (added.1.setCurrent thread (some added.2), added.2)

/-- The hub that is given, or else the current one. -/
def hubOrCurrent (t : Telemetry) (thread : Thread) : Option (Ref Hub) → Telemetry × Ref Hub
  | some h => (t, h)
  | none => t.current thread

/-- The outcome of a body that a thread runs in a hub. -/
def run {α : Type} (t : Telemetry) (thread : Thread) (h : Ref Hub)
    (body : Telemetry → Telemetry × α) : Telemetry × α :=
  let previous? := t.current? thread
  let done := body (t.setCurrent thread (some h))
  (done.1.setCurrent thread previous?, done.2)

/-- The outcome of a body that runs in a new thread while this one waits. -/
def inNewThread {α : Type} (t : Telemetry) (body : Thread → Telemetry → Telemetry × α) :
    Telemetry × α :=
  body ⟨t.threads⟩ { t with threads := t.threads + 1 }

/-- The identifier of the last event that was sent through the given hub, or else through the
current one. -/
def lastId? (t : Telemetry) (thread : Thread) (h? : Option (Ref Hub)) : Telemetry × Option Uuid :=
  let found := t.hubOrCurrent thread h?
  (found.1, (found.1.hub found.2).last?)

/-! ## Laws -/

@[simp] theorem current?_setCurrent (t : Telemetry) (thread : Thread) (h? : Option (Ref Hub)) :
    (t.setCurrent thread h?).current? thread = h? := by
  simp [setCurrent]

theorem current?_setCurrent_of_ne (t : Telemetry) {thread other : Thread} (h? : Option (Ref Hub))
    (h : other ≠ thread) : (t.setCurrent thread h?).current? other = t.current? other := by
  simp [setCurrent, h]

theorem main?_main (t : Telemetry) : t.main.1.main? = some t.main.2 := by
  unfold main
  split <;> simp_all

/-- The main hub is made once. -/
theorem main_main (t : Telemetry) : t.main.1.main = (t.main.1, t.main.2) := by
  rw [main, main?_main]

theorem current?_current (t : Telemetry) (thread : Thread) :
    (t.current thread).1.current? thread = some (t.current thread).2 := by
  unfold current
  split <;> simp_all

/-- A body that is run in a hub leaves the current hub as it was. -/
theorem current?_run {α : Type} (t : Telemetry) (thread : Thread) (h : Ref Hub)
    (body : Telemetry → Telemetry × α) :
    (t.run thread h body).1.current? thread = t.current? thread := by
  simp [run]

end CauseTrail.Telemetry
