import CauseTrail.Telemetry.Capture

/-!
# The steps of a capture

What each step of a capture changes, said once: the stamp touches one event and counts what it took
from the sources, the transport takes the event as a whole or leaves the state as it was, and the
identifier is recorded on one hub.

## Main definitions

* `Event.stamped`: an event with what the sources give to it
* `Telemetry.prepared`: the state in which a transport is handed an event
* `Telemetry.Received`: what one event more leaves behind in a transport

## Main results

* `Telemetry.stamp_eq`, `Telemetry.prepared_eq`: an event is stamped and filled in at one place
* `Telemetry.deliver_ok`, `Telemetry.deliver_error`: the transport receives the event, or nothing
  changes
* `Telemetry.captureWith_eq`: a capture through an enabled client, step by step
-/

namespace CauseTrail

namespace Event

/-- The event with an identifier, if it has none. -/
def identified (e : Event) (id : Uuid) : Event := { e with id := if e.id = .nil then id else e.id }

/-- The event with a time, if it has none. -/
def timed (e : Event) (time : Timestamp) : Event :=
  { e with timestamp? := some (e.timestamp?.getD time) }

/-- The event with an identifier and a time, as far as it has none. -/
def stamped (e : Event) (id : Uuid) (time : Timestamp) : Event := (e.identified id).timed time

/-- How many identifiers an event takes. -/
def idsTaken (e : Event) : Nat := if e.id = .nil then 1 else 0

/-- How many times the clock is read for an event. -/
def readingsTaken (e : Event) : Nat := if e.timestamp?.isNone then 1 else 0

variable {e : Event}

theorem identified_of_nil (id : Uuid) (h : e.id = .nil) :
    e.identified id = { e with id := id } := by
  rw [identified, if_pos h]

theorem identified_of_ne (id : Uuid) (h : e.id ≠ .nil) : e.identified id = e := by
  rw [identified, if_neg h]

theorem timed_of_none (time : Timestamp) (h : e.timestamp? = none) :
    e.timed time = { e with timestamp? := some time } := by
  rw [timed, h, Option.getD_none]

theorem timed_of_some {old : Timestamp} (time : Timestamp) (h : e.timestamp? = some old) :
    e.timed time = e := by
  rw [timed, h, Option.getD_some, ← h]

/-- An event that was stamped with an identifier has one. -/
theorem id_stamped_ne_nil {id : Uuid} (time : Timestamp) (h : id ≠ .nil) :
    (e.stamped id time).id ≠ .nil := by
  by_cases nil : e.id = .nil
  · simpa [stamped, timed, identified, nil] using h
  · simp [stamped, timed, identified, nil]

@[simp] theorem id_filled (o : Options) : (e.filled o).id = e.id := rfl

end Event

namespace Telemetry

variable {t s s' : Telemetry} {h : Ref Hub} {c : Ref Client} {e : Ref Event} {r : Ref Transport}

/-! ## The stamp -/

theorem identify_eq (t : Telemetry) (e : Ref Event) :
    t.identify e = { t with
      events := t.events.modify e (·.identified (t.sources.id t.ids))
      ids := t.ids + (t.event e).idsTaken } := by
  by_cases nil : (t.event e).id = .nil
  · have given : t.events.modify e (·.identified (t.sources.id t.ids)) =
        t.events.modify e fun ev => { ev with id := t.sources.id t.ids } :=
      Registry.modify_congr (Event.identified_of_nil _ nil)
    simp [identify, nil, changeEvent, Event.idsTaken, given]
  · have kept : t.events.modify e (·.identified (t.sources.id t.ids)) = t.events :=
      Registry.modify_of_eq (Event.identified_of_ne _ nil)
    simp [identify, nil, Event.idsTaken, kept]

theorem timestamp_eq (t : Telemetry) (e : Ref Event) :
    t.timestamp e = { t with
      events := t.events.modify e (·.timed (t.sources.time t.readings))
      readings := t.readings + (t.event e).readingsTaken } := by
  cases missing : (t.event e).timestamp? with
  | none =>
    have given : t.events.modify e (·.timed (t.sources.time t.readings)) =
        t.events.modify e fun ev => { ev with timestamp? := some (t.sources.time t.readings) } :=
      Registry.modify_congr (Event.timed_of_none _ missing)
    simp [timestamp, missing, changeEvent, Event.readingsTaken, given]
  | some time =>
    have kept : t.events.modify e (·.timed (t.sources.time t.readings)) = t.events :=
      Registry.modify_of_eq (Event.timed_of_some _ missing)
    simp [timestamp, missing, Event.readingsTaken, kept]

/-- The stamp is one change to the event, and counts what it took from the sources. -/
theorem stamp_eq (t : Telemetry) (e : Ref Event) :
    t.stamp e = { t with
      events := t.events.modify e (·.stamped (t.sources.id t.ids) (t.sources.time t.readings))
      ids := t.ids + (t.event e).idsTaken
      readings := t.readings + (t.event e).readingsTaken } := by
  rw [stamp, identify_eq, timestamp_eq]
  simp only [event, Registry.modify_modify, Registry.get_modify]
  rfl

/-! ## The event as it is handed over -/

/-- The state in which a client hands an event to its transport. -/
def prepared (t : Telemetry) (c : Ref Client) (e : Ref Event) : Telemetry :=
  ((t.stamp e).changeEvent e (·.filled (t.client c).options)).noteSending (t.client c).options e

/-- Until it is handed over, nothing but the event, the counts and the log changes. -/
theorem prepared_eq (t : Telemetry) (c : Ref Client) (e : Ref Event) :
    ∃ log, t.prepared c e = { t with
      events := t.events.modify e fun ev =>
        (ev.stamped (t.sources.id t.ids) (t.sources.time t.readings)).filled (t.client c).options
      ids := t.ids + (t.event e).idsTaken
      readings := t.readings + (t.event e).readingsTaken
      log := log } := by
  rw [prepared, stamp_eq, changeEvent, Registry.modify_modify, noteSending]
  split <;> exact ⟨_, rfl⟩

/-- The event as it is handed over. -/
theorem event_prepared (t : Telemetry) (c : Ref Client) (e : Ref Event) :
    (t.prepared c e).event e =
      ((t.event e).stamped (t.sources.id t.ids) (t.sources.time t.readings)).filled
        (t.client c).options := by
  obtain ⟨log, h⟩ := t.prepared_eq c e
  simp only [h, event, Registry.get_modify]

theorem event_prepared_of_ne {k : Ref Event} (hk : k ≠ e) :
    (t.prepared c e).event k = t.event k := by
  obtain ⟨log, h⟩ := t.prepared_eq c e
  simp only [h, event, Registry.get_modify_of_ne _ _ hk]

/-! ## The transport -/

/-- What one event more leaves behind in a transport: it is kept behind those before it, printed
behind what was printed, or added as a line to the file; no other transport is touched. -/
structure Received (s s' : Telemetry) (r : Ref Transport) (e : Ref Event) : Prop where
  others : ∀ q, q ≠ r → s'.transport q = s.transport q
  kept : s'.transport r =
    match s.transport r with
    | .memory events => .memory (events ++ [e])
    | other => other
  printed :
    match s.transport r with
    | .console => ∃ shown, Console.print (s'.event e).markup.toList = .ok shown ∧
        s'.console = s.console ++ shown
    | _ => s'.console = s.console
  written :
    match s.transport r with
    | .jsonl path => ∃ line files, (s'.event e).line = .ok line ∧
        s.host.files.append s.host.directory path line = .ok files ∧
        s'.host = { s.host with files := files }
    | _ => s'.host = s.host

/-- What is received depends on what was delivered before and is delivered now. -/
theorem Received.congr {u u' : Telemetry} (h : s.Received s' r e)
    (transports : u.transports = s.transports) (host : u.host = s.host)
    (console : u.console = s.console) (transports' : u'.transports = s'.transports)
    (host' : u'.host = s'.host) (console' : u'.console = s'.console)
    (events' : u'.events = s'.events) : u.Received u' r e := by
  obtain ⟨others, kept, printed, written⟩ := h
  constructor <;> simpa only [transport, event, transports, host, console, transports', host',
    console', events']

/-- A transport that takes an event receives it; only what was delivered and the log change. -/
theorem deliver_ok (h : s.deliver r e = (s', .ok ())) :
    s.Received s' r e ∧ ∃ transports host console log,
      s' = { s with transports := transports, host := host, console := console, log := log } := by
  -- Each transport leaves the event in one place, and the other places as they were.
  cases hr : s.transport r with
  | null =>
    simp only [deliver, hr, Prod.mk.injEq, and_true] at h
    subst h
    exact ⟨⟨fun _ _ => rfl, by simp [hr], by simp [hr], by simp [hr]⟩, _, _, _, _, rfl⟩
  | failing => simp [deliver, hr] at h
  | memory events =>
    simp only [deliver, hr, Prod.mk.injEq, and_true] at h
    subst h
    refine ⟨⟨fun q hq => Registry.get_set_of_ne _ _ hq, ?_, by simp [hr], by simp [hr]⟩,
      _, _, _, _, rfl⟩
    rw [hr]
    exact Registry.get_set _ _ _
  | console =>
    cases hc : Console.print (s.event e).markup.toList with
    | error x => simp [deliver, hr, hc] at h
    | ok shown =>
      simp only [deliver, hr, hc, Prod.mk.injEq, and_true] at h
      subst h
      refine ⟨⟨fun _ _ => rfl, by rw [hr]; exact hr, ?_, by simp [hr]⟩, _, _, _, _, rfl⟩
      rw [hr]
      exact ⟨shown, hc, rfl⟩
  | jsonl path =>
    cases hl : (s.event e).line with
    | error x => simp [deliver, hr, hl] at h
    | ok line =>
      cases hf : s.host.files.append s.host.directory path line with
      | error x => simp [deliver, hr, hl, hf] at h
      | ok files =>
        simp only [deliver, hr, hl, hf, Prod.mk.injEq, and_true] at h
        subst h
        refine ⟨⟨fun _ _ => rfl, by rw [hr]; exact hr, by simp [hr, note], ?_⟩, _, _, _, _, rfl⟩
        rw [hr]
        exact ⟨line, files, hl, hf, rfl⟩

/-- A transport that fails leaves everything as it was. -/
theorem deliver_error {x : DeliveryError} (h : s.deliver r e = (s', .error x)) : s' = s := by
  -- Whatever refuses the event does so before anything is changed.
  cases hr : s.transport r with
  | null => simp [deliver, hr] at h
  | failing =>
    simp only [deliver, hr, Prod.mk.injEq] at h
    exact h.1.symm
  | memory events => simp [deliver, hr] at h
  | console =>
    cases hc : Console.print (s.event e).markup.toList <;> simp [deliver, hr, hc] at h
    exact h.1.symm
  | jsonl path =>
    cases hl : (s.event e).line with
    | error x =>
      simp only [deliver, hr, hl, Prod.mk.injEq] at h
      exact h.1.symm
    | ok line =>
      cases hf : s.host.files.append s.host.directory path line <;>
        simp [deliver, hr, hl, hf] at h
      exact h.1.symm

/-! ## The capture as a whole -/

/-- A capture through an enabled client hands the prepared event to the transport, and records its
identifier if it was taken. -/
theorem captureWith_eq (enabled : (t.client c).options.enabled = true) :
    t.captureWith h c e =
      match (t.prepared c e).deliver (t.client c).transport e with
      | (s, .ok ()) => (s.record h ((t.prepared c e).event e).id, .ok ((t.prepared c e).event e).id)
      | (s, .error x) => (s, .error (.delivery x)) := by
  have same : (t.stamp e).client c = t.client c := by rw [stamp_eq]; rfl
  -- The log leaves the event alone, so the identifier in the answer is that of the event handed on.
  have logged : ((t.prepared c e).event e).id =
      (((t.stamp e).changeEvent e (·.filled (t.client c).options)).event e).id := by
    rw [prepared, noteSending]
    split <;> rfl
  have ready : ((t.stamp e).changeEvent e (·.filled (t.client c).options)).noteSending
      (t.client c).options e = t.prepared c e := rfl
  simp only [captureWith, send, same, enabled, if_true, ready, ← logged]
  rcases (t.prepared c e).deliver (t.client c).transport e with ⟨s, x | ⟨⟩⟩ <;> rfl

end Telemetry

end CauseTrail
