import CauseTrail.Proofs.Telemetry.CaptureStep
import Mathlib.Logic.ExistsUnique

/-!
# The outcomes of a capture

A capture is dropped, delivered or failed, and what it leaves behind tells which. It is dropped
when the top layer of the hub has no enabled client, and then nothing at all has changed. Otherwise
the transport of that client has received the event, once, and the identifier is recorded; or
nothing was delivered and the hubs are as they were.

## Main definitions

* `Subject`, `Way`, `Telemetry.capture`: what is captured, and how
* `Telemetry.Dropped`, `Telemetry.Delivered`, `Telemetry.Failed`: the outcomes
* `Outcome`, `Telemetry.Ends`: an outcome, and whether a capture ended with it

## Main results

* `Telemetry.exists_outcome`, `Telemetry.Ends.unique`: an outcome there is, and no other
* `Telemetry.existsUnique_outcome`: a capture ends with exactly one of the outcomes
-/

namespace CauseTrail

/-- What is captured: an event, or a fault of which an event is built. -/
inductive Subject where
  | event (e : Ref Event)
  | fault (f : Fault)

/-- How it is captured: through the hub itself, or by a thread that names the hub. -/
inductive Way where
  | ofHub
  | ofThread (thread : Thread)

namespace Subject

/-- The event that a client is to send for a subject. -/
def built (t : Telemetry) (c : Ref Client) : Subject → Except FaultError Event
  | event e => .ok (t.event e)
  | fault f => Event.ofFaultDefault (t.client c).options.followContext f

/-- Where the event of a subject is found: a built event is a new one. -/
def ref (t : Telemetry) : Subject → Ref Event
  | event e => e
  | fault _ => t.events.next

/-- The state with the event of a subject put in. -/
def put (t : Telemetry) (ev : Event) : Subject → Telemetry
  | event _ => t
  | fault _ => (t.addEvent ev).1

end Subject

namespace Telemetry

/-- A subject captured through a hub. -/
def capture (t : Telemetry) (h : Ref Hub) : Way → Subject → Telemetry × Except CaptureError Uuid
  | .ofHub, .event e => t.captureEvent h e
  | .ofHub, .fault f => t.captureFault h f
  | .ofThread thread, .event e => t.captureEventFrom thread (some h) e
  | .ofThread thread, .fault f => t.captureFaultFrom thread (some h) f

/-! ## The outcomes -/

/-- The client of the top layer of a hub, which is enabled. -/
structure ActiveClient (t : Telemetry) (h : Ref Hub) (c : Ref Client) : Prop where
  top : (t.hub h).client? = some c
  enabled : (t.client c).options.enabled = true

/-- A capture that was dropped: the top layer has no client or a disabled one. The state is the one
before it, and the answer is nil whatever was to be captured. -/
structure Dropped (t : Telemetry) (h : Ref Hub) (result : Telemetry × Except CaptureError Uuid) :
    Prop where
  inactive : ∀ c, (t.hub h).client? = some c → (t.client c).options.enabled = false
  eq : result = (t, .ok .nil)
  unexamined : ∀ way x, t.capture h way x = result

/-- The event that was built of a subject was stamped and filled in, which took from the sources
what it lacked. -/
def Handed (t : Telemetry) (x : Subject) (c : Ref Client) (t' : Telemetry) : Prop :=
  ∃ ev, x.built t c = .ok ev ∧
    t'.event (x.ref t) =
      (ev.stamped (t.sources.id t.ids) (t.sources.time t.readings)).filled (t.client c).options ∧
    t'.ids = t.ids + ev.idsTaken ∧ t'.readings = t.readings + ev.readingsTaken

/-- A capture that was delivered with an identifier, in the state that it left. -/
structure Delivered (t : Telemetry) (h : Ref Hub) (x : Subject) (c : Ref Client) (t' : Telemetry)
    (id : Uuid) : Prop where
  client : t.ActiveClient h c
  id_ne_nil : id ≠ .nil
  event_id : (t'.event (x.ref t)).id = id
  last_eq : (t'.hub h).last? = some id
  /-- The transport of the client received the event; other transports received nothing. -/
  received : t.Received t' (t.client c).transport (x.ref t)
  handed : t.Handed x c t'
  other_events : ∀ k, k ≠ x.ref t → t'.event k = t.event k
  layers_eq : ∀ k, (t'.hub k).layers = (t.hub k).layers
  other_hubs : ∀ k, k ≠ h → t'.hub k = t.hub k
  clients_eq : t'.clients = t.clients
  main_eq : t'.main? = t.main?
  current_eq : t'.current? = t.current?

/-- A capture that failed, in the state that it left: nothing is delivered, and the hubs are as they
were. One that failed as the event was built has changed nothing. -/
structure Failed (t : Telemetry) (h : Ref Hub) (x : Subject) (c : Ref Client) (t' : Telemetry)
    (error : CaptureError) : Prop where
  client : t.ActiveClient h c
  hubs_eq : t'.hubs = t.hubs
  transports_eq : t'.transports = t.transports
  host_eq : t'.host = t.host
  console_eq : t'.console = t.console
  clients_eq : t'.clients = t.clients
  main_eq : t'.main? = t.main?
  current_eq : t'.current? = t.current?
  other_events : ∀ k, k ≠ x.ref t → t'.event k = t.event k
  /-- It failed as the event was built, and then no identifier was given out and the clock was not
  read; or the transport refused the event that it was handed. -/
  cause : (∃ e, x.built t c = .error e ∧ error = .fault e ∧ t' = t) ∨
    (∃ d, error = .delivery d ∧ t.Handed x c t')

end Telemetry

/-- How a capture ends. -/
inductive Outcome where
  | dropped
  | delivered
  | failed
deriving DecidableEq

namespace Telemetry

/-- Whether a capture ended with an outcome. -/
def Ends (t : Telemetry) (h : Ref Hub) (x : Subject)
    (result : Telemetry × Except CaptureError Uuid) : Outcome → Prop
  | .dropped => t.Dropped h result
  | .delivered => ∃ c t' id, result = (t', .ok id) ∧ t.Delivered h x c t' id
  | .failed => ∃ c t' error, result = (t', .error error) ∧ t.Failed h x c t' error

variable {t t' : Telemetry} {h : Ref Hub} {c : Ref Client} {x : Subject} {way : Way}

theorem activeClient?_eq_some_iff : t.activeClient? h = some c ↔ t.ActiveClient h c := by
  simp only [activeClient?, Option.filter_eq_some_iff]
  exact ⟨fun ⟨top, enabled⟩ => ⟨top, enabled⟩, fun ⟨top, enabled⟩ => ⟨top, enabled⟩⟩

/-- A hub is not active without a client or with a disabled one. -/
theorem activeClient?_eq_none_iff :
    t.activeClient? h = none ↔
      ∀ c, (t.hub h).client? = some c → (t.client c).options.enabled = false := by
  simp [activeClient?, Option.filter_eq_none_iff]

/-- Without an active client the answer is nil, whatever is captured. -/
theorem capture_of_inactive (inactive : t.activeClient? h = none) (way : Way) (x : Subject) :
    t.capture h way x = (t, .ok .nil) := by
  cases way <;> cases x
  all_goals
    simp only [capture, captureEventFrom, captureFaultFrom, hubOrCurrent]
    first
    | exact captureEvent_inactive _ inactive
    | exact captureFault_inactive _ inactive

/-- With an active client the event is built, put in and captured with that client. -/
theorem capture_of_active (active : t.activeClient? h = some c) (way : Way) (x : Subject) :
    t.capture h way x =
      match x.built t c with
      | .error e => (t, .error (.fault e))
      | .ok ev => (x.put t ev).captureWith h c (x.ref t) := by
  cases way <;> cases x <;>
    simp only [capture, captureEventFrom, captureFaultFrom, hubOrCurrent, captureEvent,
      captureFault, active, captureFaultWith, Subject.built, Subject.put, Subject.ref] <;>
    rfl

/-- The prepared event was handed over. -/
theorem handed_prepared (t : Telemetry) (c : Ref Client) (e : Ref Event) :
    t.Handed (.event e) c (t.prepared c e) := by
  obtain ⟨log, ready⟩ := t.prepared_eq c e
  exact ⟨_, rfl, t.event_prepared c e, by rw [ready], by rw [ready]⟩

/-- A built event that was put in and handed over was handed over for its fault. -/
theorem Handed.of_addEvent {f : Fault} {ev : Event}
    (built : Event.ofFaultDefault (t.client c).options.followContext f = .ok ev)
    (handed : (t.addEvent ev).1.Handed (.event t.events.next) c t') : t.Handed (.fault f) c t' := by
  obtain ⟨ev', same, sent⟩ := handed
  obtain rfl : ev = ev' := by
    rw [← Except.ok.inj same]
    exact (Registry.get_add _ _).symm
  exact ⟨ev, built, sent⟩

/-- An event that is captured through an enabled client and answered with its identifier was
delivered. -/
theorem delivered_of_captureWith {e : Ref Event} {id : Uuid} (active : t.ActiveClient h c)
    (fresh : ∀ n, t.sources.id n ≠ .nil) (done : t.captureWith h c e = (t', .ok id)) :
    t.Delivered h (.event e) c t' id := by
  rw [captureWith_eq active.enabled] at done
  obtain ⟨log, ready⟩ := t.prepared_eq c e
  split at done
  · next s taken =>
    obtain ⟨received, transports, host, console, log, rfl⟩ := deliver_ok taken
    obtain ⟨rfl, same⟩ := Prod.mk.inj done
    obtain rfl := Except.ok.inj same
    have id_ne_nil : ((t.prepared c e).event e).id ≠ .nil := by
      rw [event_prepared, Event.id_filled]
      exact Event.id_stamped_ne_nil _ (fresh _)
    have hubs : (t.prepared c e).hubs = t.hubs := by rw [ready]
    -- Nil would stand for an event that was not sent, so the identifier is recorded.
    rw [record, if_neg id_ne_nil]
    refine ⟨active, id_ne_nil, rfl, ?_, ?_, t.handed_prepared c e,
      fun k hk => event_prepared_of_ne hk, ?_, ?_, ?_, ?_, ?_⟩
    · simp [changeHub, hub]
    · exact received.congr (by rw [ready]) (by rw [ready]) (by rw [ready]) rfl rfl rfl rfl
    · intro k
      simp only [changeHub, hub, hubs, Registry.modify, Registry.set]
      split
      · next hk => rw [hk]
      · rfl
    · intro k hk
      simp only [changeHub, hub, hubs, Registry.get_modify_of_ne _ _ hk]
    all_goals simp only [changeHub, ready]
  · next => cases done

/-- An event that is captured through an enabled client and refused was not delivered. -/
theorem failed_of_captureWith {e : Ref Event} {error : CaptureError} (active : t.ActiveClient h c)
    (done : t.captureWith h c e = (t', .error error)) : t.Failed h (.event e) c t' error := by
  rw [captureWith_eq active.enabled] at done
  obtain ⟨log, ready⟩ := t.prepared_eq c e
  split at done
  · cases done
  · next s d refused =>
    obtain rfl := deliver_error refused
    obtain ⟨rfl, same⟩ := Prod.mk.inj done
    obtain rfl := Except.error.inj same
    refine ⟨active, ?_, ?_, ?_, ?_, ?_, ?_, ?_, fun k hk => event_prepared_of_ne hk,
      .inr ⟨d, rfl, t.handed_prepared c e⟩⟩
    all_goals rw [ready]

/-- A built event that was put in and delivered was delivered for its fault. -/
theorem Delivered.of_addEvent {f : Fault} {ev : Event} {id : Uuid}
    (built : Event.ofFaultDefault (t.client c).options.followContext f = .ok ev)
    (d : (t.addEvent ev).1.Delivered h (.event t.events.next) c t' id) :
    t.Delivered h (.fault f) c t' id := by
  refine ⟨⟨d.client.top, d.client.enabled⟩, d.id_ne_nil, d.event_id, d.last_eq,
    d.received.congr rfl rfl rfl rfl rfl rfl rfl, d.handed.of_addEvent built, fun k hk => ?_,
    d.layers_eq, d.other_hubs, d.clients_eq, d.main_eq, d.current_eq⟩
  exact (d.other_events k hk).trans (Registry.get_add_of_ne _ _ hk)

/-- A built event that was put in and refused was not delivered for its fault. -/
theorem Failed.of_addEvent {f : Fault} {ev : Event} {error : CaptureError}
    (built : Event.ofFaultDefault (t.client c).options.followContext f = .ok ev)
    (d : (t.addEvent ev).1.Failed h (.event t.events.next) c t' error) :
    t.Failed h (.fault f) c t' error := by
  refine ⟨⟨d.client.top, d.client.enabled⟩, d.hubs_eq, d.transports_eq, d.host_eq, d.console_eq,
    d.clients_eq, d.main_eq, d.current_eq, fun k hk => ?_, ?_⟩
  · exact (d.other_events k hk).trans (Registry.get_add_of_ne _ _ hk)
  · obtain ⟨e, refused, -⟩ | ⟨x, same, handed⟩ := d.cause
    · cases refused
    · exact .inr ⟨x, same, handed.of_addEvent built⟩

/-- A capture with an active client ends as the event of the subject does. -/
theorem ends_of_captureWith (active : t.ActiveClient h c) (fresh : ∀ n, t.sources.id n ≠ .nil)
    (e : Ref Event) :
    t.Ends h (.event e) (t.captureWith h c e) .delivered ∨
      t.Ends h (.event e) (t.captureWith h c e) .failed := by
  rcases done : t.captureWith h c e with ⟨t', error | id⟩
  · exact .inr ⟨c, t', error, rfl, failed_of_captureWith active done⟩
  · exact .inl ⟨c, t', id, rfl, delivered_of_captureWith active fresh done⟩

/-- With an active client a capture is delivered or fails. -/
theorem ends_of_active (active : t.ActiveClient h c) (fresh : ∀ n, t.sources.id n ≠ .nil)
    (way : Way) (x : Subject) :
    t.Ends h x (t.capture h way x) .delivered ∨ t.Ends h x (t.capture h way x) .failed := by
  rw [capture_of_active (activeClient?_eq_some_iff.mpr active)]
  cases x with
  | event e => exact ends_of_captureWith active fresh e
  | fault f =>
    cases built : Event.ofFaultDefault (t.client c).options.followContext f with
    | error x =>
      refine .inr ⟨c, t, .fault x, by simp [Subject.built, built], active, rfl, rfl, rfl, rfl, rfl,
        rfl, rfl, fun _ _ => rfl, .inl ⟨x, built, rfl, rfl⟩⟩
    | ok ev =>
      simp only [Subject.built, built, Subject.put, Subject.ref]
      have there : (t.addEvent ev).1.ActiveClient h c := ⟨active.top, active.enabled⟩
      rcases ends_of_captureWith there fresh t.events.next with
        ⟨c', t', id, done, d⟩ | ⟨c', t', x, done, d⟩
      · obtain rfl : c = c' := Option.some.inj (active.top.symm.trans d.client.top)
        exact .inl ⟨c, t', id, done, d.of_addEvent built⟩
      · obtain rfl : c = c' := Option.some.inj (active.top.symm.trans d.client.top)
        exact .inr ⟨c, t', x, done, d.of_addEvent built⟩

/-- Without an active client a capture is dropped. -/
theorem dropped_of_inactive (inactive : t.activeClient? h = none) (way : Way) (x : Subject) :
    t.Dropped h (t.capture h way x) := by
  have same := capture_of_inactive inactive way x
  refine ⟨activeClient?_eq_none_iff.mp inactive, same, fun way' x' => ?_⟩
  rw [same, capture_of_inactive inactive]

/-- A capture ends with one of the outcomes. -/
theorem exists_outcome (t : Telemetry) (h : Ref Hub) (way : Way) (x : Subject)
    (fresh : ∀ n, t.sources.id n ≠ .nil) : ∃ o, t.Ends h x (t.capture h way x) o := by
  cases active : t.activeClient? h with
  | none => exact ⟨.dropped, dropped_of_inactive active way x⟩
  | some c =>
    have client := activeClient?_eq_some_iff.mp active
    rcases ends_of_active client fresh way x with delivered | failed
    · exact ⟨.delivered, delivered⟩
    · exact ⟨.failed, failed⟩

/-- No client was active in a capture that was dropped. -/
theorem Dropped.not_activeClient {result : Telemetry × Except CaptureError Uuid}
    (d : t.Dropped h result) (c : Ref Client) : ¬ t.ActiveClient h c := by
  intro active
  have disabled := d.inactive c active.top
  rw [active.enabled] at disabled
  cases disabled

/-- A capture ends with no more than one outcome. -/
theorem Ends.unique {result : Telemetry × Except CaptureError Uuid} {o o' : Outcome}
    (ended : t.Ends h x result o) (ended' : t.Ends h x result o') : o = o' := by
  -- The active client tells the first outcome from the others, and the answer tells these apart.
  cases o with
  | dropped =>
    cases o' with
    | dropped => rfl
    | delivered =>
      obtain ⟨c, _, _, _, d⟩ := ended'
      exact absurd d.client (Dropped.not_activeClient ended c)
    | failed =>
      obtain ⟨c, _, _, _, d⟩ := ended'
      exact absurd d.client (Dropped.not_activeClient ended c)
  | delivered =>
    obtain ⟨c, _, _, done, d⟩ := ended
    cases o' with
    | dropped => exact absurd d.client (Dropped.not_activeClient ended' c)
    | delivered => rfl
    | failed =>
      obtain ⟨_, _, _, done', -⟩ := ended'
      rw [done] at done'
      cases done'
  | failed =>
    obtain ⟨c, _, _, done, d⟩ := ended
    cases o' with
    | dropped => exact absurd d.client (Dropped.not_activeClient ended' c)
    | delivered =>
      obtain ⟨_, _, _, done', -⟩ := ended'
      rw [done] at done'
      cases done'
    | failed => rfl

/-- **The outcomes of a capture.** Whatever is captured through a hub, in whatever state, the
capture is dropped, delivered or failed, and only one of them. -/
theorem existsUnique_outcome (t : Telemetry) (h : Ref Hub) (way : Way) (x : Subject)
    (fresh : ∀ n, t.sources.id n ≠ .nil) : ∃! o, t.Ends h x (t.capture h way x) o := by
  obtain ⟨o, ended⟩ := t.exists_outcome h way x fresh
  exact ⟨o, ended, fun o' ended' => ended'.unique ended⟩

/-- A state with one hub, whose client keeps what it sends. Its identifiers are of the fourth
version. -/
def oneHub : Telemetry where
  host := ⟨.ofDirectory [], [], []⟩
  sources := ⟨fun n => .ofNat (0x40008000000000000000 + n % 0x1000000000000),
    fun n => .afterMidnight ⟨2024, 1, 1⟩ n⟩
  transports := Registry.empty.add (.memory [])
  clients := Registry.empty.add ⟨{}, ⟨0⟩⟩
  hubs := Registry.empty.add (.ofClient (some ⟨0⟩))

theorem id_oneHub_ne_nil (n : Nat) : oneHub.sources.id n ≠ .nil := by
  intro nil
  have number := congrArg (fun u : Uuid => u.bits.toNat) nil
  simp only [oneHub, Uuid.ofNat, Uuid.nil, BitVec.ofNat_eq_ofNat, BitVec.toNat_ofNat] at number
  omega

/-- The law for a hub with a client that is enabled. -/
theorem existsUnique_outcome_oneHub :
    (∀ n, oneHub.sources.id n ≠ .nil) ∧ oneHub.ActiveClient ⟨0⟩ ⟨0⟩ ∧
      ∃! o, oneHub.Ends ⟨0⟩ (.fault (.simple "Failure" "failed" none))
        (oneHub.capture ⟨0⟩ (.ofThread .first) (.fault (.simple "Failure" "failed" none))) o := by
  have fresh := id_oneHub_ne_nil
  exact ⟨fresh, ⟨rfl, rfl⟩, existsUnique_outcome oneHub ⟨0⟩ (.ofThread .first) _ fresh⟩

end Telemetry

end CauseTrail
