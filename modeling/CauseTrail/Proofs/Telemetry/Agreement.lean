import CauseTrail.Proofs.Event.ContextLinks
import CauseTrail.Proofs.Telemetry.CaptureOutcome
import CauseTrail.Proofs.Value.SelfEqual

/-!
# The ways to capture a fault

A fault can be captured through a hub, by a thread that names the hub, or by one who builds the
event first and captures that; it can also be dispatched to the hub. These ways look for a client
and build the event in different orders, and yet they do the same. Only the dispatch does not ask
the client whether contexts count: it always counts them. So it differs from the others for a client
that does not, and then in the event alone, for a fault whose chain ends at an exception with a
context.

## Main definitions

* `Telemetry.captureBuilt`: an event that is built first and captured then
* `Telemetry.handOver`: a prepared event handed to a transport
* `Fault.EndsInContext`: a chain that goes on where contexts count
* `Telemetry.WaysAgree`: what the ways to capture have in common

## Main results

* `Event.equal_iff_of_ofFault`: when a client hands over equal events for either setting
* `Telemetry.waysAgree`: the ways to capture a fault agree
-/

namespace CauseTrail

/-! ## Events for either setting -/

/-- A fault whose chain without contexts ends at an exception that has one. -/
def Fault.EndsInContext (f : Fault) : Prop :=
  ∃ links last, f.walk false = .ok links ∧ links.getLast? = some last ∧ last.fault.HasContext

/-- No link is added to a chain that does not end in a context. -/
theorem Fault.chain_true_eq {f : Fault} (ends : ¬ f.EndsInContext) :
    f.chain true = f.chain false := by
  cases hc : f.chain false with
  | error x => exact f.chain_error hc
  | ok chain =>
    obtain ⟨more, goesOn, none⟩ := f.exists_chain_append hc
    obtain ⟨links, walked, rfl⟩ := exists_walk_of_chain hc
    obtain rfl : more = [] := by
      rw [none, List.getLast?_map]
      intro last here context
      obtain ⟨l, isLast, rfl⟩ := Option.map_eq_some_iff.mp here
      exact ends ⟨links, l, walked, isLast, context⟩
    rwa [List.append_nil] at goesOn

namespace Event

variable {naming : TypeNaming} {follow : Bool} {f : Fault} {e e' : Event}

/-- Where the chain does not end in a context, the setting makes no difference. -/
theorem ofFault_true_eq (naming : TypeNaming) (ends : ¬ f.EndsInContext) :
    ofFault naming true f = ofFault naming false f := by
  rw [ofFault_eq_chain, ofFault_eq_chain, f.chain_true_eq ends]

/-- The event of a fault has more records with contexts if the chain ends in one. -/
theorem length_lt_of_endsInContext (made : ofFault naming false f = .ok e)
    (made' : ofFault naming true f = .ok e') (ends : f.EndsInContext) :
    e.records.length < e'.records.length := by
  obtain ⟨links, last, walked, isLast, context⟩ := ends
  obtain ⟨chain, more, records, added, hc, goesOn, count, he, he'⟩ :=
    exists_records_append made made'
  obtain rfl := Except.ok.inj ((Fault.chain_of_walk walked).symm.trans hc)
  obtain ⟨more', goesOn', none⟩ := f.exists_chain_append hc
  obtain rfl := List.append_cancel_left (Except.ok.inj (goesOn.symm.trans goesOn'))
  have some : more ≠ [] := by
    intro nil
    exact none.mp nil last.fault (by rw [List.getLast?_map, isLast]; rfl) context
  have positive : 0 < added.length := count ▸ List.length_pos_iff.mpr some
  rw [he, he', List.length_reverse, List.length_reverse, List.length_append]
  omega

theorem length_records_eq_of_equalRecords {as bs : List Record} (same : equalRecords as bs = true) :
    as.length = bs.length := by
  fun_induction equalRecords as bs with
  | case1 => rfl
  | case2 a as b bs ih =>
    rw [Bool.and_eq_true] at same
    rw [List.length_cons, List.length_cons, ih same.2]
  | case3 => cases same

/-- Equal events have as many records. -/
theorem length_records_eq (same : e.equal e' = true) : e.records.length = e'.records.length := by
  simp only [equal, Bool.and_eq_true] at same
  exact length_records_eq_of_equalRecords same.1.1.1.1

/-- The records of a fault have no mechanism, and so its event is free of not-a-number. -/
theorem nanFree_of_ofFault (made : ofFault naming follow f = .ok e) : e.NanFree := by
  obtain ⟨chain, records, -, recorded, rfl⟩ := ofFault_eq_ok_iff.mp made
  refine ⟨fun r there => ?_, rfl⟩
  obtain ⟨g, -, of_g⟩ := Except.exists_of_mem_mapM recorded r (List.mem_reverse.mp there)
  rw [Record.ofFault_eq] at of_g
  obtain ⟨debug, -, of_g⟩ := Except.bind_eq_ok_iff.mp of_g
  obtain ⟨display, -, of_g⟩ := Except.bind_eq_ok_iff.mp of_g
  obtain rfl := Except.ok.inj of_g
  rintro m ⟨⟩

/-- **Events for either setting**, stamped and filled in alike, are equal just when the chain does
not end in a context. -/
theorem equal_iff_of_ofFault (made : ofFault naming false f = .ok e)
    (made' : ofFault naming true f = .ok e') (id : Uuid) (time : Timestamp) (o : Options) :
    ((e'.stamped id time).filled o).equal ((e.stamped id time).filled o) = true ↔
      ¬ f.EndsInContext := by
  constructor
  · intro same ends
    have more := length_lt_of_endsInContext made made' ends
    have equal := length_records_eq same
    change e'.records.length = e.records.length at equal
    omega
  · intro ends
    obtain rfl : e' = e := by
      rw [ofFault_true_eq naming ends, made] at made'
      exact (Except.ok.inj made').symm
    have free := nanFree_of_ofFault made
    exact equal_self ⟨free.records, free.extra⟩

/-- A context is a second record only where contexts count. -/
example :
    let f : Fault := .raised (.mk (.ofClass "KeyError" [.text "k"]) none
      (some (.mk (.ofClass "ValueError" []) none none false)) false)
    ∃ e e', ofFaultDefault false f = .ok e ∧ ofFaultDefault true f = .ok e' ∧
      e.records.length = 1 ∧ e'.records.length = 2 := by
  intro f
  rw [ofFaultDefault, ofFaultDefault, ofFault_eq_chain, ofFault_eq_chain]
  exact ⟨_, _, rfl, rfl, rfl, rfl⟩

end Event

namespace Telemetry

/-! ## The ways -/

/-- A fault captured by one who builds its event first, and captures that through a hub. -/
def captureBuilt (t : Telemetry) (h : Ref Hub) (follow : Bool) (f : Fault) :
    Telemetry × Except CaptureError Uuid :=
  match Event.ofFaultDefault follow f with
  | .error x => (t, .error (.fault x))
  | .ok ev =>
    let added := t.addEvent ev
    added.1.captureEvent h added.2

/-- A prepared event handed to a transport, and recorded on a hub if the transport takes it. -/
def handOver (t : Telemetry) (h : Ref Hub) (r : Ref Transport) (e : Ref Event) :
    Telemetry × Except CaptureError Uuid :=
  match t.deliver r e with
  | (s, .ok ()) => (s.record h (t.event e).id, .ok (t.event e).id)
  | (s, .error x) => (s, .error (.delivery x))

/-- The state in which a client hands over an event that was built for it. -/
def preparedFor (t : Telemetry) (c : Ref Client) (ev : Event) : Telemetry :=
  (t.addEvent ev).1.prepared c t.events.next

/-- What the ways to capture a fault have in common. -/
structure WaysAgree (t : Telemetry) (h : Ref Hub) (f : Fault) : Prop where
  /-- Without an active client nothing changes and the answer is nil, be it a fault or not. -/
  inactive : t.activeClient? h = none → t.captureFault h f = (t, .ok .nil) ∧
    (∀ thread, t.captureFaultFrom thread (some h) f = (t, .ok .nil)) ∧
    t.dispatch (.ofHub h) f = (t, .ok .nil)
  /-- With one, a thread that names the hub, and one who builds the event as the client would, do
  what the hub does: they answer the same and leave the same state. -/
  active : ∀ c, t.ActiveClient h c →
    (∀ thread, t.captureFaultFrom thread (some h) f = t.captureFault h f) ∧
    t.captureBuilt h (t.client c).options.followContext f = t.captureFault h f
  /-- They refuse what no event can be built of, and hand over the event otherwise. -/
  handed : ∀ c, t.ActiveClient h c → t.captureFault h f =
    match Event.ofFaultDefault (t.client c).options.followContext f with
    | .error x => (t, .error (.fault x))
    | .ok ev => (t.preparedFor c ev).handOver h (t.client c).transport t.events.next
  /-- To dispatch the fault is the same where contexts count, and where no chain ends in one. -/
  dispatched : ∀ c, t.ActiveClient h c →
    (t.client c).options.followContext = true ∨ ¬ f.EndsInContext →
    t.dispatch (.ofHub h) f = t.captureFault h f
  /-- Otherwise another event is handed over, to the same transport, if there is one with contexts
  and one without. -/
  apart : ∀ c, t.ActiveClient h c → (t.client c).options.followContext = false → ∀ ev ev',
    Event.ofFaultDefault false f = .ok ev → Event.ofFaultDefault true f = .ok ev' →
    t.captureFault h f =
      (t.preparedFor c ev).handOver h (t.client c).transport t.events.next ∧
    t.dispatch (.ofHub h) f =
      (t.preparedFor c ev').handOver h (t.client c).transport t.events.next ∧
    (((t.preparedFor c ev').event t.events.next).equal
      ((t.preparedFor c ev).event t.events.next) = true ↔ ¬ f.EndsInContext)

variable {t : Telemetry} {h : Ref Hub} {c : Ref Client} {follow : Bool} {f : Fault}

theorem captureWith_eq_handOver {e : Ref Event} (enabled : (t.client c).options.enabled = true) :
    t.captureWith h c e = (t.prepared c e).handOver h (t.client c).transport e :=
  captureWith_eq enabled

/-- The check of a dispatch and the capture that follows it are one capture. -/
theorem dispatch_eq_captureBuilt (active : t.isActive h = true) :
    t.dispatch (.ofHub h) f = t.captureBuilt h true f := by
  simp only [dispatch, ProcessingContext.ofHub, active]
  rfl

/-- A dispatch to a hub that is not active does nothing. -/
theorem dispatch_of_inactive (inactive : t.activeClient? h = none) :
    t.dispatch (.ofHub h) f = (t, .ok .nil) := by
  simp [dispatch, ProcessingContext.ofHub, isActive, inactive]

/-- The hub finds the client as it captures the built event that it found before. -/
theorem captureBuilt_of_active (active : t.ActiveClient h c) :
    t.captureBuilt h follow f =
      match Event.ofFaultDefault follow f with
      | .error x => (t, .error (.fault x))
      | .ok ev => (t.preparedFor c ev).handOver h (t.client c).transport t.events.next := by
  rw [captureBuilt]
  cases Event.ofFaultDefault follow f with
  | error x => rfl
  | ok ev =>
    have found : (t.addEvent ev).1.activeClient? h = some c :=
      activeClient?_eq_some_iff.mpr ⟨active.top, active.enabled⟩
    simp only [captureEvent]
    rw [found]
    exact captureWith_eq_handOver active.enabled

theorem captureFault_eq_captureBuilt (active : t.ActiveClient h c) :
    t.captureFault h f = t.captureBuilt h (t.client c).options.followContext f := by
  rw [captureBuilt_of_active active, captureFault, activeClient?_eq_some_iff.mpr active]
  simp only [captureFaultWith]
  cases Event.ofFaultDefault (t.client c).options.followContext f with
  | error x => rfl
  | ok ev => exact captureWith_eq_handOver active.enabled

/-- **The ways to capture a fault agree**, in every state, for success and for failure. -/
theorem waysAgree (t : Telemetry) (h : Ref Hub) (f : Fault) : t.WaysAgree h f := by
  have dispatched (c : Ref Client) (active : t.ActiveClient h c) :
      t.dispatch (.ofHub h) f = t.captureBuilt h true f := by
    apply dispatch_eq_captureBuilt
    rw [isActive, activeClient?_eq_some_iff.mpr active]
    rfl
  constructor
  case inactive =>
    intro inactive
    have nil := captureFault_inactive f inactive
    exact ⟨nil, fun _ => nil, dispatch_of_inactive inactive⟩
  case active =>
    intro c active
    exact ⟨fun _ => rfl, (captureFault_eq_captureBuilt active).symm⟩
  case handed =>
    intro c active
    rw [captureFault_eq_captureBuilt active, captureBuilt_of_active active]
  case dispatched =>
    intro c active alike
    rw [dispatched c active, captureFault_eq_captureBuilt active]
    rcases alike with counts | ends
    · rw [counts]
    · -- the event is the same for either setting
      have same : Event.ofFaultDefault true f = Event.ofFaultDefault false f :=
        Event.ofFault_true_eq TypeName.ofDebug ends
      cases (t.client c).options.followContext with
      | true => rfl
      | false => rw [captureBuilt, captureBuilt, same]
  case apart =>
    intro c active ignores ev ev' made made'
    rw [captureFault_eq_captureBuilt active, dispatched c active, captureBuilt_of_active active,
      captureBuilt_of_active active, ignores, made, made']
    refine ⟨rfl, rfl, ?_⟩
    have put (ev : Event) : (t.preparedFor c ev).event t.events.next =
        (ev.stamped (t.sources.id t.ids) (t.sources.time t.readings)).filled
          (t.client c).options := by
      rw [preparedFor, event_prepared]
      show (Event.stamped ((t.events.add ev).get t.events.next) _ _).filled _ = _
      rw [Registry.get_add]
      rfl
    rw [put, put]
    exact Event.equal_iff_of_ofFault made made' _ _ _

end Telemetry

end CauseTrail
