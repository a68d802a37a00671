import CauseTrail.Proofs.Telemetry.Agreement
import CauseTrail.Proofs.Telemetry.Starting

/-!
# Dispatching amid others

A dispatch asks the hub whether it is active, builds the event, and has the hub capture it. Others
may do anything in between: bind and disable clients, put layers on the hub, capture. What the hub
said at first decides whether an event is built at all. Whether it is sent, and through which
client, is decided when the hub captures it, since the hub looks for its client again.

## Main definitions

* `ProcessingContext.amid`: a hub that others make use of during a dispatch
* `Call.Has`, `Move.Names`: who has an event in hand
* `System.Dispatches`: what a dispatch amid others does

## Main results

* `System.event_afterMoves`: an event stays as it is while nobody has it in hand
* `Run.holds_of_has`: what captures have in hand is there
* `Run.dispatch_amid`: what a dispatch does, whatever others do meanwhile
-/

namespace CauseTrail

/-! ## Having an event in hand -/

/-- A capture has an event in hand: it was given the event, or has built it. -/
def Call.Has (call : Call) (e : Ref Event) : Prop :=
  call.subject = .event e ∨ ∃ c, call.phase = .built c e ∨ call.phase = .stamped c e

/-- A move is about an event. -/
def Move.Names (e : Ref Event) : Move → Prop
  | .begin _ (.event k) => k = e
  | .send _ k => k = e
  | _ => False

/-- No capture has an event in hand. -/
def System.Spares (s : System) (e : Ref Event) : Prop := ∀ call ∈ s.calls, ¬ call.Has e

section Sparing

variable {t : Telemetry} {s : System} {h : Ref Hub} {x : Subject} {p : Phase} {e k : Ref Event}
  {move : Move} {moves : List Move} {call : Call}

theorem Telemetry.event_stamp_of_ne (t : Telemetry) (other : e ≠ k) :
    (t.stamp k).event e = t.event e := by
  rw [stamp_eq]
  exact t.events.get_modify_of_ne (·.stamped (t.sources.id t.ids) (t.sources.time t.readings)) other

theorem Telemetry.event_send_of_ne (t : Telemetry) (c : Ref Client) (other : e ≠ k) :
    (t.send c k).1.event e = t.event e := by
  rw [event_send, if_neg fun both => other both.1]

theorem Call.has_begun : (Call.mk h x .begun).Has e ↔ x = .event e := by
  simp [Call.Has]

/-- A capture that has another event in hand leaves an event as it is. -/
theorem Phase.event_next (held : t.events.Holds e) (spares : ¬ (Call.mk h x p).Has e) :
    (p.next h x t).1.event e = t.event e := by
  cases p with
  | begun => cases active : t.activeClient? h <;> simp [next, active]
  | found c =>
    cases built : x.built t c with
    | error f => simp [next, built]
    | ok ev =>
      simp only [next, built]
      cases x with
      | event k => rfl
      | fault f => exact Registry.get_add_of_holds _ _ held
  | built c k =>
    have other : e ≠ k := by
      rintro rfl
      exact spares (.inr ⟨c, .inl rfl⟩)
    exact t.event_stamp_of_ne other
  | stamped c k =>
    have other : e ≠ k := by
      rintro rfl
      exact spares (.inr ⟨c, .inr rfl⟩)
    rw [← t.event_send_of_ne c other, next]
    split <;> next eq => rw [eq]
  | sent id =>
    simp only [next, Telemetry.record]
    split <;> rfl
  | ended => rfl

/-- A capture takes no event in hand but the one that it is given or that it puts in. -/
theorem Phase.has_of_next (has : (Call.mk h x (p.next h x t).2).Has e) :
    (Call.mk h x p).Has e ∨ ∃ c ev, p = .found c ∧ x.built t c = .ok ev ∧ e = x.ref t := by
  rcases has with given | ⟨c, built | stamped⟩
  · exact .inl (.inl given)
  · obtain ⟨rfl, place, ev, made⟩ := next_eq_built.mp built
    exact .inr ⟨c, ev, rfl, made, place⟩
  · obtain rfl := next_eq_stamped.mp stamped
    exact .inl (.inr ⟨c, .inl rfl⟩)

theorem System.holds_event_after (held : s.state.events.Holds e) (move : Move) :
    (s.after move).state.events.Holds e := by
  cases move with
  | begin h x => exact held
  | advance i =>
    rw [after]
    split
    · exact (Phase.extends_next _ _ _ _).events.holds held
    · exact held
  | send c k => exact (Telemetry.extends_send _ c k).events.holds held
  | clear r => exact held
  | change o =>
    rcases (o.events_apply s.state).1 with same | ⟨ev, added⟩
    · rwa [after, same]
    · rw [after, added]
      exact Nat.lt_succ_of_lt held

/-- A move that is not about an event leaves it as it is, if no capture has it in hand. -/
theorem System.event_after (held : s.state.events.Holds e) (spares : s.Spares e)
    (other : ¬ move.Names e) : (s.after move).state.event e = s.state.event e := by
  cases move with
  | begin h x => rfl
  | advance i =>
    rw [after]
    split
    · next call there => exact Phase.event_next held (spares call (List.mem_of_getElem? there))
    · rfl
  | send c k => exact s.state.event_send_of_ne c (Ne.symm other)
  | clear r => rfl
  | change o => exact o.event_apply held

/-- And no capture has it in hand then. -/
theorem System.spares_after (held : s.state.events.Holds e) (spares : s.Spares e)
    (other : ¬ move.Names e) : (s.after move).Spares e := by
  intro call there has
  cases move with
  | begin h x =>
    rcases List.mem_append.mp there with old | new
    · exact spares call old has
    · obtain rfl := List.mem_singleton.mp new
      obtain rfl := Call.has_begun.mp has
      exact other rfl
  | advance i =>
    rw [after] at there
    split at there
    · next moving before =>
      have spared := spares moving (List.mem_of_getElem? before)
      rcases List.mem_or_eq_of_mem_set there with old | rfl
      · exact spares call old has
      · rcases Phase.has_of_next has with had | ⟨c, ev, -, -, place⟩
        · exact spared had
        · -- a built event is a new one, and one that was given was in hand before
          cases same : moving.subject with
          | event k =>
            rw [same] at place
            exact spared (.inl (by rw [same, place]; rfl))
          | fault f =>
            rw [same] at place
            exact held.ne_next place
    · exact spares call there has
  | send | clear | change => exact spares call there has

/-- **An event stays as it is** while nobody has it in hand. -/
theorem System.event_afterMoves (held : s.state.events.Holds e) (spares : s.Spares e)
    (others : ∀ move ∈ moves, ¬ move.Names e) :
    (s.afterMoves moves).state.event e = s.state.event e := by
  induction moves generalizing s with
  | nil => rfl
  | cons move moves ih =>
    obtain ⟨other, others⟩ := List.forall_mem_cons.mp others
    have rest := ih (holds_event_after held move) (spares_after held spares other) others
    exact rest.trans (event_after held spares other)

theorem System.sources_after (s : System) (move : Move) :
    (s.after move).state.sources = s.state.sources := by
  cases move with
  | begin h x => rfl
  | advance i =>
    rw [after]
    split
    · exact (Phase.extends_next _ _ _ _).sources_eq
    · rfl
  | send c k => exact (Telemetry.extends_send _ c k).sources_eq
  | clear r => rfl
  | change o => exact (o.events_apply s.state).2

theorem System.sources_afterMoves (s : System) (moves : List Move) :
    (s.afterMoves moves).state.sources = s.state.sources := by
  induction moves generalizing s with
  | nil => rfl
  | cons move moves ih => exact (ih (s.after move)).trans (s.sources_after move)

end Sparing

/-! ## Runs that go on -/

/-- Some moves can be made one after the other. -/
def System.Allows (s : System) : List Move → Prop
  | [] => True
  | move :: moves => move.Sound s ∧ (s.after move).Allows moves

variable {host : Host} {sources : Sources} {past : List Moment} {s : System} {h : Ref Hub}
  {e : Ref Event} {early late : List Move} {f : Fault} {call : Call}

/-- A run goes on with the moves that are allowed. -/
theorem Run.exists_afterMoves (run : Run host sources past s) {moves : List Move}
    (allows : s.Allows moves) : ∃ past', Run host sources past' (s.afterMoves moves) := by
  induction moves generalizing past s with
  | nil => exact ⟨past, run⟩
  | cons move moves ih => exact ih (run.step move allows.1) allows.2

/-- What a capture has in hand is there. -/
theorem Run.holds_of_has (run : Run host sources past s) (there : call ∈ s.calls)
    (has : call.Has e) : s.state.events.Holds e := by
  induction run generalizing call with
  | start => cases there
  | @step past s run move sound ih =>
    obtain ⟨i, there⟩ := List.mem_iff_getElem?.mp there
    rcases System.calls_after sound there with ⟨there, -⟩ | ⟨-, h, x, rfl, rfl⟩ |
      ⟨p, -, takes, phase⟩
    · exact System.holds_event_after (ih (List.mem_of_getElem? there) has) move
    · exact sound.2 e (Call.has_begun.mp has)
    · change (Call.mk call.hub call.subject call.phase).Has e at has
      rw [phase] at has
      rcases Phase.has_of_next has with had | ⟨c, ev, rfl, built, rfl⟩
      · exact System.holds_event_after (ih (List.mem_of_getElem? takes.call_eq) had) move
      · -- the event was put in by this very step
        have put := Subject.event_put (run.holds takes.call_eq).2 built
        have after : (s.after move).state = call.subject.put s.state ev := by
          refine takes.after_eq.trans ?_
          simp only [Phase.next, built]
        rw [after]
        exact put.1

/-! ## Dispatching -/

/-- A hub that others make use of during a dispatch: some of their moves come once the hub has been
asked whether it is active, and the others once the event was put in. -/
def ProcessingContext.amid (h : Ref Hub) (s : System) (early late : List Move) :
    ProcessingContext where
  isActive t := ((System.afterMoves ⟨t, s.calls⟩ early).state, t.isActive h)
  capture t e :=
    (System.afterMoves ⟨t, (s.afterMoves early).calls⟩ late).state.captureEvent h e

namespace System

/-- A fault that is dispatched to a hub amid others. -/
def dispatchAmid (s : System) (h : Ref Hub) (early late : List Move) (f : Fault) :
    Telemetry × Except CaptureError Uuid :=
  s.state.dispatch (.amid h s early late) f

/-- Where the event of a dispatch is put in. -/
def place (s : System) (early : List Move) : Ref Event := (s.afterMoves early).state.events.next

/-- The state in which the hub captures the event of a dispatch. -/
def meanwhile (s : System) (early late : List Move) (ev : Event) : Telemetry :=
  (s.afterMoves (early ++ .change (.addEvent ev) :: late)).state

/-- A dispatch sends its event through a client: it has the transport of the client take the event,
once, and answers with the identifier of the event if the transport takes it. -/
structure SendsThrough (s : System) (h : Ref Hub) (early late : List Move) (f : Fault) (ev : Event)
    (c : Ref Client) : Prop where
  handed : s.dispatchAmid h early late f =
    ((s.meanwhile early late ev).prepared c (s.place early)).handOver h
      ((s.meanwhile early late ev).client c).transport (s.place early)
  delivered : ∀ t' id, s.dispatchAmid h early late f = (t', .ok id) →
    (s.meanwhile early late ev).Delivered h (.event (s.place early)) c t' id
  failed : ∀ t' x, s.dispatchAmid h early late f = (t', .error x) →
    (s.meanwhile early late ev).Failed h (.event (s.place early)) c t' x

/-- What a dispatch to a hub does while others make their moves. -/
structure Dispatches (s : System) (h : Ref Hub) (early late : List Move) (f : Fault) : Prop where
  /-- If the hub is inactive when it is asked, the answer is nil and nothing is built: what has
  changed is what others did. -/
  inactive : s.state.isActive h = false →
    s.dispatchAmid h early late f = ((s.afterMoves early).state, .ok .nil)
  /-- Otherwise the event is built, unless the fault has none. -/
  unbuilt : s.state.isActive h = true → ∀ x, Event.ofFaultDefault true f = .error x →
    s.dispatchAmid h early late f = ((s.afterMoves early).state, .error (.fault x))
  /-- The event is as it was built until the hub captures it: it has no identifier and no time. -/
  built : ∀ ev, Event.ofFaultDefault true f = .ok ev →
    (s.meanwhile early late ev).event (s.place early) = ev ∧ ev.id = .nil ∧ ev.timestamp? = none
  /-- If the hub is inactive by then, the answer is nil and the event stays like that: nothing is
  sent, and no identifier is recorded. -/
  gone : s.state.isActive h = true → ∀ ev, Event.ofFaultDefault true f = .ok ev →
    (s.meanwhile early late ev).isActive h = false →
    s.dispatchAmid h early late f = (s.meanwhile early late ev, .ok .nil)
  /-- If it is active, the event is sent through the client that is on top by then. -/
  sent : s.state.isActive h = true → ∀ ev, Event.ofFaultDefault true f = .ok ev →
    ∀ c, (s.meanwhile early late ev).ActiveClient h c → s.SendsThrough h early late f ev c

/-- An active hub has the event captured in the state that others have brought about meanwhile. -/
theorem dispatchAmid_of_active (active : s.state.isActive h = true) {ev : Event}
    (made : Event.ofFaultDefault true f = .ok ev) :
    s.dispatchAmid h early late f =
      (s.meanwhile early late ev).captureEvent h (s.place early) := by
  simp only [dispatchAmid, Telemetry.dispatch, ProcessingContext.amid, active, made, meanwhile,
    afterMoves, List.foldl_append, List.foldl_cons]
  rfl

/-- A hub that is active when it is asked, and has a client on top as it captures the event, sends
through this client. -/
theorem sendsThrough (active : s.state.isActive h = true) {ev : Event}
    (made : Event.ofFaultDefault true f = .ok ev) {c : Ref Client}
    (client : (s.meanwhile early late ev).ActiveClient h c)
    (fresh : ∀ n, s.state.sources.id n ≠ .nil) : s.SendsThrough h early late f ev c := by
  have captures : s.dispatchAmid h early late f =
      (s.meanwhile early late ev).captureWith h c (s.place early) := by
    rw [dispatchAmid_of_active active made, Telemetry.captureEvent,
      Telemetry.activeClient?_eq_some_iff.mpr client]
  have fresh' : ∀ n, (s.meanwhile early late ev).sources.id n ≠ .nil := by
    rwa [meanwhile, sources_afterMoves]
  constructor
  case handed => rw [captures, Telemetry.captureWith_eq_handOver client.enabled]
  case delivered =>
    intro t' id done
    exact Telemetry.delivered_of_captureWith client fresh' (captures ▸ done)
  case failed =>
    intro t' x done
    exact Telemetry.failed_of_captureWith client (captures ▸ done)

end System

/-- An event of a fault has neither an identifier nor a time. -/
theorem Event.unstamped_of_ofFault {naming : TypeNaming} {follow : Bool} {ev : Event}
    (made : ofFault naming follow f = .ok ev) : ev.id = .nil ∧ ev.timestamp? = none := by
  obtain ⟨chain, records, -, -, rfl⟩ := ofFault_eq_ok_iff.mp made
  exact ⟨rfl, rfl⟩

/-- **Dispatching amid others.** Whatever others do during a dispatch, it sends through the client
that is on top as the hub captures the event, or it sends nothing. Others know nothing of the event,
so they do not name it. -/
theorem Run.dispatch_amid (run : Run host sources past s) (fresh : ∀ n, sources.id n ≠ .nil)
    (allows : s.Allows early) (others : ∀ move ∈ late, ¬ move.Names (s.place early)) (h : Ref Hub)
    (f : Fault) : s.Dispatches h early late f := by
  obtain ⟨past', middle⟩ := run.exists_afterMoves allows
  constructor
  case inactive =>
    intro inactive
    simp only [System.dispatchAmid, Telemetry.dispatch, ProcessingContext.amid, inactive]
  case unbuilt =>
    intro active x unmade
    simp only [System.dispatchAmid, Telemetry.dispatch, ProcessingContext.amid, active, unmade]
  case built =>
    intro ev made
    refine ⟨?_, Event.unstamped_of_ofFault made⟩
    have split : s.meanwhile early late ev =
        (((s.afterMoves early).after (.change (.addEvent ev))).afterMoves late).state := by
      simp only [System.meanwhile, System.afterMoves, List.foldl_append, List.foldl_cons]
    have new : ((s.afterMoves early).after (.change (.addEvent ev))).state.event (s.place early) =
        ev := Registry.get_add _ _
    rw [split, System.event_afterMoves _ _ others, new]
    · exact Nat.lt_succ_self _
    · -- a capture has only events in hand that were there before
      intro call there has
      exact Nat.lt_irrefl _ (middle.holds_of_has there has)
  case gone =>
    intro active ev made inactive
    rw [System.dispatchAmid_of_active active made]
    refine Telemetry.captureEvent_inactive _ ?_
    exact Option.not_isSome_iff_eq_none.mp (Bool.eq_false_iff.mp inactive)
  case sent =>
    intro active ev made c client
    exact System.sendsThrough active made client (run.sources_eq.symm ▸ fresh)

/-- Another capture is under way as the hub is asked, and sends through the client that the hub has
then. The dispatch sends through the client that is bound to the hub meanwhile, or nothing if the
client is disabled meanwhile. -/
theorem Run.dispatch_amid_bind : ∃ past s,
    Run Telemetry.oneHub.host Telemetry.oneHub.sources past s ∧
    let f : Fault := .simple "Failure" "failed" none
    let early : List Move := [.advance 0, .change (.bind ⟨0⟩ none)]
    let late : List Move := [.advance 0, .advance 0, .change (.bind ⟨0⟩ (some ⟨1⟩))]
    let disabling : List Move :=
      [.change (.bind ⟨0⟩ (some ⟨1⟩)), .change (.setOption ⟨1⟩ "enabled" (.bool false))]
    (∀ n, Telemetry.oneHub.sources.id n ≠ .nil) ∧ s.Allows early ∧
    (∀ move ∈ late, ¬ move.Names (s.place early)) ∧
    (∀ move ∈ disabling, ¬ move.Names (s.place early)) ∧
    s.state.activeClient? ⟨0⟩ = some ⟨0⟩ ∧
    ((s.dispatchAmid ⟨0⟩ early late f).1.transport ⟨0⟩).kept = [⟨0⟩] ∧
    ((s.dispatchAmid ⟨0⟩ early late f).1.transport ⟨1⟩).kept = [⟨1⟩] ∧
    ((s.dispatchAmid ⟨0⟩ early disabling f).1.event ⟨1⟩).id = .nil ∧
    s.Dispatches ⟨0⟩ early late f ∧ s.Dispatches ⟨0⟩ early disabling f := by
  have run := (Run.start : Run Telemetry.oneHub.host Telemetry.oneHub.sources [] _)
    |>.step (.change (.addTransport (.memory []))) rfl
    |>.step (.change (.addTransport (.memory []))) rfl
    |>.step (.change (.addClient ⟨{}, ⟨0⟩⟩)) Nat.two_pos
    |>.step (.change (.addClient ⟨{}, ⟨1⟩⟩)) Nat.one_lt_two
    |>.step (.change (.addHub (some ⟨0⟩))) (by rintro c ⟨⟩; exact Nat.two_pos)
    |>.step (.begin ⟨0⟩ (.fault (.simple "Failure" "failed" none))) ⟨Nat.one_pos, nofun⟩
    |>.step (.advance 0) ⟨_, rfl, by decide +kernel⟩
  have fresh := Telemetry.id_oneHub_ne_nil
  refine ⟨_, _, run, ?_⟩
  intro f early late disabling
  refine ⟨fresh, ?allows, ?others, ?others', ?active, ?kept, ?kept', ?unstamped,
    run.dispatch_amid fresh ?allows ?others ⟨0⟩ f, run.dispatch_amid fresh ?allows ?others' ⟨0⟩ f⟩
  case allows => exact ⟨⟨_, rfl, by decide +kernel⟩, nofun, trivial⟩
  case others => simp [late, Move.Names]
  case others' => simp [disabling, Move.Names]
  all_goals decide +kernel

end CauseTrail
