import CauseTrail.Proofs.Telemetry.Interleaving
import Mathlib.Data.List.DropRight
import Mathlib.Data.List.Nodup

/-!
# What a run leaves behind

The history of a run tells what the registries hold at its end. A transport that keeps events has
those that were handed to it since it was emptied last, a hub has recorded the identifier that a
capture through it returned last, and as many identifiers were given out as there were captures
whose event had none.

## Main definitions

* `Sending`, `Moment.sending?`: what is handed to a transport at a moment
* `Moment.returned`, `Moment.given?`: the identifiers that are returned and given out
* `Run.Accounts`: what a history tells of the state at its end

## Main results

* `Moment.kept_after`, `Moment.last?_after`, `Moment.ids_after`: what one move changes
* `Run.kept_eq`, `Run.last?_eq`, `Run.given_eq`: what a run leaves
* `Run.accounts`: all of it
-/

namespace CauseTrail

/-! ## What one step of a capture changes -/

namespace Phase

variable {h : Ref Hub} {x : Subject} {t : Telemetry} {p : Phase}

/-- Until an event is stamped, nothing is given out, sent or recorded. -/
theorem silent_next (early : p.rank < 2) : t.Silent (p.next h x t).1 := by
  cases p with
  | begun => cases active : t.activeClient? h <;> simpa [next, active] using .refl t
  | found c =>
    cases built : x.built t c with
    | error f => simpa [next, built] using .refl t
    | ok ev =>
      simp only [next, built]
      cases x with
      | event e => exact .refl t
      | fault f => exact Telemetry.silent_addEvent t ev
  | built | stamped | sent | ended => simp [rank] at early

theorem next_stamped_fst (c : Ref Client) (e : Ref Event) :
    ((stamped c e).next h x t).1 = (t.send c e).1 := by
  rcases done : t.send c e with ⟨s, d | id⟩ <;> simp [next, done]

/-- Only a step that sends changes a transport. -/
theorem transports_next (unsent : ∀ c e, p ≠ stamped c e) :
    t.transports.Grows Eq Transport.Blank (p.next h x t).1.transports := by
  have same : t.transports.Grows Eq Transport.Blank t.transports := .refl Eq.refl _
  cases p with
  | begun | found => exact (silent_next (by simp [rank])).transports
  | built c e => simpa [next, Telemetry.stamp_eq] using same
  | stamped c e => exact absurd rfl (unsent c e)
  | sent id =>
    simp only [next, Telemetry.record]
    split <;> exact same
  | ended => exact same

/-- Only a step that stamps takes an identifier. -/
theorem ids_next (unstamped : ∀ c e, p ≠ built c e) : (p.next h x t).1.ids = t.ids := by
  cases p with
  | begun | found => exact (silent_next (by simp [rank])).ids_eq
  | built c e => exact absurd rfl (unstamped c e)
  | stamped c e =>
    rw [next_stamped_fst]
    exact (t.send_others c e).2
  | sent id =>
    simp only [next, Telemetry.record]
    split <;> rfl
  | ended => rfl

/-- Only a step that records changes a hub. -/
theorem hubs_next (unrecorded : ∀ id, p ≠ sent id) : (p.next h x t).1.hubs = t.hubs := by
  cases p with
  | begun => cases active : t.activeClient? h <;> simp [next, active]
  | found c =>
    cases built : x.built t c with
    | error f => simp [next, built]
    | ok ev => cases x <;> simp [next, built, Subject.put, Telemetry.addEvent]
  | built c e => simp [next, Telemetry.stamp_eq]
  | stamped c e =>
    rw [next_stamped_fst]
    exact (t.send_others c e).1
  | sent id => exact absurd rfl (unrecorded id)
  | ended => rfl

end Phase

/-! ## What a moment tells -/

/-- An event that a client hands to its transport, for a capture or directly. -/
structure Sending where
  call? : Option Nat
  client : Ref Client
  event : Ref Event

namespace Moment

/-- The capture that takes a step. -/
def step? (m : Moment) : Option (Nat × Call) :=
  match m.move with
  | .advance i => (m.before.calls[i]?).map (i, ·)
  | _ => none

/-- What a client is asked to send. -/
def request? (m : Moment) : Option Sending :=
  match m.move, m.step? with
  | .send c e, _ => some ⟨none, c, e⟩
  | _, some (i, ⟨_, _, .stamped c e⟩) => some ⟨some i, c, e⟩
  | _, _ => none

/-- What is sent: a client that is enabled does what it is asked. -/
def sending? (m : Moment) : Option Sending :=
  m.request?.filter fun d => (m.before.state.client d.client).options.enabled

/-- The event that a transport is handed. -/
def sentTo (r : Ref Transport) (m : Moment) : Option (Ref Event) :=
  (m.sending?.filter fun d => (m.before.state.client d.client).transport = r).map Sending.event

/-- Whether a transport is emptied. -/
def clears (r : Ref Transport) (m : Moment) : Bool :=
  match m.move with
  | .clear q => q = r
  | _ => false

/-- The identifier other than nil that a capture through a hub returns. -/
def returned (h : Ref Hub) (m : Moment) : Option Uuid :=
  match m.step? with
  | some (_, call) =>
    match (call.phase.next call.hub call.subject m.before.state).2 with
    | .ended (.ok id) => if call.hub = h ∧ id ≠ .nil then some id else none
    | _ => none
  | none => none

/-- The capture that stamps an event without an identifier, and the event. -/
def lacking? (m : Moment) : Option (Nat × Ref Event) :=
  match m.step? with
  | some (i, ⟨_, _, .built _ e⟩) => if (m.before.state.event e).id = .nil then some (i, e) else none
  | _ => none

/-- The identifier that is given to an event. -/
def given? (m : Moment) : Option Uuid := m.lacking?.map fun d => (m.after.state.event d.2).id

end Moment

/-- What was done since a transport was emptied last. -/
def sinceClear (r : Ref Transport) (past : List Moment) : List Moment :=
  past.rtakeWhile fun m => !m.clears r

variable {host : Host} {sources : Sources} {past : List Moment} {s : System} {i : Nat}
  {m : Moment} {h k : Ref Hub} {x : Subject} {p : Phase} {r : Ref Transport} {c : Ref Client}
  {e : Ref Event}

theorem Moment.Takes.step?_eq (takes : m.Takes i h x p) : m.step? = some (i, ⟨h, x, p⟩) := by
  rw [Moment.step?, takes.move_eq]
  simp [takes.call_eq]

theorem Moment.Takes.clears_eq (takes : m.Takes i h x p) (r : Ref Transport) :
    m.clears r = false := by
  rw [Moment.clears, takes.move_eq]

/-! ## What is sent -/

/-- A sending is asked for by a move of its own or by the last step of a capture. -/
theorem Moment.request?_eq_some_iff {d : Sending} :
    m.request? = some d ↔
      (m.move = .send d.client d.event ∧ d.call? = none) ∨
      ∃ i h x, d.call? = some i ∧ m.Takes i h x (.stamped d.client d.event) := by
  obtain ⟨call?, client, event⟩ := d
  constructor
  · intro asked
    rw [Moment.request?] at asked
    split at asked
    · next c e move =>
      obtain ⟨⟩ := asked
      exact .inl ⟨move, rfl⟩
    · next i h x c e step _ =>
      obtain ⟨⟩ := asked
      unfold Moment.step? at step
      split at step
      · next j move =>
        obtain ⟨call, there, same⟩ := Option.map_eq_some_iff.mp step
        obtain ⟨⟩ := same
        exact .inr ⟨i, h, x, rfl, move, there⟩
      · cases step
    · cases asked
  · rintro (⟨move, rfl⟩ | ⟨i, h, x, rfl, takes⟩)
    · simp [Moment.request?, move]
    · simp [Moment.request?, takes.step?_eq, takes.move_eq]

theorem Moment.Takes.request?_eq (takes : m.Takes i h x (.stamped c e)) :
    m.request? = some ⟨some i, c, e⟩ :=
  Moment.request?_eq_some_iff.mpr (.inr ⟨i, h, x, rfl, takes⟩)

theorem Moment.sending?_eq_some_iff {d : Sending} :
    m.sending? = some d ↔
      m.request? = some d ∧ (m.before.state.client d.client).options.enabled = true := by
  simp [Moment.sending?, Option.filter_eq_some_iff]

theorem Moment.after_of_request {d : Sending} (asked : m.request? = some d) :
    m.after.state = (m.before.state.send d.client d.event).1 := by
  rcases Moment.request?_eq_some_iff.mp asked with ⟨move, -⟩ | ⟨i, h, x, -, takes⟩
  · rw [Moment.after, move]
    rfl
  · rw [takes.after_eq, Phase.next_stamped_fst]

theorem Moment.clears_of_request {d : Sending} (asked : m.request? = some d) (r : Ref Transport) :
    m.clears r = false := by
  rcases Moment.request?_eq_some_iff.mp asked with ⟨move, -⟩ | ⟨i, h, x, -, takes⟩
  · rw [Moment.clears, move]
  · exact takes.clears_eq r

/-- What is asked for is sent to the transport of the client, if the client is enabled. -/
theorem Moment.sentTo_of_request {d : Sending} (asked : m.request? = some d) (r : Ref Transport) :
    m.sentTo r =
      if (m.before.state.client d.client).options.enabled = true ∧
        (m.before.state.client d.client).transport = r then some d.event else none := by
  simp only [Moment.sentTo, Moment.sending?, asked, Option.filter_some]
  cases (m.before.state.client d.client).options.enabled <;> simp [Option.filter_some]

theorem Moment.sentTo_of_none (unasked : m.request? = none) (r : Ref Transport) :
    m.sentTo r = none := by
  simp [Moment.sentTo, Moment.sending?, unasked]

/-- A client that is asked to send is there, and so is its transport. -/
theorem Run.holds_client (run : Run host sources past m.before) (sound : m.move.Sound m.before)
    {d : Sending} (asked : m.request? = some d) : m.before.state.clients.Holds d.client := by
  rcases Moment.request?_eq_some_iff.mp asked with ⟨move, -⟩ | ⟨i, h, x, -, takes⟩
  · rw [move] at sound
    exact sound.1
  · obtain ⟨_, _, _, _, ready⟩ := run.ready takes.call_eq
    exact ready.client

theorem Run.holds_of_sentTo (run : Run host sources past m.before) (sound : m.move.Sound m.before)
    (sent : m.sentTo r = some e) : m.before.state.transports.Holds r := by
  obtain ⟨d, there, -⟩ := Option.map_eq_some_iff.mp sent
  obtain ⟨sending, holds⟩ := Option.filter_eq_some_iff.mp there
  have client := run.holds_client sound (Moment.sending?_eq_some_iff.mp sending).1
  exact of_decide_eq_true holds ▸ run.closed.transport d.client client

/-- What is not there now was never sent to. -/
theorem Run.sentTo_eq_none (run : Run host sources past s) (free : ¬ s.state.transports.Holds r)
    (there : m ∈ past) : m.sentTo r = none := by
  obtain ⟨before, later, rfl, first, sound⟩ := run.split there
  refine Option.eq_none_iff_forall_not_mem.mpr fun e sent => free ?_
  have held := first.holds_of_sentTo sound sent
  have now := (System.extends_after first.closed sound).trans (run.extends there)
  exact Nat.lt_of_lt_of_le held now.transports_le

/-! ## What transports keep -/

/-- Without a request to send, a transport that is not emptied is as it was. -/
theorem Moment.transport_after (closed : m.before.state.Closed) (sound : m.move.Sound m.before)
    (unasked : m.request? = none) (full : m.clears r = false) :
    (m.before.state.transports.Holds r →
      m.after.state.transport r = m.before.state.transport r) ∧
    (¬ m.before.state.transports.Holds r → (m.before.state.transport r).Blank →
      (m.after.state.transport r).Blank) := by
  have of_grows (grows : m.before.state.transports.Grows Eq Transport.Blank
      m.after.state.transports) :
      (m.before.state.transports.Holds r →
        m.after.state.transport r = m.before.state.transport r) ∧
      (¬ m.before.state.transports.Holds r → (m.before.state.transport r).Blank →
        (m.after.state.transport r).Blank) :=
    ⟨fun held => (grows.held r held).symm, grows.other r⟩
  obtain ⟨before, move⟩ := m
  cases move with
  | begin h x => exact of_grows (.refl Eq.refl _)
  | advance i =>
    obtain ⟨⟨h, x, p⟩, there, -⟩ := sound
    have takes : (⟨before, .advance i⟩ : Moment).Takes i h x p := ⟨rfl, there⟩
    refine of_grows ?_
    rw [takes.after_eq]
    refine Phase.transports_next fun c e same => ?_
    subst same
    have asked := takes.request?_eq
    rw [unasked] at asked
    cases asked
  | send c e => cases unasked
  | clear q =>
    have other : r ≠ q := fun same => by simp [Moment.clears, same] at full
    have same : (before.after (.clear q)).state.transport r = before.state.transport r :=
      Registry.get_modify_of_ne _ _ other
    exact ⟨fun _ => same, fun _ blank => by rw [Moment.after, same]; exact blank⟩
  | change o => exact of_grows (Change.silent_apply closed sound).transports

/-- **What a transport keeps after a move**: nothing if it was emptied or is new, and otherwise
what it kept before, with the event that it was handed. -/
theorem Moment.kept_after (closed : m.before.state.Closed) (sound : m.move.Sound m.before)
    (blank : ¬ m.before.state.transports.Holds r → (m.before.state.transport r).Blank)
    {events : List (Ref Event)} (memory : m.after.state.transport r = .memory events) :
    (m.clears r = true ∧ events = []) ∨
    (m.clears r = false ∧ ((¬ m.before.state.transports.Holds r ∧ events = []) ∨
      ∃ kept, m.before.state.transport r = .memory kept ∧
        events = kept ++ (m.sentTo r).toList)) := by
  -- a move that sends is told apart from the others, which can only empty or make a transport
  cases asked : m.request? with
  | some d =>
    refine .inr ⟨Moment.clears_of_request asked r, .inr ?_⟩
    rw [Moment.after_of_request asked] at memory
    obtain ⟨kept, before⟩ := Telemetry.transport_of_send memory
    refine ⟨kept, before, ?_⟩
    rw [Telemetry.transport_send before] at memory
    rw [Moment.sentTo_of_request asked]
    split at memory <;> next holds =>
      obtain rfl := Transport.memory.inj memory
      simp [holds]
  | none =>
    cases emptied : m.clears r with
    | true =>
      refine .inl ⟨rfl, ?_⟩
      obtain ⟨before, move⟩ := m
      cases move with
      | clear q =>
        obtain rfl : q = r := by simpa [Moment.clears] using emptied
        have cleared : (before.after (.clear q)).state.transport q =
            (before.state.transport q).cleared :=
          Registry.get_modify _ _ _
        rw [Moment.after, cleared] at memory
        cases was : before.state.transport q <;> rw [was] at memory <;> cases memory
        rfl
      | begin | advance | send | change => cases emptied
    | false =>
      refine .inr ⟨rfl, ?_⟩
      obtain ⟨held, new⟩ := Moment.transport_after closed sound asked emptied
      by_cases there : m.before.state.transports.Holds r
      · rw [held there] at memory
        exact .inr ⟨events, memory, by simp [Moment.sentTo_of_none asked]⟩
      · have empty := new there (blank there)
        rw [memory] at empty
        exact .inl ⟨there, empty⟩

/-- **What a transport keeps at the end of a run** was handed to it since it was emptied last. -/
theorem Run.kept_eq (run : Run host sources past s) {events : List (Ref Event)}
    (memory : s.state.transport r = .memory events) :
    events = (sinceClear r past).filterMap (·.sentTo r) := by
  have unsent {past : List Moment} (none : ∀ m ∈ past, m.sentTo r = none) :
      (sinceClear r past).filterMap (·.sentTo r) = [] :=
    List.filterMap_eq_nil_iff.mpr fun m there => none m ((List.rtakeWhile_suffix _ _).subset there)
  -- Induction on the run: the last move emptied the transport, or made it, or left it what it kept
  -- with an event more at most.
  induction run generalizing events with
  | start => cases memory
  | @step past s run move sound ih =>
    have blank (free : ¬ s.state.transports.Holds r) : (s.state.transport r).Blank := by
      cases was : s.state.transport r with
      | memory kept => exact (ih was).trans (unsent fun m there => run.sentTo_eq_none free there)
      | null | console | jsonl | failing => rfl
    rcases Moment.kept_after (m := ⟨s, move⟩) run.closed sound blank memory with
      ⟨emptied, rfl⟩ | ⟨full, ⟨free, rfl⟩ | ⟨kept, before, rfl⟩⟩
    · rw [sinceClear, List.rtakeWhile_concat, if_neg (by simp [emptied])]
      rfl
    · refine (unsent fun m there => ?_).symm
      rcases List.mem_append.mp there with old | new
      · exact run.sentTo_eq_none free old
      · obtain rfl := List.mem_singleton.mp new
        exact Option.eq_none_iff_forall_not_mem.mpr fun e sent =>
          free (run.holds_of_sentTo (m := ⟨s, move⟩) sound sent)
    · rw [sinceClear, List.rtakeWhile_concat, if_pos (by simp [full]), List.filterMap_append,
        ← sinceClear, ← ih before]
      cases sent : (⟨s, move⟩ : Moment).sentTo r <;> simp [sent]

/-! ## What hubs recorded -/

/-- A capture returns another identifier than nil only as it ends with what the client answered. -/
theorem Moment.Takes.returned_eq (takes : m.Takes i k x p) (going : p.Going) (h : Ref Hub) :
    m.returned h =
      match p with
      | .sent id => if k = h ∧ id ≠ .nil then some id else none
      | _ => none := by
  simp only [Moment.returned, takes.step?_eq]
  split
  · next id ended =>
    rcases (Phase.next_eq_ended going).mp ended with
      ⟨rfl, -, nil⟩ | ⟨_, _, -, -, wrong⟩ | ⟨_, _, _, -, -, wrong⟩ | ⟨id', rfl, same⟩
    · obtain rfl := Except.ok.inj nil
      simp
    · cases wrong
    · cases wrong
    · obtain rfl := Except.ok.inj same
      rfl
  · next other =>
    cases p with
    | sent id => exact absurd rfl (other id)
    | begun | found | built | stamped | ended => rfl

/-- A hub records each identifier but nil. -/
theorem Telemetry.last?_record (t : Telemetry) (h k : Ref Hub) (id : Uuid) :
    ((t.record k id).hub h).last? =
      (if k = h ∧ id ≠ .nil then some id else none).or (t.hub h).last? := by
  rw [record]
  by_cases nil : id = .nil
  · simp [nil]
  · by_cases same : k = h
    · subst same
      simp [nil, changeHub, hub]
    · simp [nil, same, changeHub, hub, Registry.get_modify_of_ne _ _ (Ne.symm same)]

/-- **What a hub has recorded after a move**: the identifier that was returned just now, or else
what it had recorded before. -/
theorem Moment.last?_after (closed : m.before.state.Closed) (sound : m.move.Sound m.before)
    (blank : ¬ m.before.state.hubs.Holds h → (m.before.state.hub h).last? = none) :
    (m.after.state.hub h).last? = (m.returned h).or (m.before.state.hub h).last? := by
  obtain ⟨before, move⟩ := m
  cases move with
  | advance i =>
    obtain ⟨⟨k, x, p⟩, there, going⟩ := sound
    have takes : (⟨before, .advance i⟩ : Moment).Takes i k x p := ⟨rfl, there⟩
    rw [takes.after_eq, takes.returned_eq going]
    cases p with
    | sent id => exact before.state.last?_record h k id
    | begun | found | built | stamped | ended =>
      rw [Telemetry.hub, Phase.hubs_next (by simp)]
      rfl
  | begin h x => rfl
  | clear r => rfl
  | send c e =>
    have same := (before.state.send_others c e).1
    show ((before.state.send c e).1.hub h).last? = (before.state.hub h).last?
    rw [Telemetry.hub, same]
    rfl
  | change o =>
    have silent := (Change.silent_apply closed sound).hubs
    show ((o.apply before.state).hub h).last? = (before.state.hub h).last?
    by_cases there : before.state.hubs.Holds h
    · exact silent.held h there
    · exact (silent.other h there (blank there)).trans (blank there).symm

theorem getLast?_filterMap_concat {α β : Type} (f : α → Option β) (l : List α)
    (a : α) : ((l ++ [a]).filterMap f).getLast? = (f a).or (l.filterMap f).getLast? := by
  rw [List.filterMap_append, List.getLast?_append]
  cases found : f a <;> simp [found]

/-- **What a hub has recorded at the end of a run** is what a capture through it returned last. -/
theorem Run.last?_eq (run : Run host sources past s) (h : Ref Hub) :
    (s.state.hub h).last? = (past.filterMap (·.returned h)).getLast? := by
  have both : (s.state.hub h).last? = (past.filterMap (·.returned h)).getLast? ∧
      (¬ s.state.hubs.Holds h → (s.state.hub h).last? = none) := by
    -- Induction on the run, which carries along that a hub yet to be made has recorded nothing.
    induction run with
    | start => exact ⟨rfl, fun _ => rfl⟩
    | @step past s run move sound ih =>
      have last := Moment.last?_after (m := ⟨s, move⟩) run.closed sound ih.2
      refine ⟨?_, fun free => ?_⟩
      · rw [getLast?_filterMap_concat, ← ih.1]
        exact last
      · have before : ¬ s.state.hubs.Holds h := fun held =>
          free (Nat.lt_of_lt_of_le held (System.extends_after run.closed sound).hubs_le)
        refine last.trans ?_
        rw [ih.2 before, Option.or_none]
        cases move with
        | advance i =>
          obtain ⟨⟨k, x, p⟩, there, going⟩ := sound
          rw [Moment.Takes.returned_eq ⟨rfl, there⟩ going]
          cases p with
          | sent id =>
            refine if_neg fun both => before ?_
            have held := (run.holds there).1
            rwa [both.1] at held
          | begun | found | built | stamped | ended => rfl
        | begin | send | clear | change => rfl
  exact both.1

/-! ## The identifiers that are given out -/

/-- **The identifiers given out after a move**: one more if an event without one was stamped. -/
theorem Moment.ids_after (closed : m.before.state.Closed) (sound : m.move.Sound m.before) :
    m.after.state.ids = m.before.state.ids + m.given?.toList.length ∧
      ∀ id, m.given? = some id → id = m.before.state.sources.id m.before.state.ids := by
  obtain ⟨before, move⟩ := m
  cases move with
  | advance i =>
    obtain ⟨⟨k, x, p⟩, there, -⟩ := sound
    have takes : (⟨before, .advance i⟩ : Moment).Takes i k x p := ⟨rfl, there⟩
    cases p with
    | built c e =>
      have stamped : (Moment.after ⟨before, .advance i⟩).state = before.state.stamp e :=
        takes.after_eq
      simp only [Moment.given?, Moment.lacking?, takes.step?_eq, stamped]
      rw [Telemetry.stamp_eq]
      by_cases nil : (before.state.event e).id = .nil
      · have id : ((before.state.event e).stamped (before.state.sources.id before.state.ids)
            (before.state.sources.time before.state.readings)).id =
            before.state.sources.id before.state.ids := by
          rw [Event.stamped, Event.identified_of_nil _ nil]
          rfl
        rw [Telemetry.event] at nil id
        simp [Event.idsTaken, nil, Telemetry.event, id, eq_comm]
      · simp [Event.idsTaken, nil]
    | begun | found | stamped | sent | ended =>
      rw [takes.after_eq, Phase.ids_next (by simp)]
      simp [Moment.given?, Moment.lacking?, takes.step?_eq]
  | begin h x => simp [Moment.after, System.after, Moment.given?, Moment.lacking?, Moment.step?]
  | clear r =>
    simp [Moment.after, System.after, Telemetry.clear, Moment.given?, Moment.lacking?,
      Moment.step?]
  | send c e =>
    have same := (before.state.send_others c e).2
    simp [Moment.after, System.after, same, Moment.given?, Moment.lacking?, Moment.step?]
  | change o =>
    have same := (Change.silent_apply closed sound).ids_eq
    simp [Moment.after, System.after, same, Moment.given?, Moment.lacking?, Moment.step?]

/-- **The identifiers that were given out** are the first ones of the source. -/
theorem Run.given_eq (run : Run host sources past s) :
    past.filterMap Moment.given? = (List.range s.state.ids).map sources.id := by
  -- Induction on the run: a move gives out the identifier that the count leads to, or none.
  induction run with
  | start => rfl
  | @step past s run move sound ih =>
    obtain ⟨count, first⟩ := Moment.ids_after (m := ⟨s, move⟩) run.closed sound
    have after : (s.after move).state.ids = (Moment.after ⟨s, move⟩).state.ids := rfl
    rw [List.filterMap_append, ih, after, count]
    cases given : (⟨s, move⟩ : Moment).given? with
    | none => simp [given]
    | some id =>
      rw [run.sources_eq] at first
      simp [given, List.range_succ, first id given]

theorem Moment.lacking?_eq_some_iff : m.lacking? = some (i, e) ↔
    ∃ h x c, m.Takes i h x (.built c e) ∧ (m.before.state.event e).id = .nil := by
  constructor
  · intro lacking
    unfold Moment.lacking? at lacking
    split at lacking
    · next j h x c f step =>
      split at lacking
      · next nil =>
        obtain ⟨⟩ := lacking
        unfold Moment.step? at step
        split at step
        · next n move =>
          obtain ⟨call, there, same⟩ := Option.map_eq_some_iff.mp step
          obtain ⟨⟩ := same
          exact ⟨h, x, c, ⟨move, there⟩, nil⟩
        · cases step
      · cases lacking
    · cases lacking
  · rintro ⟨h, x, c, takes, nil⟩
    simp [Moment.lacking?, takes.step?_eq, nil]

/-- A capture that found an active client and built an event, which had no identifier when it was
to be stamped. -/
def Lacked (past : List Moment) (i : Nat) : Prop :=
  ∃ h x c e ev m₁ m₂ m₃, List.Sublist [m₁, m₂, m₃] past ∧ m₁.Looks i h x c ∧
    m₂.Builds i h x c e ev ∧ m₃.Takes i h x (.built c e) ∧ (m₃.before.state.event e).id = .nil

/-- The captures that stamp an event without an identifier are those that were in want of one. -/
theorem Run.mem_lacking_iff (run : Run host sources past s) :
    i ∈ (past.filterMap Moment.lacking?).map Prod.fst ↔ Lacked past i := by
  simp only [List.mem_map, List.mem_filterMap]
  constructor
  · rintro ⟨⟨i, e⟩, ⟨m, there, lacking⟩, rfl⟩
    obtain ⟨h, x, c, takes, nil⟩ := Moment.lacking?_eq_some_iff.mp lacking
    obtain ⟨before, later, rfl, first, -⟩ := run.split there
    obtain ⟨m₁, m₂, ev, steps, looks, builds⟩ := (first.course takes.call_eq).of_built
    have all : List.Sublist [m₁, m₂] before := steps ▸ List.filter_sublist
    refine ⟨h, x, c, e, ev, m₁, m₂, m, ?_, looks, builds, takes, nil⟩
    exact all.append (List.singleton_sublist.mpr List.mem_cons_self)
  · rintro ⟨h, x, c, e, ev, m₁, m₂, m₃, all, -, -, takes, nil⟩
    exact ⟨(i, e), ⟨m₃, all.subset (by simp),
      Moment.lacking?_eq_some_iff.mpr ⟨h, x, c, takes, nil⟩⟩, rfl⟩

/-- No capture stamps more than one event. -/
theorem Run.lacking_nodup (run : Run host sources past s) :
    ((past.filterMap Moment.lacking?).map Prod.fst).Nodup := by
  rw [List.Nodup, List.pairwise_map, List.pairwise_filterMap]
  refine run.pairwise_rank_lt.imp fun order d there d' there' same => ?_
  obtain ⟨h, x, c, takes, -⟩ := Moment.lacking?_eq_some_iff.mp there
  obtain ⟨k, y, c', takes', -⟩ := Moment.lacking?_eq_some_iff.mp there'
  rw [← same] at takes'
  exact Nat.lt_irrefl 2 (order d.1 _ _ _ _ _ _ takes takes')

theorem length_given (past : List Moment) :
    (past.filterMap Moment.given?).length = (past.filterMap Moment.lacking?).length := by
  simp only [List.length_filterMap_eq_countP, Moment.given?, Option.isSome_map]

/-- **The accounts of a run**: what its history tells of the state at its end. -/
structure Run.Accounts (past : List Moment) (s : System) : Prop where
  /-- A transport that keeps events has those that enabled clients which held it were given to send,
  by captures or directly, since it was emptied last: each one, once, and in order. -/
  kept : ∀ r events, s.state.transport r = .memory events →
    events = (sinceClear r past).filterMap (·.sentTo r)
  /-- A hub has recorded the identifier other than nil that a capture through it returned last. -/
  last : ∀ h, (s.state.hub h).last? = (past.filterMap (·.returned h)).getLast?
  /-- All identifiers that the source gave out were given to events, and no two are the same. -/
  given : (past.filterMap Moment.given?).length = s.state.ids ∧
    (past.filterMap Moment.given?).Nodup
  /-- There are as many of them as captures that were in want of one. -/
  lacked : ∃ captures : List Nat, captures.Nodup ∧
    captures.length = (past.filterMap Moment.given?).length ∧
    ∀ i, i ∈ captures ↔ Lacked past i

/-- **What a run leaves behind.** From the first state on, whatever captures do step by step and
whatever is done in between, what transports keep, what hubs recorded and how many identifiers were
given out is what the history tells. -/
theorem Run.accounts (run : Run host sources past s)
    (distinct : ∀ a < s.state.ids, ∀ b < s.state.ids, sources.id a = sources.id b → a = b) :
    Run.Accounts past s := by
  constructor
  case kept =>
    intro r events memory
    exact run.kept_eq memory
  case last => exact run.last?_eq
  case given =>
    rw [run.given_eq]
    refine ⟨by simp, List.nodup_range.map_on fun a ha b hb => ?_⟩
    exact distinct a (List.mem_range.mp ha) b (List.mem_range.mp hb)
  case lacked =>
    refine ⟨(past.filterMap Moment.lacking?).map Prod.fst, run.lacking_nodup, ?_, ?_⟩
    · rw [List.length_map, length_given]
    · intro i
      exact run.mem_lacking_iff

/-- Two events are captured in turns, the transport is emptied in between, and the first event is
sent once more in the end. -/
theorem Run.accounts_twoEvents : ∃ past s,
    Run Telemetry.oneHub.host Telemetry.oneHub.sources past s ∧
    (∀ a < s.state.ids, ∀ b < s.state.ids,
      Telemetry.oneHub.sources.id a = Telemetry.oneHub.sources.id b → a = b) ∧
    s.state.ids = 2 ∧ s.state.transport ⟨0⟩ = .memory [⟨1⟩, ⟨0⟩] ∧ Run.Accounts past s := by
  have run := (Run.start : Run Telemetry.oneHub.host Telemetry.oneHub.sources [] _)
    |>.step (.change (.addTransport (.memory []))) rfl
    |>.step (.change (.addClient ⟨{}, ⟨0⟩⟩)) Nat.one_pos
    |>.step (.change (.addHub (some ⟨0⟩))) (by rintro c ⟨⟩; exact Nat.one_pos)
    |>.step (.change (.addEvent (.ofRecords [] .error))) trivial
    |>.step (.change (.addEvent (.ofRecords [] .fatal))) trivial
    |>.step (.begin ⟨0⟩ (.event ⟨0⟩)) ⟨Nat.one_pos, by rintro e ⟨⟩; exact Nat.two_pos⟩
    |>.step (.begin ⟨0⟩ (.event ⟨1⟩)) ⟨Nat.one_pos, by rintro e ⟨⟩; exact Nat.one_lt_two⟩
    |>.step (.advance 0) ⟨_, rfl, trivial⟩
    |>.step (.advance 1) ⟨_, rfl, trivial⟩
    |>.step (.advance 1) ⟨_, rfl, trivial⟩
    |>.step (.advance 0) ⟨_, rfl, trivial⟩
    |>.step (.advance 0) ⟨_, rfl, trivial⟩
    |>.step (.advance 1) ⟨_, rfl, trivial⟩
    |>.step (.advance 0) ⟨_, rfl, trivial⟩
    |>.step (.clear ⟨0⟩) trivial
    |>.step (.advance 1) ⟨_, rfl, trivial⟩
    |>.step (.advance 1) ⟨_, rfl, trivial⟩
    |>.step (.advance 0) ⟨_, rfl, trivial⟩
    |>.step (.send ⟨0⟩ ⟨0⟩) ⟨Nat.one_pos, Nat.two_pos⟩
  have distinct : ∀ a < 2, ∀ b < 2,
      Telemetry.oneHub.sources.id a = Telemetry.oneHub.sources.id b → a = b := by
    decide
  exact ⟨_, _, run, distinct, rfl, rfl, Run.accounts run distinct⟩

end CauseTrail
