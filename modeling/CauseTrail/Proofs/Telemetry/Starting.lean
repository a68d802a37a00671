import CauseTrail.Proofs.Options.Acceptance
import CauseTrail.Proofs.Telemetry.Interleaving
import CauseTrail.Proofs.Telemetry.Layering

/-!
# Starting all or nothing

A start either fails before it touches a hub, or puts its client on top of two hubs that may be one:
the main hub and the current hub of its thread, which are made if there were none. Nothing else
changes, neither the layers below nor what hubs have recorded nor the hubs of other threads. A
thread without a hub takes over the client of the main hub when it asks for its own, be it long
after the start.

## Main definitions

* `Telemetry.Rooted`: the hubs that are referred to are there, and all hubs have layers
* `Telemetry.Tops`: a slot whose hub has another client on top now
* `Telemetry.Installed`: what a start that succeeds leaves
* `Telemetry.Starts`: what a start does, and when it fails

## Main results

* `Telemetry.hub_install`, `Telemetry.hub_start`: any hub that was there, after a start
* `System.main?_afterMoves`: the main hub stays the main hub
* `Telemetry.start_starts`: a start is whole or leaves the hubs alone
-/

namespace CauseTrail

namespace Telemetry

variable {t t' : Telemetry} {thread other : Thread} {h k m : Ref Hub} {c : Ref Client}
  {c? : Option (Ref Client)} {s : Start}

/-- The hubs of the slots are there, and no hub is without layers, as in whatever is reached from a
state without hubs. -/
structure Rooted (t : Telemetry) : Prop where
  main : ∀ h, t.main? = some h → t.hubs.Holds h
  current : ∀ thread h, t.current? thread = some h → t.hubs.Holds h
  layers : ∀ h, t.hubs.Holds h → (t.hub h).layers ≠ []

/-- A slot has a hub with a client on top: the hub that it had, the layers below being the same, or
a new one with a single layer. -/
inductive Tops (t t' : Telemetry) (c : Ref Client) : Option (Ref Hub) → Option (Ref Hub) → Prop where
  | kept {h : Ref Hub} {top : Option (Ref Client)} {below : List (Option (Ref Client))}
      (before : (t.hub h).layers = top :: below) (after : (t'.hub h).layers = some c :: below) :
      Tops t t' c (some h) (some h)
  | made {h : Ref Hub} (new : ¬ t.hubs.Holds h) (held : t'.hubs.Holds h)
      (hub_eq : t'.hub h = .ofClient (some c)) : Tops t t' c none (some h)

/-- What a slot had on top is told by the hubs alone. -/
theorem Tops.of_hubs_eq {u : Telemetry} {slot slot' : Option (Ref Hub)} (same : u.hubs = t.hubs)
    (tops : u.Tops t' c slot slot') : t.Tops t' c slot slot' := by
  have hub : u.hub = t.hub := by
    funext h
    rw [Telemetry.hub, Telemetry.hub, same]
  cases tops with
  | kept before after => exact .kept (hub ▸ before) after
  | made new held hub_eq => exact .made (same ▸ new) held hub_eq

/-! ## Slots -/

theorem main_of_some (here : t.main? = some h) : t.main = (t, h) := by
  rw [main, here]

theorem main_of_none (free : t.main? = none) :
    t.main = ({ (t.addHub (.ofClient none)).1 with main? := some t.hubs.next }, t.hubs.next) := by
  rw [main, free]
  rfl

theorem current_of_some (here : t.current? thread = some h) : t.current thread = (t, h) := by
  rw [current, here]

/-- A thread without a current hub gets a new one with the client of the main hub. -/
theorem current_of_none (here : t.main? = some m) (free : t.current? thread = none) :
    t.current thread =
      ((t.addHub (.ofClient (t.hub m).client?)).1.setCurrent thread (some t.hubs.next),
        t.hubs.next) := by
  rw [current, free, main_of_some here]
  rfl

/-- To ask for the current hub of a thread is nothing to other threads. -/
theorem current?_current_of_ne (t : Telemetry) (apart : other ≠ thread) :
    (t.current thread).1.current? other = t.current? other := by
  cases slot : t.current? thread with
  | some k => rw [current_of_some slot]
  | none =>
    rw [current, slot]
    exact (current?_setCurrent_of_ne _ _ apart).trans (congrFun (current?_main t) other)

/-- The main hub is one that is there only if it was the main hub before. -/
theorem eq_main_iff (held : t.hubs.Holds h) : h = t.main.2 ↔ t.main? = some h := by
  cases slot : t.main? with
  | some m => rw [main_of_some slot, Option.some.injEq, eq_comm]
  | none =>
    rw [main_of_none slot]
    exact iff_of_false held.ne_next (by simp)

/-- The current hub of a thread is one that is there only if it was its current hub before. -/
theorem eq_current_iff (held : t.hubs.Holds h) :
    h = (t.current thread).2 ↔ t.current? thread = some h := by
  cases slot : t.current? thread with
  | some k => rw [current_of_some slot, Option.some.injEq, eq_comm]
  | none =>
    have later : t.main.1.hubs.Holds h := (tidy_main t).holds held
    have made : (t.current thread).2 = t.main.1.hubs.next := by
      rw [current, slot]
      rfl
    rw [made]
    exact iff_of_false later.ne_next (by simp)

/-! ## Installing -/

/-- The state with the client of the main hub replaced. -/
def bindMain (t : Telemetry) (c? : Option (Ref Client)) : Telemetry := t.main.1.bind t.main.2 c?

/-- The state with the client of the current hub of a thread replaced. -/
def bindCurrent (t : Telemetry) (thread : Thread) (c? : Option (Ref Client)) : Telemetry :=
  (t.current thread).1.bind (t.current thread).2 c?

theorem install_eq (t : Telemetry) (thread : Thread) (c : Ref Client) :
    t.install thread c = (t.bindMain (some c)).bindCurrent thread (some c) := rfl

theorem tidy_bindMain (t : Telemetry) (c? : Option (Ref Client)) : t.Tidy (t.bindMain c?) :=
  (tidy_main t).trans (tidy_bind _ _ _)

theorem hub_bindMain (held : t.hubs.Holds h) (c? : Option (Ref Client)) :
    (t.bindMain c?).hub h = if t.main? = some h then (t.hub h).bind c? else t.hub h := by
  simp only [bindMain, hub_bind, eq_main_iff held]
  by_cases here : t.main? = some h
  · rw [if_pos here, if_pos here, main_of_some here]
  · rw [if_neg here, if_neg here, hub_main held]

/-- Binding to the current hub touches no other one that was there. -/
theorem hub_bindCurrent (held : t.hubs.Holds h) (c? : Option (Ref Client)) :
    (t.bindCurrent thread c?).hub h =
      if t.current? thread = some h then (t.hub h).bind c? else t.hub h := by
  simp only [bindCurrent, hub_bind, eq_current_iff held]
  by_cases here : t.current? thread = some h
  · rw [if_pos here, if_pos here, current_of_some here]
  · rw [if_neg here, if_neg here, hub_current thread held]

theorem main?_bindMain (t : Telemetry) (c? : Option (Ref Client)) :
    (t.bindMain c?).main? = some t.main.2 := main?_main t

theorem current?_bindMain (t : Telemetry) (c? : Option (Ref Client)) :
    (t.bindMain c?).current? = t.current? := current?_main t

theorem current?_bindCurrent (t : Telemetry) (thread : Thread) (c? : Option (Ref Client)) :
    (t.bindCurrent thread c?).current? thread = some (t.current thread).2 :=
  current?_current t thread

/-- A client that is bound to a new hub is that of its single layer. -/
theorem hub_bind_new {u : Telemetry} {d? : Option (Ref Client)}
    (added : u.hubs = t.hubs.add (.ofClient d?)) (c? : Option (Ref Client)) :
    (u.bind t.hubs.next c?).hubs.Holds t.hubs.next ∧
      (u.bind t.hubs.next c?).hub t.hubs.next = .ofClient c? := by
  constructor
  · change u.hubs.Holds t.hubs.next
    rw [added, Registry.holds_add_iff]
    exact .inr rfl
  · rw [hub_bind, if_pos rfl, hub, added, Registry.get_add]
    rfl

theorem hub_bindMain_next (free : t.main? = none) (c? : Option (Ref Client)) :
    t.main.2 = t.hubs.next ∧ (t.bindMain c?).hubs.Holds t.hubs.next ∧
      (t.bindMain c?).hub t.hubs.next = .ofClient c? := by
  rw [bindMain, main_of_none free]
  exact ⟨rfl, hub_bind_new rfl c?⟩

theorem hub_bindCurrent_next (here : t.main? = some m) (free : t.current? thread = none)
    (c? : Option (Ref Client)) :
    (t.current thread).2 = t.hubs.next ∧ (t.bindCurrent thread c?).hubs.Holds t.hubs.next ∧
      (t.bindCurrent thread c?).hub t.hubs.next = .ofClient c? := by
  rw [bindCurrent, current_of_none here free]
  exact ⟨rfl, hub_bind_new rfl c?⟩

theorem main?_bindCurrent (here : t.main? = some m) (thread : Thread) (c? : Option (Ref Client)) :
    (t.bindCurrent thread c?).main? = some m := by
  change (t.current thread).1.main? = some m
  cases slot : t.current? thread with
  | some k => rwa [current_of_some slot]
  | none => rwa [current_of_none here slot]

theorem main?_install (here : t.main? = some m) (thread : Thread) (c : Ref Client) :
    (t.install thread c).main? = some m := by
  rw [install_eq]
  apply main?_bindCurrent
  rw [main?_bindMain, main_of_some here]

/-- **Installing** puts a client on top of two slots' hubs and leaves the other hubs alone. -/
theorem hub_install (held : t.hubs.Holds h) (thread : Thread) (c : Ref Client) :
    (t.install thread c).hub h =
      if t.main? = some h ∨ t.current? thread = some h then (t.hub h).bind (some c)
      else t.hub h := by
  rw [install_eq, hub_bindCurrent ((tidy_bindMain t _).holds held), current?_bindMain,
    hub_bindMain held]
  -- a hub that is both is bound twice, which is to be bound once
  have twice : ((t.hub h).bind (some c)).bind (some c) = (t.hub h).bind (some c) := by
    rcases t.hub h with ⟨_ | _, _⟩ <;> rfl
  by_cases isMain : t.main? = some h <;> by_cases isCurrent : t.current? thread = some h <;>
    simp [isMain, isCurrent, twice]

/-- A slot's hub that was there has the client on top. -/
theorem tops_kept (rooted : t.Rooted) (held : t.hubs.Holds h)
    (bound : t'.hub h = (t.hub h).bind (some c)) : t.Tops t' c (some h) (some h) := by
  obtain ⟨top, below, layers⟩ := List.exists_cons_of_ne_nil (rooted.layers h held)
  refine .kept layers ?_
  rw [bound, Hub.bind, layers, Hub.replaceTop]

theorem tops_main (rooted : t.Rooted) (thread : Thread) (c : Ref Client) :
    t.Tops (t.install thread c) c t.main? (t.install thread c).main? := by
  have after : (t.install thread c).main? = some t.main.2 := by
    rw [install_eq]
    exact main?_bindCurrent (main?_bindMain t _) thread _
  rw [after]
  cases slot : t.main? with
  | some m =>
    rw [main_of_some slot]
    have held := rooted.main m slot
    exact tops_kept rooted held (by rw [hub_install held, if_pos (.inl slot)])
  | none =>
    obtain ⟨same, held, made⟩ := hub_bindMain_next slot (some c)
    rw [same]
    refine .made (Nat.lt_irrefl _) ?_ ?_
    · exact ((tidy_current _ thread).trans (tidy_bind _ _ _)).holds held
    · -- the second binding is on this hub again or leaves it alone
      rw [install_eq, hub_bindCurrent held, made]
      split <;> rfl

/-- A start puts the client on the current hub, which is a new one if there was none. -/
theorem tops_current (rooted : t.Rooted) (thread : Thread) (c : Ref Client) :
    t.Tops (t.install thread c) c (t.current? thread) ((t.install thread c).current? thread) := by
  rw [install_eq, current?_bindCurrent]
  cases slot : t.current? thread with
  | some k =>
    have later : (t.bindMain (some c)).current? thread = some k := by
      rwa [current?_bindMain]
    rw [current_of_some later, ← install_eq]
    have held := rooted.current thread k slot
    exact tops_kept rooted held (by rw [hub_install held, if_pos (.inr slot)])
  | none =>
    have later : (t.bindMain (some c)).current? thread = none := by
      rwa [current?_bindMain]
    obtain ⟨same, held, made⟩ := hub_bindCurrent_next (main?_bindMain t (some c)) later (some c)
    rw [same]
    refine .made ?_ held made
    exact Nat.not_lt.mpr (tidy_bindMain t (some c)).size_le

/-- The only hub that may be new is the one that is the main hub then. -/
theorem holds_bindMain (later : (t.bindMain c?).hubs.Holds h) : t.hubs.Holds h ∨ h = t.main.2 := by
  cases slot : t.main? with
  | some m =>
    rw [bindMain, main_of_some slot] at later
    exact .inl later
  | none =>
    rw [bindMain, main_of_none slot] at later
    rw [main_of_none slot]
    exact (t.hubs.holds_add_iff (.ofClient none)).mp later

theorem holds_bindCurrent (here : t.main? = some m)
    (later : (t.bindCurrent thread c?).hubs.Holds h) :
    t.hubs.Holds h ∨ h = (t.current thread).2 := by
  cases slot : t.current? thread with
  | some k =>
    rw [bindCurrent, current_of_some slot] at later
    exact .inl later
  | none =>
    rw [bindCurrent, current_of_none here slot] at later
    rw [current_of_none here slot]
    exact (t.hubs.holds_add_iff (.ofClient (t.hub m).client?)).mp later

/-- What is left with a client on top of the main hub and of the current hub of a thread, and with
nothing else changed about the hubs. -/
structure Installed (t : Telemetry) (thread : Thread) (c : Ref Client) (t' : Telemetry) : Prop where
  main : t.Tops t' c t.main? t'.main?
  current : t.Tops t' c (t.current? thread) (t'.current? thread)
  slots : ∀ other, other ≠ thread → t'.current? other = t.current? other
  hubs : ∀ h, t.hubs.Holds h → t.main? ≠ some h → t.current? thread ≠ some h →
    t'.hub h = t.hub h
  below : ∀ h, t.hubs.Holds h → SameBelow (t.hub h).layers (t'.hub h).layers
  last : ∀ h, t.hubs.Holds h → (t'.hub h).last? = (t.hub h).last?
  made : ∀ h, t'.hubs.Holds h → t.hubs.Holds h ∨ t'.main? = some h ∨ t'.current? thread = some h

theorem installed_install (rooted : t.Rooted) (thread : Thread) (c : Ref Client) :
    t.Installed thread c (t.install thread c) where
  main := tops_main rooted thread c
  current := tops_current rooted thread c
  slots other apart := by
    have bound := congrFun (current?_bindMain t (some c)) other
    rw [install_eq, ← bound]
    exact current?_current_of_ne _ apart
  hubs h held apart apart' := by
    rw [hub_install held, if_neg (not_or.mpr ⟨apart, apart'⟩)]
  below := (tidy_install t thread c).sameBelow
  last h held := by
    rw [hub_install held]
    split <;> rfl
  made h later := by
    rw [install_eq] at later ⊢
    rcases holds_bindCurrent (main?_bindMain t _) later with later | new
    · rcases holds_bindMain later with held | new
      · exact .inl held
      · exact .inr (.inl (by rw [main?_bindCurrent (main?_bindMain t _), new]))
    · exact .inr (.inr (by rw [current?_bindCurrent, new]))

/-- To ask for the main hub changes hubs and its slot at most. -/
theorem exists_main_eq (t : Telemetry) :
    ∃ hubs main?, t.main.1 = { t with hubs := hubs, main? := main? } := by
  rw [main]
  split <;> exact ⟨_, _, rfl⟩

/-- To ask for the current hub changes hubs and slots at most. -/
theorem exists_current_eq (t : Telemetry) (thread : Thread) :
    ∃ hubs main? current?, (t.current thread).1 =
      { t with hubs := hubs, main? := main?, current? := current? } := by
  rw [current]
  split
  · exact ⟨_, _, _, rfl⟩
  · obtain ⟨hubs, main?, found⟩ := t.exists_main_eq
    simp only [addHub, setCurrent, found]
    exact ⟨_, _, _, rfl⟩

/-- Installing changes hubs, slots and the log, and nothing else. -/
theorem exists_install_eq (t : Telemetry) (thread : Thread) (c : Ref Client) :
    ∃ hubs main? current? log, t.install thread c =
      { t with hubs := hubs, main? := main?, current? := current?, log := log } := by
  obtain ⟨hubs, main?, found⟩ := t.exists_main_eq
  obtain ⟨hubs', main?', current?', found'⟩ := (t.bindMain (some c)).exists_current_eq thread
  rw [install_eq, bindCurrent, found', bindMain, found]
  exact ⟨_, _, _, _, rfl⟩

/-- To install a client adds neither clients nor transports. -/
theorem registries_install (t : Telemetry) (thread : Thread) (c : Ref Client) :
    (t.install thread c).clients = t.clients ∧ (t.install thread c).transports = t.transports := by
  obtain ⟨_, _, _, _, after⟩ := t.exists_install_eq thread c
  rw [after]
  exact ⟨rfl, rfl⟩

/-! ## Starting -/

/-- The state after it was logged where the options of a start come from. -/
def logged (t : Telemetry) (s : Start) : Telemetry := { t with log := t.log ++ s.log t.host }

/-- A start that fails leaves everything but the log. -/
theorem start_of_error {e : StartError} (failed : (t.start thread s).2 = .error e) :
    (t.start thread s).1 = t.logged s := by
  rw [start] at failed ⊢
  dsimp only at failed ⊢
  split at failed
  · rfl
  · cases failed

/-- A start that succeeds makes a client, and installs it. -/
theorem start_of_ok (started : (t.start thread s).2 = .ok c) :
    ∃ o r, s.parts t.host = .ok (o, r) ∧ c = t.clients.next ∧
      (t.start thread s).1 = ((t.logged s).addClientOver o r).1.install thread c := by
  rw [start] at started ⊢
  dsimp only at started ⊢
  split at started
  · cases started
  · next o r parts =>
    obtain rfl := Except.ok.inj started
    exact ⟨o, r, parts, rfl, rfl⟩

/-- The client of a start is a new one, of the options and the transport that were chosen. -/
theorem client_start (started : (t.start thread s).2 = .ok c) : ¬ t.clients.Holds c ∧
    ∃ o r, s.parts t.host = .ok (o, r) ∧ ((t.start thread s).1.client c).options = o ∧
      (t.start thread s).1.transport ((t.start thread s).1.client c).transport = r := by
  obtain ⟨o, r, parts, rfl, after⟩ := start_of_ok started
  have same := registries_install ((t.logged s).addClientOver o r).1 thread t.clients.next
  have made : (t.start thread s).1.client t.clients.next = ⟨o, t.transports.next⟩ := by
    rw [after, client, same.1]
    exact Registry.get_add _ _
  refine ⟨Nat.lt_irrefl _, o, r, parts, by rw [made], ?_⟩
  rw [made, after, transport, same.2]
  exact Registry.get_add _ _

/-- A start leaves the clients that were there as they were. -/
theorem client_start_of_holds (held : t.clients.Holds c) (thread : Thread) (s : Start) :
    (t.start thread s).1.client c = t.client c := by
  cases started : (t.start thread s).2 with
  | error e =>
    rw [start_of_error started]
    rfl
  | ok c' =>
    obtain ⟨o, r, -, rfl, after⟩ := start_of_ok started
    rw [after, client, (registries_install ((t.logged s).addClientOver o r).1 thread _).1]
    exact Registry.get_add_of_holds _ _ held

/-- A start that succeeds leaves its client installed, and nothing else changed about the hubs. -/
theorem installed_start (rooted : t.Rooted) (started : (t.start thread s).2 = .ok c) :
    t.Installed thread c (t.start thread s).1 := by
  obtain ⟨o, r, -, -, after⟩ := start_of_ok started
  have hubs : ((t.logged s).addClientOver o r).1.hubs = t.hubs := rfl
  have ready : ((t.logged s).addClientOver o r).1.Rooted :=
    ⟨rooted.main, rooted.current, rooted.layers⟩
  have done := installed_install ready thread c
  rw [after]
  exact { done with
    main := done.main.of_hubs_eq hubs
    current := done.current.of_hubs_eq hubs }

/-- **Starting** binds a client to the main hub and to the current hub of the thread or leaves all
hubs alone. -/
theorem hub_start (held : t.hubs.Holds h) (thread : Thread) (s : Start) :
    (t.start thread s).1.hub h =
      match (t.start thread s).2 with
      | .error _ => t.hub h
      | .ok c =>
        if t.main? = some h ∨ t.current? thread = some h then (t.hub h).bind (some c)
        else t.hub h := by
  split
  · next e failed =>
    rw [start_of_error failed]
    rfl
  · next c started =>
    obtain ⟨o, r, -, -, after⟩ := start_of_ok started
    rw [after]
    exact hub_install (t := ((t.logged s).addClientOver o r).1) held thread c

/-- A start changes registries of clients, transports and hubs, slots and the log at most. -/
theorem exists_start_eq (t : Telemetry) (thread : Thread) (s : Start) :
    ∃ transports clients hubs main? current? log, (t.start thread s).1 =
      { t with transports := transports, clients := clients, hubs := hubs, main? := main?
               current? := current?, log := log } := by
  cases started : (t.start thread s).2 with
  | error e =>
    rw [start_of_error started]
    exact ⟨_, _, _, _, _, _, rfl⟩
  | ok c =>
    obtain ⟨o, r, -, -, after⟩ := start_of_ok started
    obtain ⟨_, _, _, _, done⟩ := ((t.logged s).addClientOver o r).1.exists_install_eq thread c
    rw [after, done]
    exact ⟨_, _, _, _, _, _, rfl⟩

theorem error_of_parts {e : StartError} (failed : s.parts t.host = .error e) :
    (t.start thread s).2 = .error e := by
  simp [start, failed]

/-! ## Later -/

/-- The main hub and the current hubs of the threads. -/
def slots (t : Telemetry) : Option (Ref Hub) × (Thread → Option (Ref Hub)) := (t.main?, t.current?)

theorem slots_deliver (t : Telemetry) (r : Ref Transport) (e : Ref Event) :
    (t.deliver r e).1.slots = t.slots := by
  rw [deliver]
  cases t.transport r with
  | null | failing | memory events => rfl
  | console =>
    dsimp only
    split <;> rfl
  | jsonl path =>
    dsimp only
    split
    · rfl
    · split <;> rfl

theorem slots_send (t : Telemetry) (c : Ref Client) (e : Ref Event) :
    (t.send c e).1.slots = t.slots := by
  cases enabled : (t.client c).options.enabled with
  | false => rw [send_disabled e enabled]
  | true =>
    have filled : (t.filledIn c e).slots = t.slots := by
      rw [filledIn, noteSending]
      split <;> rfl
    rw [send_eq enabled, ← filled, ← slots_deliver (t.filledIn c e) (t.client c).transport e]
    split <;> next eq => rw [eq]

end Telemetry

theorem Phase.slots_next (p : Phase) (h : Ref Hub) (x : Subject) (t : Telemetry) :
    (p.next h x t).1.slots = t.slots := by
  cases p with
  | begun => cases active : t.activeClient? h <;> simp [next, active]
  | found c =>
    cases built : x.built t c with
    | error f => simp [next, built]
    | ok ev => cases x <;> simp [next, built, Subject.put, Telemetry.addEvent, Telemetry.slots]
  | built c e => simp [next, Telemetry.stamp_eq, Telemetry.slots]
  | stamped c e =>
    rw [← Telemetry.slots_send t c e, next]
    split <;> next eq => rw [eq]
  | sent id =>
    simp only [next, Telemetry.record]
    split <;> rfl
  | ended => rfl

/-- Whether a change may be one to hubs or slots. -/
def Change.isOnHubs : Change → Bool
  | setOption .. | addEvent _ | addTransport _ | openFile .. | addClient _ | setHost _ => false
  | _ => true

theorem Change.hubs_apply (o : Change) (t : Telemetry) (apart : o.isOnHubs = false) :
    (o.apply t).hubs = t.hubs ∧ (o.apply t).slots = t.slots := by
  cases o with
  | setOption c name v =>
    simp only [apply, Telemetry.setOption]
    split <;> exact ⟨rfl, rfl⟩
  | openFile path keep =>
    simp only [apply, Telemetry.openFile]
    split
    · exact ⟨rfl, rfl⟩
    · split <;> exact ⟨rfl, rfl⟩
  | addEvent | addTransport | addClient | setHost => exact ⟨rfl, rfl⟩
  | _ => cases apart

theorem Telemetry.slots_leave (t : Telemetry) (h : Ref Hub) (pushed : Nat) :
    (t.leave h pushed).slots = t.slots := by
  simp only [leave]
  split <;> rfl

theorem Change.main?_apply {t : Telemetry} {m : Ref Hub} (here : t.main? = some m) (o : Change) :
    (o.apply t).main? = some m := by
  have away := o.hubs_apply t
  cases o with
  | leave h pushed => exact (congrArg Prod.fst (t.slots_leave h pushed)).trans here
  | start thread s =>
    rw [apply]
    cases started : (t.start thread s).2 with
    | error e => rwa [Telemetry.start_of_error started]
    | ok c =>
      obtain ⟨o, r, -, -, after⟩ := Telemetry.start_of_ok started
      rw [after]
      exact Telemetry.main?_install (t := ((t.logged s).addClientOver o r).1) here thread c
  | main => rwa [apply, Telemetry.main_of_some here]
  | current thread =>
    rw [apply]
    cases slot : t.current? thread with
    | some k => rwa [Telemetry.current_of_some slot]
    | none => rwa [Telemetry.current_of_none here slot]
  | bind | enter | setCurrent | addHub => exact here
  | setOption | addEvent | addTransport | openFile | addClient | setHost =>
    exact (congrArg Prod.fst (away rfl).2).trans here

/-- A change puts in an event at most, and leaves those that are there. -/
theorem Change.events_apply (t : Telemetry) (o : Change) :
    ((o.apply t).events = t.events ∨ ∃ ev, (o.apply t).events = t.events.add ev) ∧
      (o.apply t).sources = t.sources := by
  cases o with
  | addEvent ev => exact ⟨.inr ⟨ev, rfl⟩, rfl⟩
  | start thread s =>
    obtain ⟨_, _, _, _, _, _, after⟩ := t.exists_start_eq thread s
    rw [apply, after]
    exact ⟨.inl rfl, rfl⟩
  | main =>
    obtain ⟨_, _, after⟩ := t.exists_main_eq
    rw [apply, after]
    exact ⟨.inl rfl, rfl⟩
  | current thread =>
    obtain ⟨_, _, _, after⟩ := t.exists_current_eq thread
    rw [apply, after]
    exact ⟨.inl rfl, rfl⟩
  | leave h pushed =>
    simp only [apply, Telemetry.leave]
    split <;> exact ⟨.inl rfl, rfl⟩
  | setOption c name v =>
    simp only [apply, Telemetry.setOption]
    split <;> exact ⟨.inl rfl, rfl⟩
  | openFile path keep =>
    simp only [apply, Telemetry.openFile]
    split
    · exact ⟨.inl rfl, rfl⟩
    · split <;> exact ⟨.inl rfl, rfl⟩
  | bind | enter | setCurrent | addTransport | addClient | addHub | setHost =>
    exact ⟨.inl rfl, rfl⟩

theorem Change.event_apply {t : Telemetry} {e : Ref Event} (held : t.events.Holds e) (o : Change) :
    (o.apply t).event e = t.event e := by
  rcases (o.events_apply t).1 with same | ⟨ev, added⟩
  · rw [Telemetry.event, same]
    rfl
  · rw [Telemetry.event, added]
    exact Registry.get_add_of_holds _ _ held

namespace System

variable {s : System} {m : Ref Hub}

/-- The system after some moves. -/
def afterMoves (s : System) (moves : List Move) : System := moves.foldl after s

/-- The main hub is the main hub still after a move. -/
theorem main?_after (here : s.state.main? = some m) (move : Move) :
    (s.after move).state.main? = some m := by
  cases move with
  | begin h x => exact here
  | advance i =>
    rw [after]
    split
    · rw [advance]
      exact (congrArg Prod.fst (Phase.slots_next _ _ _ _)).trans here
    · exact here
  | send c e => exact (congrArg Prod.fst (Telemetry.slots_send _ c e)).trans here
  | clear r => exact here
  | change o => exact o.main?_apply here

/-- **The main hub stays** the main hub, whatever is done. -/
theorem main?_afterMoves (here : s.state.main? = some m) (moves : List Move) :
    (s.afterMoves moves).state.main? = some m := by
  induction moves generalizing s with
  | nil => exact here
  | cons move moves ih => exact ih (main?_after here move)

end System

namespace Telemetry

variable {t : Telemetry} {thread : Thread} {m : Ref Hub} {s : Start}

/-- A thread without a hub gets a new one, with the client that the main hub has then. -/
theorem hub_current_of_none (here : t.main? = some m) (free : t.current? thread = none) :
    ∃ k, (t.current thread).2 = k ∧ ¬ t.hubs.Holds k ∧
      (t.current thread).1.current? thread = some k ∧
      (t.current thread).1.hub k = .ofClient (t.hub m).client? := by
  refine ⟨t.hubs.next, ?_, Nat.lt_irrefl _, ?_, ?_⟩
  · rw [current_of_none here free]
  · rw [current?_current, current_of_none here free]
  · rw [current_of_none here free]
    exact Registry.get_add _ _

end Telemetry

/-! ## Failures -/

namespace Start

variable {s : Start} {host : Host} {o : Options}

/-- Options and a file are refused together. -/
theorem parts_of_both {file : String} (given : s.options? = some o) (named : s.file? = some file) :
    s.parts host = .error (.load (.refused (.optionsAndFile file))) := by
  simp [parts, options, base, given, named]

/-- What the loader fails with, a start without options fails with. -/
theorem parts_of_load {e : LoadError} (free : s.options? = none)
    (failed : ({} : Loader).load host s.path? s.directoryPath? = .error e) :
    s.parts host = .error (.load e) := by
  simp [parts, options, base, free, failed]

/-- An override under another name than those of the options, or with a value that its option
refuses, fails the start. -/
theorem parts_of_override {name : String} {v : Value} (based : s.base host = .ok o)
    (distinct : Mapping.Distinct s.overrides) (given : Mapping.get? s.overrides name = some v)
    (refused : ∀ f : Options.Field, name = f.name → ∃ kind, f.accept v = .error kind) :
    ∃ issues, issues ≠ [] ∧ s.parts host = .error (.overrides issues) := by
  have there : s.overrides ≠ [] := by
    intro empty
    rw [empty] at given
    cases given
  have laid : Mapping.get? (Mapping.update o.dump s.overrides) name = some v := by
    rw [Mapping.get?_update, distinct.get?_reverse, given, Option.some_or]
  have found : Options.issues (Mapping.update o.dump s.overrides) ≠ [] := by
    rw [Options.issues, ne_eq, List.append_eq_nil_iff, not_and_or]
    by_cases named : ∃ f : Options.Field, name = f.name
    · -- the option is among those that are asked, and refuses its value
      obtain ⟨f, rfl⟩ := named
      obtain ⟨kind, refusal⟩ := refused f rfl
      left
      apply List.ne_nil_of_mem (a := ⟨kind, [f.name], v⟩)
      refine List.mem_filterMap.mpr ⟨f, f.mem_all, ?_⟩
      simp [laid, Options.issue?_eq_some_iff.mpr refusal]
    · -- the key is a stray one
      right
      intro none
      rw [List.filterMap_eq_nil_iff] at none
      obtain ⟨f, key⟩ := Options.keyIssue?_eq_none_iff.mp (none _ (Mapping.get?_eq_some laid))
      exact named ⟨f, Value.text.inj key⟩
  refine ⟨_, found, ?_⟩
  have refusal : o.override? s.overrides =
      .error (Options.issues (Mapping.update o.dump s.overrides)) := by
    rw [Options.override?, Options.ofMapping?]
    split
    · next fine => exact absurd fine found
    · rfl
  simp [parts, options, based, there, refusal]

/-- Lines in a file without a path are refused. -/
theorem parts_of_pathless (settled : s.options host = .ok o) (kind : o.transport = .jsonl)
    (free : o.transportPath? = none ∨ o.transportPath? = some "") :
    s.parts host = .error (.transport (.refused .pathRequired)) := by
  have refusal : Transport.ofOptions? o = .error (.refused .pathRequired) := by
    rcases free with free | free <;>
      simp [Transport.ofOptions?, Options.get, kind, free, Options.textOrNull,
        Transport.ofValues?, TransportKind.ofName?_name, Value.truthy]
  simp [parts, settled, refusal]

end Start

namespace Telemetry

variable {t : Telemetry} {thread : Thread} {m : Ref Hub} {s : Start}

/-- What a start of a thread does, and what it fails for. -/
structure Starts (t : Telemetry) (thread : Thread) (s : Start) : Prop where
  /-- A start that fails leaves everything but the log. -/
  failed : ∀ e, (t.start thread s).2 = .error e → (t.start thread s).1 = t.logged s
  both : ∀ o file, s.options? = some o → s.file? = some file →
    (t.start thread s).2 = .error (.load (.refused (.optionsAndFile file)))
  load : ∀ e, s.options? = none →
    ({} : Loader).load t.host s.path? s.directoryPath? = .error e →
    (t.start thread s).2 = .error (.load e)
  /-- An override that names no option, or that is refused by the option that it names. -/
  override : ∀ o name v, s.base t.host = .ok o → Mapping.Distinct s.overrides →
    Mapping.get? s.overrides name = some v →
    (∀ f : Options.Field, name = f.name → ∃ kind, f.accept v = .error kind) →
    ∃ issues, issues ≠ [] ∧ (t.start thread s).2 = .error (.overrides issues)
  pathless : ∀ o, s.options t.host = .ok o → o.transport = .jsonl →
    (o.transportPath? = none ∨ o.transportPath? = some "") →
    (t.start thread s).2 = .error (.transport (.refused .pathRequired))
  /-- A start that succeeds puts its client on top of the main hub and of the current hub. -/
  installed : ∀ c, (t.start thread s).2 = .ok c → t.Installed thread c (t.start thread s).1
  /-- The client is a new one, of the options and the transport that were chosen. -/
  client : ∀ c, (t.start thread s).2 = .ok c → ¬ t.clients.Holds c ∧
    ∃ o r, s.parts t.host = .ok (o, r) ∧ ((t.start thread s).1.client c).options = o ∧
      (t.start thread s).1.transport ((t.start thread s).1.client c).transport = r
  /-- A thread that has no hub when it asks for one gets one with this client, whatever was done
  since the start, unless the main hub has another client on top by then. -/
  later : ∀ (c : Ref Client) (calls : List Call) (moves : List Move) (later : Telemetry)
    (m : Ref Hub) (other : Thread), (t.start thread s).2 = .ok c →
    (System.afterMoves ⟨(t.start thread s).1, calls⟩ moves).state = later →
    (t.start thread s).1.main? = some m → (later.hub m).client? = some c →
    later.current? other = none →
    ∃ k, ¬ later.hubs.Holds k ∧ (later.current other).1.current? other = some k ∧
      (later.current other).1.hub k = .ofClient (some c)

/-- **A start** is whole or leaves the hubs alone. -/
theorem start_starts (t : Telemetry) (rooted : t.Rooted) (thread : Thread) (s : Start) :
    t.Starts thread s where
  failed e failed := start_of_error failed
  both o file given named := error_of_parts (Start.parts_of_both given named)
  load e free failed := error_of_parts (Start.parts_of_load free failed)
  override o name v based distinct given refused := by
    obtain ⟨issues, some, failed⟩ := Start.parts_of_override based distinct given refused
    exact ⟨issues, some, error_of_parts failed⟩
  pathless o settled kind free := error_of_parts (Start.parts_of_pathless settled kind free)
  installed c started := installed_start rooted started
  client c := client_start
  later c calls moves later m other started moved here top free := by
    have main : later.main? = some m := by
      rw [← moved]
      exact System.main?_afterMoves here moves
    obtain ⟨k, -, new, slot, hub⟩ := hub_current_of_none main free
    rw [top] at hub
    exact ⟨k, new, slot, hub⟩

/-- A state whose main hub has a layer on top of its own, with a thread that has no hub and another
one that has. -/
def layeredMain : Telemetry :=
  { oneHub with
    hubs := (Registry.empty.add ⟨[none, some ⟨0⟩], none⟩).add (.ofClient none)
    main? := some ⟨0⟩
    current? := fun thread => if thread = .first then none else some ⟨1⟩ }

/-- The laws for a start over a main hub of two layers. -/
theorem start_starts_layeredMain :
    layeredMain.Rooted ∧
      (layeredMain.start .first { options? := some { transport := .memory } }).2 = .ok ⟨1⟩ ∧
      layeredMain.Starts .first { options? := some { transport := .memory } } := by
  have rooted : layeredMain.Rooted := by
    refine ⟨?_, ?_, ?_⟩
    · rintro _ ⟨⟩
      exact Nat.zero_lt_two
    · intro thread h slot
      by_cases first : thread = .first
      · simp [layeredMain, first] at slot
      · obtain rfl : ⟨1⟩ = h := by simpa [layeredMain, first] using slot
        exact Nat.one_lt_two
    · rintro ⟨i⟩ held
      match i, held with
      | 0, _ | 1, _ => exact List.cons_ne_nil _ _
  exact ⟨rooted, rfl, start_starts layeredMain rooted .first _⟩

end Telemetry

end CauseTrail
