import CauseTrail.Proofs.Telemetry.Sending
import CauseTrail.Telemetry.Start

/-!
# What later states keep

Whatever is done, what was put into a registry stays there: an event keeps its records and its
identifier once it has one, a client keeps its transport, and the references that layers and clients
hold still lead to members. What does not concern a capture leaves alone in addition what transports
keep, what hubs recorded, and the count of identifiers.

## Main definitions

* `Registry.Grows`: the members of a registry are still there
* `Telemetry.Closed`: layers hold clients, and clients transports, that are there
* `Telemetry.Extends`: what every step keeps
* `Telemetry.Silent`: what every step keeps that is no part of a capture

## Main results

* `Telemetry.extends_stamp`, `Telemetry.extends_send`, `Telemetry.extends_record`: the steps of a
  capture
* `Telemetry.silent_bind`, `Telemetry.silent_leave`, `Telemetry.silent_start`: steps that are none
-/

namespace CauseTrail

/-! ## Registries -/

/-- The members of a registry are still there, each in a relation to what it was. Where there was
none, what is found has a property if it had it. -/
structure Registry.Grows {α : Type} (P : α → α → Prop) (Q : α → Prop) (r r' : Registry α) :
    Prop where
  size_le : r.size ≤ r'.size
  held : ∀ i, r.Holds i → P (r.get i) (r'.get i)
  other : ∀ i, ¬ r.Holds i → Q (r.get i) → Q (r'.get i)

namespace Registry.Grows

variable {α : Type} {P : α → α → Prop} {Q : α → Prop} {r r' r'' : Registry α}

theorem refl (refl : ∀ a, P a a) (r : Registry α) : r.Grows P Q r :=
  ⟨Nat.le_refl _, fun _ _ => refl _, fun _ _ => id⟩

theorem holds (g : r.Grows P Q r') {i : Ref α} (held : r.Holds i) : r'.Holds i :=
  Nat.lt_of_lt_of_le held g.size_le

theorem trans (trans : ∀ a b c, P a b → P b c → P a c) (along : ∀ a b, P a b → Q a → Q b)
    (g : r.Grows P Q r') (g' : r'.Grows P Q r'') : r.Grows P Q r'' := by
  refine ⟨Nat.le_trans g.size_le g'.size_le,
    fun i held => trans _ _ _ (g.held i held) (g'.held i (g.holds held)), fun i free blank => ?_⟩
  have first := g.other i free blank
  -- what was not there at first may have come by the second of the two
  by_cases held : r'.Holds i
  · exact along _ _ (g'.held i held) first
  · exact g'.other i held first

theorem add (refl : ∀ a, P a a) (r : Registry α) {a : α} (blank : Q a) : r.Grows P Q (r.add a) := by
  refine ⟨Nat.le_succ _, fun i held => ?_, fun i _ old => ?_⟩
  · rw [r.get_add_of_holds a held]
    exact refl _
  · by_cases new : i = r.next
    · rw [new, get_add]
      exact blank
    · rw [r.get_add_of_ne a new]
      exact old

theorem modify (refl : ∀ a, P a a) (r : Registry α) (i : Ref α) {f : α → α}
    (next : P (r.get i) (f (r.get i))) (blank : Q (r.get i) → Q (f (r.get i))) :
    r.Grows P Q (r.modify i f) := by
  refine ⟨Nat.le_refl _, fun j _ => ?_, fun j _ old => ?_⟩ <;> by_cases same : j = i
  · rw [same, get_modify]
    exact next
  · rw [r.get_modify_of_ne f same]
    exact refl _
  · rw [same, get_modify]
    exact blank (same ▸ old)
  · rw [r.get_modify_of_ne f same]
    exact old

end Registry.Grows

/-! ## Events -/

/-- An event goes on from what it was: it has the same records, and the same identifier if it had
one. -/
structure Event.Continues (before after : Event) : Prop where
  records_eq : after.records = before.records
  id_eq : before.id ≠ .nil → after.id = before.id

namespace Event.Continues

variable {a b c : Event}

theorem refl (a : Event) : a.Continues a := ⟨rfl, fun _ => rfl⟩

theorem trans (ab : a.Continues b) (bc : b.Continues c) : a.Continues c := by
  refine ⟨bc.records_eq.trans ab.records_eq, fun given => ?_⟩
  have same := ab.id_eq given
  exact (bc.id_eq (same ▸ given)).trans same

theorem stamped (a : Event) (id : Uuid) (time : Timestamp) : a.Continues (a.stamped id time) :=
  ⟨rfl, fun given => by rw [Event.stamped, identified_of_ne id given]; rfl⟩

theorem filled (a : Event) (o : Options) : a.Continues (a.filled o) := ⟨rfl, fun _ => rfl⟩

end Event.Continues

/-! ## Clients, transports and hubs -/

/-- The client has the transport that it had. -/
def Client.Keeps (before after : Client) : Prop := after.transport = before.transport

/-- The transport keeps no event. -/
def Transport.Blank (r : Transport) : Prop := r.kept = []

/-- The hub has recorded nothing. -/
def Hub.Blank (h : Hub) : Prop := h.last? = none

/-- The hub has recorded nothing since. -/
def Hub.Keeps (before after : Hub) : Prop := after.last? = before.last?

theorem Client.Keeps.refl (c : Client) : c.Keeps c := rfl

theorem Client.Keeps.trans (a b c : Client) (ab : a.Keeps b) (bc : b.Keeps c) : a.Keeps c :=
  Eq.trans bc ab

theorem Hub.Keeps.refl (h : Hub) : h.Keeps h := rfl

theorem Hub.Keeps.trans (a b c : Hub) (ab : a.Keeps b) (bc : b.Keeps c) : a.Keeps c :=
  Eq.trans bc ab

namespace Telemetry

variable {t t' t'' : Telemetry} {h : Ref Hub} {c : Ref Client} {e : Ref Event} {r : Ref Transport}

/-! ## The two relations -/

/-- The clients of layers and the transports of clients are there. -/
structure Closed (t : Telemetry) : Prop where
  client : ∀ h c, some c ∈ (t.hub h).layers → t.clients.Holds c
  transport : ∀ c, t.clients.Holds c → t.transports.Holds (t.client c).transport

/-- The client of the top layer is there. -/
theorem Closed.top (closed : t.Closed) (top : (t.hub h).client? = some c) : t.clients.Holds c := by
  refine closed.client h c ?_
  rw [Hub.client?] at top
  cases layers : (t.hub h).layers with
  | nil => simp [layers] at top
  | cons first below =>
    obtain rfl : first = some c := by simpa [layers] using top
    exact List.mem_cons_self

/-- A hub may get other layers, if the clients of these are there. -/
theorem Closed.changeHub (closed : t.Closed) {f : Hub → Hub}
    (layers : ∀ c, some c ∈ (f (t.hub h)).layers →
      some c ∈ (t.hub h).layers ∨ t.clients.Holds c) : (t.changeHub h f).Closed := by
  refine ⟨fun k c there => ?_, closed.transport⟩
  rw [Telemetry.hub, Telemetry.changeHub] at there
  by_cases same : k = h
  · rw [same, Registry.get_modify] at there
    exact (layers c there).elim (closed.client h c) id
  · rw [t.hubs.get_modify_of_ne f same] at there
    exact closed.client k c there

/-- What every step keeps. -/
structure Extends (t t' : Telemetry) : Prop where
  sources_eq : t'.sources = t.sources
  events : t.events.Grows Event.Continues (fun _ => True) t'.events
  clients : t.clients.Grows Client.Keeps (fun _ => True) t'.clients
  transports_le : t.transports.size ≤ t'.transports.size
  hubs_le : t.hubs.size ≤ t'.hubs.size
  closed : t.Closed → t'.Closed

/-- What every step keeps that is no part of a capture: no transport keeps another event, no hub
recorded another identifier, and no identifier was given out. -/
structure Silent (t t' : Telemetry) : Prop extends Extends t t' where
  ids_eq : t'.ids = t.ids
  transports : t.transports.Grows Eq Transport.Blank t'.transports
  hubs : t.hubs.Grows Hub.Keeps Hub.Blank t'.hubs

theorem Extends.refl (t : Telemetry) : t.Extends t where
  sources_eq := rfl
  events := .refl .refl _
  clients := .refl .refl _
  transports_le := Nat.le_refl _
  hubs_le := Nat.le_refl _
  closed := id

theorem Extends.trans (a : t.Extends t') (b : t'.Extends t'') : t.Extends t'' where
  sources_eq := b.sources_eq.trans a.sources_eq
  events := a.events.trans (fun _ _ _ => .trans) (fun _ _ _ => id) b.events
  clients := a.clients.trans .trans (fun _ _ _ => id) b.clients
  transports_le := Nat.le_trans a.transports_le b.transports_le
  hubs_le := Nat.le_trans a.hubs_le b.hubs_le
  closed := b.closed ∘ a.closed

theorem Silent.refl (t : Telemetry) : t.Silent t where
  toExtends := .refl t
  ids_eq := rfl
  transports := .refl Eq.refl _
  hubs := .refl .refl _

theorem Silent.trans (a : t.Silent t') (b : t'.Silent t'') : t.Silent t'' where
  toExtends := a.toExtends.trans b.toExtends
  ids_eq := b.ids_eq.trans a.ids_eq
  transports := a.transports.trans (fun _ _ _ => .trans) (fun _ _ same => same ▸ id) b.transports
  hubs := a.hubs.trans .trans (fun _ _ same blank => Eq.trans same blank) b.hubs

/-! ## Steps that are no part of a capture -/

theorem silent_note (t : Telemetry) (entry : LogEntry) : t.Silent (t.note entry) :=
  { Silent.refl t with closed := fun closed => ⟨closed.client, closed.transport⟩ }

theorem silent_setCurrent (t : Telemetry) (thread : Thread) (h? : Option (Ref Hub)) :
    t.Silent (t.setCurrent thread h?) :=
  { Silent.refl t with closed := fun closed => ⟨closed.client, closed.transport⟩ }

theorem silent_changeHost (t : Telemetry) (host : Host) : t.Silent { t with host := host } :=
  { Silent.refl t with closed := fun closed => ⟨closed.client, closed.transport⟩ }

theorem silent_addEvent (t : Telemetry) (ev : Event) : t.Silent (t.addEvent ev).1 :=
  { Silent.refl t with
    events := .add .refl _ trivial
    closed := fun closed => ⟨closed.client, closed.transport⟩ }

theorem silent_addTransport (t : Telemetry) {transport : Transport} (blank : transport.Blank) :
    t.Silent (t.addTransport transport).1 :=
  { Silent.refl t with
    transports_le := Nat.le_succ _
    transports := .add Eq.refl _ blank
    closed := fun closed =>
      ⟨closed.client, fun c held => Nat.lt_succ_of_lt (closed.transport c held)⟩ }

theorem silent_addClient (t : Telemetry) (client : Client)
    (held : t.transports.Holds client.transport) : t.Silent (t.addClient client).1 :=
  { Silent.refl t with
    clients := .add .refl _ trivial
    closed := fun closed => by
      refine ⟨fun h c there => Nat.lt_succ_of_lt (closed.client h c there), fun c there => ?_⟩
      rw [Telemetry.client, addClient]
      by_cases new : c = t.clients.next
      · rw [new, Registry.get_add]
        exact held
      · rw [t.clients.get_add_of_ne client new]
        refine closed.transport c (Nat.lt_of_le_of_ne (Nat.le_of_lt_succ there) fun same => new ?_)
        exact Ref.ext same }

theorem silent_addHub (t : Telemetry) {c? : Option (Ref Client)}
    (held : ∀ c, c? = some c → t.clients.Holds c) : t.Silent (t.addHub (.ofClient c?)).1 :=
  { Silent.refl t with
    hubs_le := Nat.le_succ _
    hubs := .add .refl _ rfl
    closed := fun closed => by
      refine ⟨fun h c there => ?_, closed.transport⟩
      rw [Telemetry.hub, addHub] at there
      by_cases new : h = t.hubs.next
      · rw [new, Registry.get_add] at there
        exact held c (List.mem_singleton.mp there).symm
      · rw [t.hubs.get_add_of_ne _ new] at there
        exact closed.client h c there }

/-- A change to a hub that records nothing, where the clients of its layers are there. -/
theorem silent_changeHub (t : Telemetry) (h : Ref Hub) {f : Hub → Hub}
    (last : (t.hub h).Keeps (f (t.hub h)))
    (layers : ∀ c, some c ∈ (f (t.hub h)).layers →
      some c ∈ (t.hub h).layers ∨ t.clients.Holds c) : t.Silent (t.changeHub h f) :=
  { Silent.refl t with
    hubs := .modify .refl _ h last (Eq.trans last)
    closed := fun closed => closed.changeHub layers }

theorem silent_setOptions (t : Telemetry) (c : Ref Client) (o : Options) :
    t.Silent (t.setOptions c o) :=
  { Silent.refl t with
    clients := by
      dsimp only [setOptions]
      exact .modify Client.Keeps.refl _ c (.refl _) fun _ => trivial
    closed := fun closed => by
      refine ⟨closed.client, fun k held => ?_⟩
      rw [Telemetry.client, setOptions]
      by_cases same : k = c
      · rw [same, Registry.get_modify]
        exact closed.transport c (same ▸ held)
      · rw [t.clients.get_modify_of_ne _ same]
        exact closed.transport k held }

theorem silent_setOption (t : Telemetry) (c : Ref Client) (name : String) (v : Value) :
    t.Silent (t.setOption c name v).1 := by
  rw [setOption]
  split
  · exact silent_setOptions t c _
  · exact .refl t

theorem silent_openFile (t : Telemetry) (path : Path) (keep : Bool) :
    t.Silent (t.openFile path keep).1 := by
  rw [openFile]
  split
  · exact .refl t
  · split
    · exact silent_changeHost t _
    · exact .refl t

theorem silent_bind (t : Telemetry) (h : Ref Hub) {c? : Option (Ref Client)}
    (held : ∀ c, c? = some c → t.clients.Holds c) : t.Silent (t.bind h c?) := by
  refine (silent_changeHub t h (.refl _) fun c there => ?_).trans (silent_note _ _)
  rw [Hub.bind] at there
  cases layers : (t.hub h).layers with
  | nil => simp [layers, Hub.replaceTop] at there
  | cons top below =>
    rw [layers, Hub.replaceTop] at there
    rcases List.mem_cons.mp there with new | old
    · exact .inr (held c new.symm)
    · exact .inl (List.mem_cons_of_mem _ old)

theorem silent_enter (t : Telemetry) (h : Ref Hub) {c? : Option (Ref Client)}
    (held : ∀ c, c? = some c → t.clients.Holds c) : t.Silent (t.enter h c?).1 :=
  silent_changeHub t h rfl fun c there =>
    (List.mem_cons.mp there).elim (fun new => .inr (held c new.symm)) .inl

theorem silent_leave (t : Telemetry) (h : Ref Hub) (pushed : Nat) :
    t.Silent (t.leave h pushed) := by
  have popped (t : Telemetry) : t.Silent (t.changeHub h Hub.pop) :=
    silent_changeHub t h rfl fun c there => .inl (List.mem_of_mem_tail there)
  simp only [leave]
  split
  · exact popped t
  · exact (silent_note t _).trans (popped _)

theorem silent_main (t : Telemetry) : t.Silent t.main.1 := by
  have none : ∀ c, none = some c → t.clients.Holds c := by simp
  rw [main]
  split
  · exact .refl t
  · have added := silent_addHub t none
    exact { added with
      closed := fun closed =>
        ⟨(added.closed closed).client, (added.closed closed).transport⟩ }

/-- A current hub that is made holds the client of the main hub, which is there. -/
theorem silent_current (closed : t.Closed) (thread : Thread) : t.Silent (t.current thread).1 := by
  have found := silent_main t
  rw [current]
  split
  · exact .refl t
  · exact (found.trans (silent_addHub _ fun c => (found.closed closed).top)).trans
      (silent_setCurrent _ thread _)

theorem silent_install (closed : t.Closed) (thread : Thread) (held : t.clients.Holds c) :
    t.Silent (t.install thread c) := by
  have found := silent_main t
  have there : ∀ k, some c = some k → t.main.1.clients.Holds k := by
    rintro k ⟨⟩
    exact found.clients.holds held
  have bound := found.trans (silent_bind _ t.main.2 there)
  have current := bound.trans (silent_current (bound.closed closed) thread)
  refine current.trans (silent_bind _ _ ?_)
  rintro k ⟨⟩
  exact current.clients.holds held

theorem blank_ofOptions? {o : Options} {transport : Transport}
    (chosen : Transport.ofOptions? o = .ok transport) : transport.Blank := by
  unfold Transport.ofOptions? Transport.ofValues? at chosen
  repeat' split at chosen
  all_goals cases chosen
  all_goals rfl

theorem silent_start (closed : t.Closed) (thread : Thread) (s : Start) :
    t.Silent (t.start thread s).1 := by
  have logged : t.Silent { t with log := t.log ++ s.log t.host } :=
    { Silent.refl t with closed := fun closed => ⟨closed.client, closed.transport⟩ }
  rw [start]
  dsimp only
  split
  · exact logged
  · next o transport parts =>
    have chosen : Transport.ofOptions? o = .ok transport := by
      obtain ⟨o', -, parts⟩ := Except.bind_eq_ok_iff.mp parts
      obtain ⟨_, chosen, same⟩ := Except.bind_eq_ok_iff.mp parts
      cases same
      exact Except.mapError_eq_ok_iff.mp chosen
    have transported := logged.trans (silent_addTransport _ (blank_ofOptions? chosen))
    have added := transported.trans (silent_addClient _ ⟨o, t.transports.next⟩
      (Nat.lt_succ_self _))
    exact added.trans (silent_install (added.closed closed) thread (Nat.lt_succ_self _))

/-! ## The steps of a capture -/

/-- A change to an event from which it goes on. -/
theorem extends_changeEvent (t : Telemetry) (e : Ref Event) {f : Event → Event}
    (next : (t.event e).Continues (f (t.event e))) : t.Extends (t.changeEvent e f) :=
  { Extends.refl t with
    events := .modify .refl _ e next fun _ => trivial
    closed := fun closed => ⟨closed.client, closed.transport⟩ }

theorem extends_stamp (t : Telemetry) (e : Ref Event) : t.Extends (t.stamp e) := by
  rw [stamp_eq]
  have changed : t.Extends (t.changeEvent e
      (·.stamped (t.sources.id t.ids) (t.sources.time t.readings))) :=
    extends_changeEvent t e (.stamped _ _ _)
  exact { changed with closed := fun closed => ⟨closed.client, closed.transport⟩ }

theorem extends_filledIn (t : Telemetry) (c : Ref Client) (e : Ref Event) :
    t.Extends (t.filledIn c e) := by
  have changed : t.Extends (t.changeEvent e (·.filled (t.client c).options)) :=
    extends_changeEvent t e (.filled _ _)
  rw [filledIn, noteSending]
  split
  · exact changed.trans (silent_note _ _).toExtends
  · exact changed

/-- A transport that takes an event is still there. -/
theorem extends_deliver (t : Telemetry) (r : Ref Transport) (e : Ref Event) :
    t.Extends (t.deliver r e).1 := by
  rw [deliver]
  cases t.transport r with
  | null | failing => exact .refl t
  | memory events =>
    exact { Extends.refl t with closed := fun closed => ⟨closed.client, closed.transport⟩ }
  | console =>
    dsimp only
    split
    · exact .refl t
    · exact { Extends.refl t with closed := fun closed => ⟨closed.client, closed.transport⟩ }
  | jsonl path =>
    dsimp only
    split
    · exact .refl t
    · split
      · exact .refl t
      · exact ((silent_changeHost t _).trans (silent_note _ _)).toExtends

theorem extends_send (t : Telemetry) (c : Ref Client) (e : Ref Event) :
    t.Extends (t.send c e).1 := by
  cases enabled : (t.client c).options.enabled with
  | false =>
    rw [send_disabled e enabled]
    exact .refl t
  | true =>
    have handed := (extends_filledIn t c e).trans (extends_deliver _ (t.client c).transport e)
    rw [send_eq enabled]
    split <;> next eq =>
      rw [eq] at handed
      exact handed

theorem extends_record (t : Telemetry) (h : Ref Hub) (id : Uuid) : t.Extends (t.record h id) := by
  rw [record]
  split
  · exact .refl t
  · exact { Extends.refl t with closed := fun closed => closed.changeHub fun _ => .inl }

theorem extends_clear (t : Telemetry) (r : Ref Transport) : t.Extends (t.clear r) :=
  { Extends.refl t with closed := fun closed => ⟨closed.client, closed.transport⟩ }

end Telemetry

end CauseTrail
