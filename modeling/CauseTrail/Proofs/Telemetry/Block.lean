import CauseTrail.Proofs.Telemetry.CaptureOutcome
import CauseTrail.Proofs.Telemetry.Layering

/-!
# Blocks

A block puts a layer on top of a hub, runs a body, and takes the top layer away again. The body is
any program of one thread: it looks at the state, acts on it and goes on by the answer, has blocks
of its own on this hub and on others, and finishes or raises an exception. Whatever it does, the
block takes away the layer that it put.

## Main definitions

* `Act`, `Body`, `Body.exec`: what a thread can do, its programs, and their execution
* `Body.Grounded`: blocks are on hubs that are there
* `Body.Visits`: the states between the steps of a body that lie outside of its blocks on a hub
* `Body.Enclosed`: what a block does to the hub that it is on

## Main results

* `Act.tidy_run`, `Body.tidy_exec`: no layer stays behind, none gets lost, and no depth is noted
* `Body.Visits.sameBelow`: between the steps of a body nothing but the top layer is another one
* `Body.enclosed`: a block gives back the layers as they were
-/

namespace CauseTrail

/-- What a thread can do in one step, by the kind of the answer. -/
inductive Act : Type → Type where
  | bind (h : Ref Hub) (c? : Option (Ref Client)) : Act Unit
  /-- A capture through the given hub, or else through the current one. -/
  | capture (h? : Option (Ref Hub)) (x : Subject) : Act (Except CaptureError Uuid)
  | dispatch (h : Ref Hub) (f : Fault) : Act (Except CaptureError Uuid)
  | send (c : Ref Client) (e : Ref Event) : Act (Except DeliveryError Uuid)
  | start (s : Start) : Act (Except StartError (Ref Client))
  | setOption (c : Ref Client) (name : String) (v : Value) : Act (Except (List Issue) Unit)
  | main : Act (Ref Hub)
  | current : Act (Ref Hub)
  | lastId (h? : Option (Ref Hub)) : Act (Option Uuid)
  | addEvent (e : Event) : Act (Ref Event)
  | changeEvent (e : Ref Event) (f : Event → Event) : Act Unit
  | addTransport (r : Transport) : Act (Ref Transport)
  | openFile (path : Path) (keep : Bool) : Act (Except DeliveryError Transport)
  | clear (r : Ref Transport) : Act Unit
  | addClient (c : Client) : Act (Ref Client)
  | addHub (c? : Option (Ref Client)) : Act (Ref Hub)
  /-- Whatever is done to files, directories and variables. -/
  | changeHost (f : Host → Host) : Act Unit

namespace Act

/-- The state after a thread did something, with the answer. -/
def run (thread : Thread) : {β : Type} → Act β → Telemetry → Telemetry × β
  | _, .bind h c?, t => (t.bind h c?, ())
  | _, .capture h? (.event e), t => t.captureEventFrom thread h? e
  | _, .capture h? (.fault f), t => t.captureFaultFrom thread h? f
  | _, .dispatch h f, t => t.dispatch (.ofHub h) f
  | _, .send c e, t => t.send c e
  | _, .start s, t => t.start thread s
  | _, .setOption c name v, t => t.setOption c name v
  | _, .main, t => t.main
  | _, .current, t => t.current thread
  | _, .lastId h?, t => t.lastId? thread h?
  | _, .addEvent e, t => t.addEvent e
  | _, .changeEvent e f, t => (t.changeEvent e f, ())
  | _, .addTransport r, t => t.addTransport r
  | _, .openFile path keep, t => t.openFile path keep
  | _, .clear r, t => (t.clear r, ())
  | _, .addClient c, t => t.addClient c
  | _, .addHub c?, t => t.addHub (.ofClient c?)
  | _, .changeHost f, t => ({ t with host := f t.host }, ())

end Act

/-- A program of one thread, which ends with an answer or with an exception. -/
inductive Body (ε α : Type) : Type 1 where
  | finish (a : α)
  | raise (x : ε)
  /-- Looks at the state. -/
  | look (next : Telemetry → Body ε α)
  | act {β : Type} (a : Act β) (next : β → Body ε α)
  /-- A body inside, with a layer put on top of a hub. What it ends with is handed on or caught. -/
  | block (h : Ref Hub) (c? : Option (Ref Client)) (inner : Body ε α)
      (next : Except ε α → Body ε α)
  /-- A body inside, with a hub as the current one. -/
  | within (h : Ref Hub) (inner : Body ε α) (next : Except ε α → Body ε α)

namespace Body

variable {ε α : Type}

/-- The state that a body leaves, with what it ends with. -/
def exec (thread : Thread) : Body ε α → Telemetry → Telemetry × Except ε α
  | finish a, t => (t, .ok a)
  | raise x, t => (t, .error x)
  | look next, t => (next t).exec thread t
  | act a next, t =>
    let done := a.run thread t
    (next done.2).exec thread done.1
  | block h c? inner next, t =>
    let done := t.withClient h c? (inner.exec thread)
    (next done.2).exec thread done.1
  | within h inner next, t =>
    let done := t.run thread h (inner.exec thread)
    (next done.2).exec thread done.1

/-- Each block is on a hub that is there when it begins. -/
def Grounded (thread : Thread) : Body ε α → Telemetry → Prop
  | finish _, _ => True
  | raise _, _ => True
  | look next, t => (next t).Grounded thread t
  | act a next, t =>
    let done := a.run thread t
    (next done.2).Grounded thread done.1
  | block h c? inner next, t =>
    let done := t.withClient h c? (inner.exec thread)
    t.hubs.Holds h ∧ inner.Grounded thread (t.enter h c?).1 ∧
      (next done.2).Grounded thread done.1
  | within h inner next, t =>
    let done := t.run thread h (inner.exec thread)
    inner.Grounded thread (t.setCurrent thread (some h)) ∧ (next done.2).Grounded thread done.1

/-- The states that a body comes through between its steps, the first and the last one among them,
outside of its blocks on a hub. -/
inductive Visits (thread : Thread) (h : Ref Hub) : Body ε α → Telemetry → Telemetry → Prop where
  | here {b : Body ε α} {t : Telemetry} : Visits thread h b t t
  | look {next : Telemetry → Body ε α} {t s : Telemetry} (later : Visits thread h (next t) t s) :
      Visits thread h (.look next) t s
  | act {β : Type} {a : Act β} {next : β → Body ε α} {t s : Telemetry}
      (later : Visits thread h (next (a.run thread t).2) (a.run thread t).1 s) :
      Visits thread h (.act a next) t s
  | inBlock {k : Ref Hub} {c? : Option (Ref Client)} {inner : Body ε α}
      {next : Except ε α → Body ε α} {t s : Telemetry} (other : k ≠ h)
      (inside : Visits thread h inner (t.enter k c?).1 s) :
      Visits thread h (.block k c? inner next) t s
  | afterBlock {k : Ref Hub} {c? : Option (Ref Client)} {inner : Body ε α}
      {next : Except ε α → Body ε α} {t s : Telemetry}
      (later : Visits thread h (next (t.withClient k c? (inner.exec thread)).2)
        (t.withClient k c? (inner.exec thread)).1 s) :
      Visits thread h (.block k c? inner next) t s
  | inHub {k : Ref Hub} {inner : Body ε α} {next : Except ε α → Body ε α} {t s : Telemetry}
      (inside : Visits thread h inner (t.setCurrent thread (some k)) s) :
      Visits thread h (.within k inner next) t s
  | afterHub {k : Ref Hub} {inner : Body ε α} {next : Except ε α → Body ε α} {t s : Telemetry}
      (later : Visits thread h (next (t.run thread k (inner.exec thread)).2)
        (t.run thread k (inner.exec thread)).1 s) :
      Visits thread h (.within k inner next) t s

end Body

open Telemetry

variable {t s : Telemetry} {thread : Thread} {h k : Ref Hub} {c? : Option (Ref Client)}

/-! ## Steps -/

theorem Telemetry.tidy_openFile (t : Telemetry) (path : Path) (keep : Bool) :
    t.Tidy (t.openFile path keep).1 := by
  rw [openFile]
  split
  · exact .refl t
  · split
    · exact .of_hubs_log_eq rfl rfl
    · exact .refl t

theorem Telemetry.tidy_setOption (t : Telemetry) (c : Ref Client) (name : String) (v : Value) :
    t.Tidy (t.setOption c name v).1 := by
  rw [setOption]
  split
  · exact .of_hubs_log_eq rfl rfl
  · exact .refl t

/-- **Nothing that is done in one step** puts a layer on a hub or takes one away. -/
theorem Act.tidy_run {β : Type} (a : Act β) (thread : Thread) (t : Telemetry) :
    t.Tidy (a.run thread t).1 := by
  cases a with
  | bind h c? => exact tidy_bind t h c?
  | capture h? x =>
    have found := tidy_hubOrCurrent t thread h?
    cases x with
    | event e => exact found.trans (tidy_captureEvent _ _ e)
    | fault f => exact found.trans (tidy_captureFault _ _ f)
  | dispatch h f => exact tidy_dispatch t h f
  | send c e => exact tidy_send t c e
  | start s => exact tidy_start t thread s
  | setOption c name v => exact tidy_setOption t c name v
  | main => exact tidy_main t
  | current => exact tidy_current t thread
  | lastId h? => exact tidy_hubOrCurrent t thread h?
  | openFile path keep => exact tidy_openFile t path keep
  | addHub c? => exact tidy_addHub t _
  | addEvent | changeEvent | addTransport | clear | addClient | changeHost =>
    exact .of_hubs_log_eq rfl rfl

/-! ## Blocks -/

/-- A hub that was there still is, with another top layer at most. -/
def Telemetry.KeepsBelow (t : Telemetry) (h : Ref Hub) (s : Telemetry) : Prop :=
  t.hubs.Holds h → s.hubs.Holds h ∧ SameBelow (t.hub h).layers (s.hub h).layers

theorem Telemetry.KeepsBelow.refl (t : Telemetry) : t.KeepsBelow h t := fun held => ⟨held, .refl _⟩

theorem Telemetry.KeepsBelow.trans {u : Telemetry} (a : t.KeepsBelow h s) (b : s.KeepsBelow h u) :
    t.KeepsBelow h u := by
  intro held
  obtain ⟨there, first⟩ := a held
  obtain ⟨there', second⟩ := b there
  exact ⟨there', first.trans second⟩

theorem Telemetry.Tidy.keepsBelow (tidy : t.Tidy s) (h : Ref Hub) : t.KeepsBelow h s :=
  fun held => ⟨tidy.holds held, tidy.sameBelow h held⟩

/-- A tidy body in a hub is tidy. -/
theorem Telemetry.tidy_run {α : Type} {body : Telemetry → Telemetry × α}
    (inside : (t.setCurrent thread (some h)).Tidy (body (t.setCurrent thread (some h))).1) :
    t.Tidy (t.run thread h body).1 :=
  ((tidy_setCurrent t thread _).trans inside).trans (tidy_setCurrent _ thread _)

theorem Telemetry.hub_enter (t : Telemetry) (h k : Ref Hub) (c? : Option (Ref Client)) :
    (t.enter h c?).1.hub k = if k = h then (t.hub h).push c? else t.hub k := rfl

theorem Telemetry.layers_enter (t : Telemetry) (h : Ref Hub) (c? : Option (Ref Client)) :
    ((t.enter h c?).1.hub h).layers = c? :: (t.hub h).layers := by
  rw [hub_enter, if_pos rfl]
  rfl

/-- The depth that a block finds at its end is the one that it began with, if its body is tidy, so
it takes its layer away and notes nothing. -/
theorem Telemetry.withClient_eq {α : Type} {body : Telemetry → Telemetry × α}
    (held : t.hubs.Holds h) (inside : (t.enter h c?).1.Tidy (body (t.enter h c?).1).1) :
    (t.withClient h c? body).1 = (body (t.enter h c?).1).1.changeHub h Hub.pop := by
  have depth : ((body (t.enter h c?).1).1.hub h).depth = (t.enter h c?).2 :=
    (inside.sameBelow h held).length_eq
  simp only [withClient, leave]
  rw [if_pos depth]

/-- A block with a tidy body is tidy, and gives back the layers of its hub as they were. -/
theorem Telemetry.tidy_withClient {α : Type} {body : Telemetry → Telemetry × α}
    (held : t.hubs.Holds h) (inside : (t.enter h c?).1.Tidy (body (t.enter h c?).1).1) :
    t.Tidy (t.withClient h c? body).1 ∧
      ((t.withClient h c? body).1.hub h).layers = (t.hub h).layers := by
  rw [withClient_eq held inside]
  have restored : (((body (t.enter h c?).1).1.changeHub h Hub.pop).hub h).layers =
      (t.hub h).layers := by
    obtain ⟨top, below⟩ := (layers_enter t h c? ▸ inside.sameBelow h held).exists_cons
    rw [hub_changeHub, if_pos rfl, Hub.pop, below, List.tail_cons]
  refine ⟨⟨inside.size_le, fun k heldk => ?_, inside.unwarned⟩, restored⟩
  by_cases same : k = h
  · subst same
    rw [restored]
    exact .refl _
  · have kept := inside.sameBelow k heldk
    rw [hub_enter, if_neg same] at kept
    rwa [hub_changeHub, if_neg same]

namespace Body

variable {ε α : Type} {b : Body ε α}

/-- **A body is tidy**: what its blocks put is taken away again, and in time. -/
theorem tidy_exec (grounded : b.Grounded thread t) : t.Tidy (b.exec thread t).1 := by
  -- Induction on the body: the body of a block is tidy, so the block is.
  induction b generalizing t with
  | finish a => exact .refl t
  | raise x => exact .refl t
  | look next ih => exact ih t grounded
  | act a next ih => exact (a.tidy_run thread t).trans (ih _ grounded)
  | block h c? inner next ihInner ih =>
    obtain ⟨held, groundedInner, groundedNext⟩ := grounded
    exact (tidy_withClient held (ihInner groundedInner)).1.trans (ih _ groundedNext)
  | within h inner next ihInner ih =>
    obtain ⟨groundedInner, groundedNext⟩ := grounded
    exact (tidy_run (ihInner groundedInner)).trans (ih _ groundedNext)

/-- **Between the steps of a body**, outside of its blocks on a hub, nothing but the top layer of
the hub can be another one. -/
theorem Visits.keepsBelow (visits : b.Visits thread h t s) (grounded : b.Grounded thread t) :
    t.KeepsBelow h s := by
  -- Induction on the way to the state: all that was passed by is tidy, and what was begun on
  -- another hub has not touched this one.
  induction visits with
  | here => exact .refl _
  | look _ ih => exact ih grounded
  | act _ ih => exact ((Act.tidy_run _ thread _).keepsBelow h).trans (ih grounded)
  | inBlock other _ ih =>
    intro held
    have inside := ih grounded.2.1 held
    rwa [hub_enter, if_neg other.symm] at inside
  | afterBlock _ ih =>
    obtain ⟨held, groundedInner, groundedNext⟩ := grounded
    have tidy := (tidy_withClient held (tidy_exec groundedInner)).1
    exact (tidy.keepsBelow h).trans (ih groundedNext)
  | inHub _ ih => exact ih grounded.1
  | afterHub _ ih =>
    obtain ⟨groundedInner, groundedNext⟩ := grounded
    exact ((tidy_run (tidy_exec groundedInner)).keepsBelow h).trans (ih groundedNext)

/-- The state that a body leaves is the last one that it comes through. -/
theorem visits_exec (b : Body ε α) (thread : Thread) (h : Ref Hub) (t : Telemetry) :
    b.Visits thread h t (b.exec thread t).1 := by
  -- Induction on the body: the way leads past its blocks, not into them.
  induction b generalizing t with
  | finish a => exact .here
  | raise x => exact .here
  | look next ih => exact .look (ih t t)
  | act a next ih => exact .act (ih _ _)
  | block k c? inner next _ ih => exact .afterBlock (ih _ _)
  | within k inner next _ ih => exact .afterHub (ih _ _)

/-- What a block does to the hub that it is on, and what its body can do to that hub. -/
structure Enclosed (t : Telemetry) (thread : Thread) (h : Ref Hub) (c? : Option (Ref Client))
    (body : Body ε α) : Prop where
  /-- The hub has the layers that it had, with their clients. -/
  restored : ((t.withClient h c? (body.exec thread)).1.hub h).layers = (t.hub h).layers
  /-- No depth was found to be a wrong one. -/
  unwarned : t.Unwarned (t.withClient h c? (body.exec thread)).1
  /-- The block ends with what its body ends with, be it an answer or an exception. -/
  handedOn : (t.withClient h c? (body.exec thread)).2 = (body.exec thread (t.enter h c?).1).2
  /-- There is a layer to take away at the end, and it is the one above those of before. -/
  last : ∃ top, ((body.exec thread (t.enter h c?).1).1.hub h).layers = top :: (t.hub h).layers
  /-- Between the steps one layer lies above those of before. -/
  oneAbove : ∀ s, body.Visits thread h (t.enter h c?).1 s →
    ∃ top, (s.hub h).layers = top :: (t.hub h).layers
  /-- No step that can be taken there changes another layer than that one. -/
  step : ∀ s, body.Visits thread h (t.enter h c?).1 s → ∀ (β : Type) (a : Act β),
    ∃ top, ((a.run thread s).1.hub h).layers = top :: (t.hub h).layers
  /-- A client that is bound to the hub there comes to that layer, and no other hub is touched. -/
  bind : ∀ s, body.Visits thread h (t.enter h c?).1 s → ∀ c?',
    ((s.bind h c?').hub h).layers = c?' :: (t.hub h).layers ∧
      ∀ k, k ≠ h → (s.bind h c?').hub k = s.hub k
  /-- So does the client of a start there, if the hub is the main or the current one. -/
  start : ∀ s, body.Visits thread h (t.enter h c?).1 s →
    s.main? = some h ∨ s.current? thread = some h →
    ∀ given c, (s.start thread given).2 = .ok c →
      ((s.start thread given).1.hub h).layers = some c :: (t.hub h).layers

/-- **Blocks.** A block on a hub gives back the layers of the hub as they were, whatever its body
does in between, and whether the body finishes or raises an exception. -/
theorem enclosed (body : Body ε α) (held : t.hubs.Holds h)
    (grounded : body.Grounded thread (t.enter h c?).1) : body.Enclosed t thread h c? := by
  have tidy := tidy_withClient held (tidy_exec grounded)
  have oneAbove (s : Telemetry) (visits : body.Visits thread h (t.enter h c?).1 s) :
      s.hubs.Holds h ∧ ∃ top, (s.hub h).layers = top :: (t.hub h).layers := by
    obtain ⟨there, below⟩ := visits.keepsBelow grounded held
    rw [layers_enter] at below
    exact ⟨there, below.exists_cons⟩
  constructor
  case restored => exact tidy.2
  case unwarned => exact tidy.1.unwarned
  case handedOn => rfl
  case last =>
    have visits := body.visits_exec thread h (t.enter h c?).1
    exact (oneAbove _ visits).2
  case oneAbove =>
    intro s visits
    exact (oneAbove s visits).2
  case step =>
    intro s visits β a
    obtain ⟨there, top, layers⟩ := oneAbove s visits
    have below := (a.tidy_run thread s).sameBelow h there
    rw [layers] at below
    exact below.exists_cons
  case bind =>
    intro s visits c?'
    obtain ⟨there, top, layers⟩ := oneAbove s visits
    refine ⟨layers_bind layers c?', fun k other => ?_⟩
    rw [hub_bind, if_neg other]
  case start =>
    intro s visits here given c started
    obtain ⟨there, top, layers⟩ := oneAbove s visits
    exact layers_start there layers here started

/-- A state with two hubs, of which the first one has a client, and with an event. -/
def twoHubs : Telemetry :=
  { Telemetry.oneHub with
    events := Registry.empty.add default
    hubs := (Registry.empty.add (.ofClient (some ⟨0⟩))).add (.ofClient none) }

/-- A body that takes the client of the layer that was put for it, has a block on the same hub with
a block on the other one inside, which raises an exception, and after that starts telemetry and
raises another one. -/
def restless : Body String Unit :=
  .act (.bind ⟨0⟩ none) fun _ =>
    .block ⟨0⟩ (some ⟨0⟩)
      (.act (.capture (some ⟨0⟩) (.event ⟨0⟩)) fun _ =>
        .block ⟨1⟩ (some ⟨0⟩) (.act (.bind ⟨0⟩ none) fun _ => .raise "inner") fun
          | .ok a => .finish a
          | .error x => .raise x)
      fun _ => .act (.start { options? := some {} }) fun _ => .raise "outer"

/-- The laws for a body that does much and then fails. -/
theorem enclosed_restless :
    twoHubs.hubs.Holds ⟨0⟩ ∧
      restless.Grounded .first (twoHubs.enter ⟨0⟩ (some ⟨0⟩)).1 ∧
      (restless.exec .first (twoHubs.enter ⟨0⟩ (some ⟨0⟩)).1).2 = .error "outer" ∧
      restless.Enclosed twoHubs .first ⟨0⟩ (some ⟨0⟩) := by
  have held : twoHubs.hubs.Holds ⟨0⟩ := Nat.zero_lt_two
  have grounded : restless.Grounded .first (twoHubs.enter ⟨0⟩ (some ⟨0⟩)).1 := by
    have bound := Act.tidy_run (.bind ⟨0⟩ none) .first (twoHubs.enter ⟨0⟩ (some ⟨0⟩)).1
    have captured := Act.tidy_run (.capture (some ⟨0⟩) (.event ⟨0⟩)) .first
      (((twoHubs.enter ⟨0⟩ (some ⟨0⟩)).1.bind ⟨0⟩ none).enter ⟨0⟩ (some ⟨0⟩)).1
    have other : (((twoHubs.enter ⟨0⟩ (some ⟨0⟩)).1.bind ⟨0⟩ none).enter ⟨0⟩
        (some ⟨0⟩)).1.hubs.Holds ⟨1⟩ :=
      Nat.one_lt_two
    exact ⟨bound.holds held, ⟨captured.holds other, trivial, trivial⟩, trivial⟩
  exact ⟨held, grounded, rfl, enclosed restless held grounded⟩

end Body

end CauseTrail
