import CauseTrail.Proofs.Telemetry.Threads

/-!
# The current hub while a body runs

A thread that runs a body in a hub has this hub as its current one at every point of the body,
except inside of the bodies that it runs in other hubs meanwhile. Whatever the body does, and whether
it ends with an answer or with an exception, its thread then has the current hub that it had before,
or none again. Other threads may do anything in between: slots belong to threads, so no thread has to
rely on more than that the others leave its slot alone, and each one does leave the slots of the
others alone.

## Main definitions

* `Telemetry.Spares`: the slot of a thread is left alone
* `Body.Passage`: a body on its way, with what others do in between
* `Body.Lodged`: what is known of a body that a thread runs in a hub

## Main results

* `Act.spares_run`: what a thread does changes no slot but its own, and that only while it is empty
* `Body.Passage.spares`: so it is with whole bodies
* `Body.passage_exec`: the execution of a body is a passage without others
* `Body.lodged`: the slot of a thread during a body and after it
-/

namespace CauseTrail

/-! ## Slots that are left alone -/

namespace Telemetry

variable {t s u : Telemetry} {thread other : Thread} {h k : Ref Hub}

/-- The slot of a thread is the same in two states, whatever else has changed. -/
def Spares (thread : Thread) (t s : Telemetry) : Prop := s.current? thread = t.current? thread

theorem Spares.trans (a : t.Spares thread s) (b : s.Spares thread u) : t.Spares thread u :=
  Eq.trans b a

/-- What a slot had that was left alone, it has. -/
theorem Spares.current?_eq {h? : Option (Ref Hub)} (same : t.Spares thread s)
    (here : t.current? thread = h?) : s.current? thread = h? :=
  Eq.trans same here

theorem spares_of_slots_eq (same : s.slots = t.slots) (thread : Thread) : Spares thread t s :=
  congrFun (congrArg Prod.snd same) thread

theorem slots_capture (t : Telemetry) (h : Ref Hub) (way : Way) (x : Subject) :
    (t.capture h way x).1.slots = t.slots := by
  have steps (n : Nat) (now : Telemetry × Phase) :
      ((fun now : Telemetry × Phase => now.2.next h x now.1)^[n] now).1.slots = now.1.slots := by
    induction n generalizing now with
    | zero => rfl
    | succ n ih =>
      rw [Function.iterate_succ_apply, ih]
      exact now.2.slots_next h x now.1
  have whole := steps 5 (t, .begun)
  rwa [Phase.iterate_next t h way x] at whole

theorem slots_dispatch (t : Telemetry) (h : Ref Hub) (f : Fault) :
    (t.dispatch (.ofHub h) f).1.slots = t.slots := by
  simp only [dispatch, ProcessingContext.ofHub]
  cases t.isActive h with
  | false => rfl
  | true =>
    dsimp only
    split
    · rfl
    · next ev _ => exact slots_capture (t.addEvent ev).1 h .ofHub (.event (t.addEvent ev).2)

theorem slots_setOption (t : Telemetry) (c : Ref Client) (name : String) (v : Value) :
    (t.setOption c name v).1.slots = t.slots := by
  rw [setOption]
  split <;> rfl

theorem slots_openFile (t : Telemetry) (path : Path) (keep : Bool) :
    (t.openFile path keep).1.slots = t.slots := by
  rw [openFile]
  split
  · rfl
  · split <;> rfl

/-- To ask for the current hub of a thread fills the slot of this thread, if it is empty. -/
theorem spares_current (t : Telemetry) (fixed : other = thread → ∃ k, t.current? thread = some k) :
    t.Spares other (t.current thread).1 := by
  by_cases own : other = thread
  · obtain ⟨k, here⟩ := fixed own
    rw [current_of_some here]
    rfl
  · exact current?_current_of_ne t own

theorem spares_hubOrCurrent (t : Telemetry) (h? : Option (Ref Hub))
    (fixed : other = thread → ∃ k, t.current? thread = some k) :
    t.Spares other (t.hubOrCurrent thread h?).1 := by
  cases h? with
  | none => exact spares_current t fixed
  | some h => rfl

theorem spares_start (t : Telemetry) (s : Start)
    (fixed : other = thread → ∃ k, t.current? thread = some k) :
    t.Spares other (t.start thread s).1 := by
  by_cases own : other = thread
  · subst own
    obtain ⟨k, here⟩ := fixed rfl
    exact (current?_start_of_some here other s).trans here.symm
  · exact current?_start_of_ne t s own

end Telemetry

open Telemetry

variable {t s u : Telemetry} {thread other : Thread} {h k : Ref Hub}

/-- **What a thread does** leaves all slots alone, except that it may fill its own one. -/
theorem Act.spares_run {β : Type} (a : Act β) (t : Telemetry)
    (fixed : other = thread → ∃ k, t.current? thread = some k) :
    t.Spares other (a.run thread t).1 := by
  cases a with
  | capture h? x =>
    have found := spares_hubOrCurrent t h? fixed
    cases x with
    | event e => exact found.trans (spares_of_slots_eq (slots_capture _ _ .ofHub (.event e)) other)
    | fault f => exact found.trans (spares_of_slots_eq (slots_capture _ _ .ofHub (.fault f)) other)
  | dispatch h f => exact spares_of_slots_eq (slots_dispatch t h f) other
  | send c e => exact spares_of_slots_eq (slots_send t c e) other
  | start s => exact spares_start t s fixed
  | setOption c name v => exact spares_of_slots_eq (slots_setOption t c name v) other
  | main => exact congrFun (current?_main t) other
  | current => exact spares_current t fixed
  | lastId h? => exact spares_hubOrCurrent t h? fixed
  | openFile path keep => exact spares_of_slots_eq (slots_openFile t path keep) other
  | bind | addEvent | changeEvent | addTransport | clear | addClient | addHub | changeHost => rfl

/-! ## Bodies on their way -/

namespace Body

variable {ε α : Type} {b : Body ε α} {others : Telemetry → Telemetry → Prop}
  {seen : List Telemetry} {r : Except ε α}

/-- **A passage of a body**: the states that it comes through between its steps, the state that it
leaves, and what it ends with. Others may take steps at any time. What it comes through inside of
the bodies that its thread runs in hubs is not told. -/
inductive Passage (others : Telemetry → Telemetry → Prop) (thread : Thread) :
    Body ε α → Telemetry → List Telemetry → Telemetry → Except ε α → Prop where
  | finish {a : α} {t : Telemetry} : Passage others thread (.finish a) t [t] t (.ok a)
  | raise {x : ε} {t : Telemetry} : Passage others thread (.raise x) t [t] t (.error x)
  | look {next : Telemetry → Body ε α} {t s : Telemetry} {seen : List Telemetry} {r : Except ε α}
      (later : Passage others thread (next t) t seen s r) :
      Passage others thread (.look next) t seen s r
  | act {β : Type} {a : Act β} {next : β → Body ε α} {t s : Telemetry} {seen : List Telemetry}
      {r : Except ε α}
      (later : Passage others thread (next (a.run thread t).2) (a.run thread t).1 seen s r) :
      Passage others thread (.act a next) t (t :: seen) s r
  | block {h : Ref Hub} {c? : Option (Ref Client)} {inner : Body ε α}
      {next : Except ε α → Body ε α} {t u s : Telemetry} {seen seen' : List Telemetry}
      {r r' : Except ε α} (inside : Passage others thread inner (t.enter h c?).1 seen u r)
      (later : Passage others thread (next r) (u.leave h (t.enter h c?).2) seen' s r') :
      Passage others thread (.block h c? inner next) t (t :: (seen ++ seen')) s r'
  | within {h : Ref Hub} {inner : Body ε α} {next : Except ε α → Body ε α} {t u s : Telemetry}
      {seen seen' : List Telemetry} {r r' : Except ε α}
      (inside : Passage others thread inner (t.setCurrent thread (some h)) seen u r)
      (later : Passage others thread (next r) (u.setCurrent thread (t.current? thread)) seen' s
        r') :
      Passage others thread (.within h inner next) t (t :: seen') s r'
  | meanwhile {b : Body ε α} {t u s : Telemetry} {seen : List Telemetry} {r : Except ε α}
      (step : others t u) (later : Passage others thread b u seen s r) :
      Passage others thread b t (t :: seen) s r

/-- The execution of a body is a passage in which nobody else does anything. -/
theorem passage_exec (others : Telemetry → Telemetry → Prop) (thread : Thread) (b : Body ε α)
    (t : Telemetry) :
    ∃ seen, b.Passage others thread t seen (b.exec thread t).1 (b.exec thread t).2 := by
  induction b generalizing t with
  | finish a => exact ⟨_, .finish⟩
  | raise x => exact ⟨_, .raise⟩
  | look next ih =>
    obtain ⟨seen, later⟩ := ih t t
    exact ⟨seen, .look later⟩
  | act a next ih =>
    obtain ⟨seen, later⟩ := ih (a.run thread t).2 (a.run thread t).1
    exact ⟨_, .act later⟩
  | block h c? inner next ihInner ih =>
    obtain ⟨seen, inside⟩ := ihInner (t.enter h c?).1
    obtain ⟨seen', later⟩ := ih (t.withClient h c? (inner.exec thread)).2
      (t.withClient h c? (inner.exec thread)).1
    exact ⟨_, .block inside later⟩
  | within h inner next ihInner ih =>
    obtain ⟨seen, inside⟩ := ihInner (t.setCurrent thread (some h))
    obtain ⟨seen', later⟩ := ih (t.run thread h (inner.exec thread)).2
      (t.run thread h (inner.exec thread)).1
    exact ⟨_, .within inside later⟩

/-- **A body leaves slots alone**, its own one too if it is not empty, at every point that is told
and in the end. -/
theorem Passage.spares (passage : b.Passage others thread t seen s r)
    (rely : ∀ t u, others t u → t.Spares other u)
    (fixed : other = thread → ∃ k, t.current? thread = some k) :
    (∀ u ∈ seen, t.Spares other u) ∧ t.Spares other s := by
  -- Induction on the passage. A slot that was not empty is not empty later, as it is the same.
  have still {t u : Telemetry} (same : t.Spares other u)
      (fixed : other = thread → ∃ k, t.current? thread = some k) (own : other = thread) :
      ∃ k, u.current? thread = some k := by
    subst own
    obtain ⟨k, here⟩ := fixed rfl
    exact ⟨k, same.current?_eq here⟩
  induction passage with
  | @finish a t | @raise x t =>
    refine ⟨fun u there => ?_, rfl⟩
    obtain rfl := List.mem_singleton.mp there
    rfl
  | look _ ih => exact ih fixed
  | @act β a next t s seen r _ ih =>
    have done := a.spares_run t fixed
    obtain ⟨between, last⟩ := ih (still done fixed)
    refine ⟨List.forall_mem_cons.mpr ⟨rfl, fun u there => ?_⟩, done.trans last⟩
    exact done.trans (between u there)
  | @block h c? inner next t u s seen seen' r r' _ _ ihInside ih =>
    obtain ⟨betweenInside, ended⟩ := ihInside fixed
    have left : t.Spares other (u.leave h (t.enter h c?).2) :=
      Spares.trans ended (spares_of_slots_eq (u.slots_leave h _) other)
    obtain ⟨between, last⟩ := ih (still left fixed)
    refine ⟨List.forall_mem_cons.mpr ⟨rfl, fun v there => ?_⟩, left.trans last⟩
    rcases List.mem_append.mp there with inside | after
    · exact betweenInside v inside
    · exact left.trans (between v after)
  | @within h inner next t u s seen seen' r r' _ _ ihInside ih =>
    have back : t.Spares other (u.setCurrent thread (t.current? thread)) := by
      by_cases own : other = thread
      · rw [own]
        exact current?_setCurrent u thread _
      · obtain ⟨-, ended⟩ := ihInside fun same => absurd same own
        have entered := current?_setCurrent_of_ne t (some h) own
        exact ((current?_setCurrent_of_ne u _ own).trans ended).trans entered
    obtain ⟨between, last⟩ := ih (still back fixed)
    refine ⟨List.forall_mem_cons.mpr ⟨rfl, fun v there => ?_⟩, back.trans last⟩
    exact back.trans (between v there)
  | @meanwhile b t u s seen r step _ ih =>
    have spared := rely t u step
    obtain ⟨between, last⟩ := ih (still spared fixed)
    refine ⟨List.forall_mem_cons.mpr ⟨rfl, fun v there => ?_⟩, spared.trans last⟩
    exact spared.trans (between v there)

end Body

/-! ## Bodies in hubs -/

/-- A hub that was made just now for a thread, with the client that the main hub has. -/
structure Telemetry.MadeFor (t : Telemetry) (thread : Thread) : Prop where
  new : ¬ t.hubs.Holds (t.current thread).2
  held : (t.current thread).1.hubs.Holds (t.current thread).2
  hub_eq : (t.current thread).1.hub (t.current thread).2 = .ofClient (t.main.1.hub t.main.2).client?
  current : (t.current thread).1.current? thread = some (t.current thread).2

/-- A thread without a hub gets a new one, with the client that the main hub has at the time. -/
theorem Telemetry.madeFor_of_none (free : t.current? thread = none) : t.MadeFor thread := by
  have found : (t.current thread).2 = t.main.1.hubs.next := by
    rw [Telemetry.current, free]
    rfl
  constructor
  case new =>
    rw [found]
    exact Nat.not_lt.mpr (tidy_main t).size_le
  case held =>
    rw [Telemetry.current, free]
    exact Nat.lt_succ_self _
  case hub_eq =>
    rw [Telemetry.current, free]
    exact t.main.1.hubs.get_add _
  case current => exact current?_current t thread

namespace Body

variable {ε α : Type}

/-- What is known of a body that a thread runs in a hub. -/
structure Lodged (body : Body ε α) (t : Telemetry) (thread : Thread) (h : Ref Hub) : Prop where
  /-- To run the body is a passage of it, with the slot set before it and put back after it. -/
  passes : ∃ seen u r,
    body.Passage (fun _ _ => False) thread (t.setCurrent thread (some h)) seen u r ∧
      t.run thread h (body.exec thread) = (u.setCurrent thread (t.current? thread), r)
  /-- What the body ends with is handed on, be it an answer or an exception. -/
  handedOn : (t.run thread h (body.exec thread)).2 =
    (body.exec thread (t.setCurrent thread (some h))).2
  /-- The hub is the current one at every point, and to ask for it makes no hub and changes nothing
  else, whatever others do that leave the slot alone. -/
  inside : ∀ seen u r,
    body.Passage (Spares thread) thread (t.setCurrent thread (some h)) seen u r →
    ∀ s ∈ seen, s.current thread = (s, h)
  /-- The slot is what it was before. -/
  restored : (t.run thread h (body.exec thread)).1.current? thread = t.current? thread
  /-- The slots of other threads are changed by nobody else than these threads. -/
  others : ∀ other, other ≠ thread →
    (t.run thread h (body.exec thread)).1.current? other = t.current? other ∧
    ∀ seen u r,
      body.Passage (Spares other) thread (t.setCurrent thread (some h)) seen u r →
      (u.setCurrent thread (t.current? thread)).current? other = t.current? other
  /-- A thread that had a current hub has it later, for as long as its slot is left alone. -/
  again : ∀ k, t.current? thread = some k →
    ∀ s, (t.run thread h (body.exec thread)).1.Spares thread s → s.current thread = (s, k)
  /-- A thread that had none gets a new one when it asks, with the client of the main hub of
  then. -/
  anew : t.current? thread = none →
    ∀ s, (t.run thread h (body.exec thread)).1.Spares thread s → s.MadeFor thread

/-- **Bodies in hubs.** While a thread runs a body in a hub, this hub is its current one; afterwards
it has the current hub that it had before, or none. -/
theorem lodged (body : Body ε α) (t : Telemetry) (thread : Thread) (h : Ref Hub) :
    body.Lodged t thread h := by
  have restored := current?_run t thread h (body.exec thread)
  constructor
  case passes =>
    obtain ⟨seen, passage⟩ :=
      body.passage_exec (fun _ _ => False) thread (t.setCurrent thread (some h))
    exact ⟨seen, _, _, passage, rfl⟩
  case handedOn => rfl
  case inside =>
    intro seen u r passage s there
    have set : (t.setCurrent thread (some h)).current? thread = some h := current?_setCurrent _ _ _
    obtain ⟨between, -⟩ := passage.spares (fun _ _ spared => spared) fun _ => ⟨h, set⟩
    exact current_of_some ((between s there).current?_eq set)
  case restored => exact restored
  case others =>
    intro other distinct
    have slot (u : Telemetry) (same : (t.setCurrent thread (some h)).Spares other u) :
        (u.setCurrent thread (t.current? thread)).current? other = t.current? other := by
      rw [current?_setCurrent_of_ne u _ distinct]
      exact same.current?_eq (current?_setCurrent_of_ne t _ distinct)
    constructor
    · obtain ⟨seen, passage⟩ :=
        body.passage_exec (Spares other) thread (t.setCurrent thread (some h))
      exact slot _ (passage.spares (fun _ _ spared => spared) fun own => absurd own distinct).2
    · intro seen u r passage
      exact slot u (passage.spares (fun _ _ spared => spared) fun own => absurd own distinct).2
  case again =>
    intro k here s spared
    exact current_of_some (spared.current?_eq (restored.trans here))
  case anew =>
    intro free s spared
    exact madeFor_of_none (spared.current?_eq (restored.trans free))

end Body

end CauseTrail
