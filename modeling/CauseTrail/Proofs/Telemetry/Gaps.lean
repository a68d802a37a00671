import CauseTrail.Proofs.Telemetry.Starting

/-!
# What captures add to an event

An event leaves five things open: its identifier, its time, and its release, environment and server.
Captures close these gaps and touch nothing else of it. A gap is closed by the first capture that
comes with something to close it, and what is there stays: the identifier and the time come with
the first capture that reaches an enabled client on top of its hub, be the event refused by the
transport or not, and each of the other three with the first enabled client whose options have it.

## Main definitions

* `Event.Gap`, `Event.Gap.content?`: what an event may leave open, and what it has there
* `Deed`, `Telemetry.occasions`: what is done one thing after the other, and in which states
* `Event.Gap.offer?`: what a deed comes with for a gap of an event
* `Telemetry.ClosesGaps`: what deeds make of an event

## Main results

* `Event.Gap.content?_apply`, `Event.Gap.content?_afterDeeds`: an open gap takes what comes first
* `Telemetry.deeds_closeGaps`: each gap is closed once at most, and all else stays
-/

namespace CauseTrail

/-! ## Gaps -/

namespace Event

/-- What an event may leave open. -/
inductive Gap where
  | id
  | timestamp
  | release
  | environment
  | serverName

/-- What closes a gap. -/
def Gap.Content : Gap → Type
  | id => Uuid
  | timestamp => Timestamp
  | release | environment | serverName => String

/-- What an event has where it may leave a gap. Nil is no identifier; an empty text is a text. -/
def Gap.content? : (g : Gap) → Event → Option g.Content
  | id, e => if e.id = .nil then none else some e.id
  | timestamp, e => e.timestamp?
  | release, e => e.release?
  | environment, e => e.environment?
  | serverName, e => e.serverName?

/-- The event with all of its gaps open. -/
def bare (e : Event) : Event :=
  { e with id := .nil, timestamp? := none, release? := none, environment? := none
           serverName? := none }

variable {e : Event}

@[simp] theorem bare_stamped (id : Uuid) (time : Timestamp) : (e.stamped id time).bare = e.bare :=
  rfl

@[simp] theorem bare_filled (o : Options) : (e.filled o).bare = e.bare := rfl

/-- What the options of a client have for a gap. -/
def Gap.ofOptions? : (g : Gap) → Options → Option g.Content
  | id, _ => none
  | timestamp, _ => none
  | release, o => o.release?
  | environment, o => o.environment?
  | serverName, o => o.serverName?

/-- What the sources give for a gap. -/
def Gap.ofSources? : (g : Gap) → Uuid → Timestamp → Option g.Content
  | id, u, _ => some u
  | timestamp, _, time => some time
  | release, _, _ => none
  | environment, _, _ => none
  | serverName, _, _ => none

theorem Gap.content?_filled (g : Gap) (o : Options) :
    g.content? (e.filled o) = (g.content? e).or (g.ofOptions? o) := by
  cases g with
  | id | timestamp => exact Option.or_none.symm
  | release | environment | serverName => rfl

theorem Gap.content?_stamped (g : Gap) {u : Uuid} (time : Timestamp) (given : u ≠ .nil) :
    g.content? (e.stamped u time) = (g.content? e).or (g.ofSources? u time) := by
  cases g with
  | id =>
    by_cases nil : e.id = .nil
    · simp only [content?, stamped, timed, identified, nil, given, if_true, if_false]
      rfl
    · simp only [content?, stamped, timed, identified, nil, if_false]
      rfl
  | timestamp =>
    cases e with
    | mk _ _ _ _ _ _ timestamp? => cases timestamp? <;> rfl
  | release | environment | serverName => exact Option.or_none.symm

end Event

/-! ## Deeds -/

/-- What is done, one thing after the other. Who captures through a current hub asks for it first,
which is a change. -/
inductive Deed where
  | capture (h : Ref Hub) (way : Way) (x : Subject)
  /-- A client is given an event directly. -/
  | send (c : Ref Client) (e : Ref Event)
  | clear (r : Ref Transport)
  | change (o : Change)

namespace Deed

/-- The state after a deed. -/
def apply (t : Telemetry) : Deed → Telemetry
  | capture h way x => (t.capture h way x).1
  | send c e => (t.send c e).1
  | clear r => t.clear r
  | change o => o.apply t

/-- The enabled client on top of its hub that a capture of an event reaches. -/
def reached? (t : Telemetry) (e : Ref Event) : Deed → Option (Ref Client)
  | capture h _ (.event k) => if k = e then t.activeClient? h else none
  | _ => none

/-- The enabled client that comes to send an event, by a capture or directly. -/
def sender? (t : Telemetry) (e : Ref Event) : Deed → Option (Ref Client)
  | send c k => if k = e ∧ (t.client c).options.enabled = true then some c else none
  | d => d.reached? t e

end Deed

/-- What a deed comes with for a gap of an event: what the sources give if it is a capture that
reaches an enabled client, or what the options of the client have that comes to send the event. -/
def Event.Gap.offer? (g : Gap) (t : Telemetry) (e : Ref Event) (d : Deed) : Option g.Content :=
  ((d.reached? t e).bind fun _ => g.ofSources? (t.sources.id t.ids) (t.sources.time t.readings)).or
    ((d.sender? t e).bind fun c => g.ofOptions? (t.client c).options)

/-! ## What a deed does to an event -/

namespace Telemetry

variable {t : Telemetry} {thread : Thread} {h : Ref Hub} {c : Ref Client} {e k : Ref Event}

/-- A capture does to events what was done to them until the event was handed over. -/
theorem event_captureWith (enabled : (t.client c).options.enabled = true) (h : Ref Hub)
    (e k : Ref Event) : (t.captureWith h c e).1.event k = (t.prepared c e).event k := by
  rw [captureWith_eq enabled]
  split
  · next s taken =>
    obtain ⟨-, transports, host, console, log, rfl⟩ := deliver_ok taken
    rw [record]
    split <;> rfl
  · next s x refused => rw [deliver_error refused]

theorem extends_captureWith (t : Telemetry) (h : Ref Hub) (c : Ref Client) (e : Ref Event) :
    t.Extends (t.captureWith h c e).1 := by
  have sent := (extends_stamp t e).trans (extends_send (t.stamp e) c e)
  rw [captureWith]
  split
  · next s id eq =>
    rw [eq] at sent
    exact sent.trans (extends_record s h id)
  · next eq =>
    rw [eq] at sent
    exact sent

theorem extends_capture (t : Telemetry) (h : Ref Hub) (way : Way) (x : Subject) :
    t.Extends (t.capture h way x).1 := by
  cases active : t.activeClient? h with
  | none =>
    rw [capture_of_inactive active]
    exact .refl t
  | some c =>
    rw [capture_of_active active]
    split
    · exact .refl t
    · next ev _ =>
      refine Extends.trans ?_ (extends_captureWith _ h c _)
      cases x with
      | event e => exact .refl t
      | fault f => exact (silent_addEvent t ev).toExtends

end Telemetry

namespace Deed

variable {t : Telemetry} {e : Ref Event} {c : Ref Client}

theorem holds_apply (held : t.events.Holds e) (d : Deed) : (d.apply t).events.Holds e := by
  cases d with
  | capture h way x => exact (Telemetry.extends_capture t h way x).events.holds held
  | send c k => exact (Telemetry.extends_send t c k).events.holds held
  | clear r => exact held
  | change o =>
    rcases (o.events_apply t).1 with same | ⟨ev, added⟩
    · rwa [apply, same]
    · rw [apply, added]
      exact Nat.lt_succ_of_lt held

theorem sources_apply (t : Telemetry) (d : Deed) : (d.apply t).sources = t.sources := by
  cases d with
  | capture h way x => exact (Telemetry.extends_capture t h way x).sources_eq
  | send c k => exact (Telemetry.extends_send t c k).sources_eq
  | clear r => rfl
  | change o => exact (o.events_apply t).2

/-- **What a deed makes of an event**: it is stamped and filled in as a capture reaches an enabled
client, or filled in as an enabled client is given it directly, or else left alone. -/
theorem event_apply (held : t.events.Holds e) (d : Deed) :
    (d.apply t).event e =
      match d.reached? t e, d.sender? t e with
      | some c, _ => ((t.event e).stamped (t.sources.id t.ids) (t.sources.time t.readings)).filled
          (t.client c).options
      | none, some c => (t.event e).filled (t.client c).options
      | none, none => t.event e := by
  cases d with
  | capture h way x =>
    rw [apply]
    cases active : t.activeClient? h with
    | none =>
      rw [Telemetry.capture_of_inactive active]
      cases x <;> simp [reached?, sender?, active]
    | some c =>
      have enabled := (Telemetry.activeClient?_eq_some_iff.mp active).enabled
      rw [Telemetry.capture_of_active active]
      cases x with
      | event k =>
        simp only [Subject.built, Subject.put, Subject.ref]
        rw [Telemetry.event_captureWith enabled]
        by_cases same : k = e
        · subst same
          simp [reached?, active, Telemetry.event_prepared]
        · simp [reached?, sender?, same, Telemetry.event_prepared_of_ne (Ne.symm same)]
      | fault f =>
        simp only [reached?, sender?]
        split
        · rfl
        · next ev _ =>
          have there : ((t.addEvent ev).1.client c).options.enabled = true := enabled
          rw [Subject.put, Subject.ref, Telemetry.event_captureWith there,
            Telemetry.event_prepared_of_ne held.ne_next]
          exact Registry.get_add_of_holds _ _ held
  | send c k =>
    rw [apply, Telemetry.event_send]
    by_cases sends : k = e ∧ (t.client c).options.enabled = true
    · obtain ⟨rfl, enabled⟩ := sends
      simp [reached?, sender?, enabled]
    · rw [if_neg fun both => sends ⟨both.1.symm, both.2⟩]
      simp [reached?, sender?, sends]
  | clear r => rfl
  | change o => exact o.event_apply held

/-- Who is reached by a capture comes to send. -/
theorem sender?_of_reached? {d : Deed} (reached : d.reached? t e = some c) :
    d.sender? t e = some c := by
  cases d with
  | send => cases reached
  | capture | clear | change => exact reached

end Deed

/-- **An open gap** takes what a deed comes with, and one that is closed stays as it is. -/
theorem Event.Gap.content?_apply (g : Gap) {t : Telemetry} {e : Ref Event}
    (held : t.events.Holds e) (fresh : ∀ n, t.sources.id n ≠ .nil) (d : Deed) :
    g.content? ((d.apply t).event e) = (g.content? (t.event e)).or (g.offer? t e d) := by
  rw [Deed.event_apply held, offer?]
  cases reached : d.reached? t e with
  | some c =>
    rw [Deed.sender?_of_reached? reached, Option.bind_some, Option.bind_some, ← Option.or_assoc,
      content?_filled, content?_stamped _ _ (fresh _)]
  | none =>
    cases sender : d.sender? t e with
    | some c => rw [Option.bind_none, Option.bind_some, Option.none_or, content?_filled]
    | none => rw [Option.bind_none, Option.bind_none, Option.or_none, Option.or_none]

theorem Event.bare_apply {t : Telemetry} {e : Ref Event} (held : t.events.Holds e) (d : Deed) :
    ((d.apply t).event e).bare = (t.event e).bare := by
  rw [Deed.event_apply held]
  split <;> simp

/-! ## Deeds in a row -/

/-- A deed, and the state in which it is done. -/
structure Occasion where
  before : Telemetry
  deed : Deed

/-- The state after an occasion. -/
def Occasion.after (o : Occasion) : Telemetry := o.deed.apply o.before

namespace Telemetry

/-- The state after some deeds. -/
def afterDeeds (t : Telemetry) (deeds : List Deed) : Telemetry := deeds.foldl Deed.apply t

/-- Some deeds with the states in which they are done. -/
def occasions (t : Telemetry) : List Deed → List Occasion
  | [] => []
  | d :: deeds => ⟨t, d⟩ :: (d.apply t).occasions deeds

variable {t : Telemetry} {e : Ref Event} {deeds : List Deed} {o : Occasion}

theorem holds_afterDeeds (held : t.events.Holds e) (deeds : List Deed) :
    (t.afterDeeds deeds).events.Holds e := by
  induction deeds generalizing t with
  | nil => exact held
  | cons d deeds ih => exact ih (d.holds_apply held)

theorem sources_afterDeeds (t : Telemetry) (deeds : List Deed) :
    (t.afterDeeds deeds).sources = t.sources := by
  induction deeds generalizing t with
  | nil => rfl
  | cons d deeds ih => exact (ih (d.apply t)).trans (d.sources_apply t)

/-- Deeds in a row come through each of their occasions. -/
theorem exists_deeds (there : o ∈ t.occasions deeds) :
    ∃ early late, deeds = early ++ o.deed :: late ∧ o.before = t.afterDeeds early ∧
      t.afterDeeds deeds = o.after.afterDeeds late := by
  induction deeds generalizing t with
  | nil => cases there
  | cons d deeds ih =>
    rcases List.mem_cons.mp there with rfl | later
    · exact ⟨[], deeds, rfl, rfl, rfl⟩
    · obtain ⟨early, late, rfl, before, after⟩ := ih later
      exact ⟨d :: early, late, rfl, before, after⟩

theorem bare_afterDeeds (held : t.events.Holds e) (deeds : List Deed) :
    ((t.afterDeeds deeds).event e).bare = (t.event e).bare := by
  induction deeds generalizing t with
  | nil => rfl
  | cons d deeds ih => exact (ih (d.holds_apply held)).trans (Event.bare_apply held d)

/-- **A gap after some deeds** has what was there, or else what came first. -/
theorem content?_afterDeeds (g : Event.Gap) (held : t.events.Holds e)
    (fresh : ∀ n, t.sources.id n ≠ .nil) (deeds : List Deed) :
    g.content? ((t.afterDeeds deeds).event e) = (g.content? (t.event e)).or
      ((t.occasions deeds).findSome? fun o => g.offer? o.before e o.deed) := by
  induction deeds generalizing t with
  | nil => exact Option.or_none.symm
  | cons d deeds ih =>
    have rest := ih (d.holds_apply held) ((d.sources_apply t).symm ▸ fresh)
    rw [g.content?_apply held fresh, Option.or_assoc] at rest
    rw [occasions, List.findSome?_cons]
    refine rest.trans (congrArg _ ?_)
    cases g.offer? t e d <;> rfl

/-- What closes a gap stays there. -/
theorem content?_afterDeeds_of_some (g : Event.Gap) (held : t.events.Holds e)
    (fresh : ∀ n, t.sources.id n ≠ .nil) (deeds : List Deed) {a : g.Content}
    (closed : g.content? (t.event e) = some a) :
    g.content? ((t.afterDeeds deeds).event e) = some a := by
  rw [content?_afterDeeds g held fresh, closed, Option.some_or]

/-- What deeds make of an event. -/
structure ClosesGaps (t : Telemetry) (e : Ref Event) (deeds : List Deed) : Prop where
  /-- A gap has what was there before, or else what the first deed that had something came with. -/
  first : ∀ g : Event.Gap, g.content? ((t.afterDeeds deeds).event e) =
    (g.content? (t.event e)).or
      ((t.occasions deeds).findSome? fun o => g.offer? o.before e o.deed)
  /-- It changes only if it is open, -/
  opened : ∀ g : Event.Gap, ∀ o ∈ t.occasions deeds,
    g.content? (o.after.event e) ≠ g.content? (o.before.event e) →
    g.content? (o.before.event e) = none ∧ ∃ a, g.content? (o.after.event e) = some a
  /-- and what is there is there ever after, -/
  lasting : ∀ g : Event.Gap, ∀ o ∈ t.occasions deeds, ∀ a,
    g.content? (o.after.event e) = some a → g.content? ((t.afterDeeds deeds).event e) = some a
  /-- so that it changes once at most. -/
  once : ∀ g : Event.Gap, (t.occasions deeds).Pairwise fun o o' =>
    g.content? (o.after.event e) ≠ g.content? (o.before.event e) →
    g.content? (o'.after.event e) = g.content? (o'.before.event e)
  /-- Whatever else the event says stays as it is. -/
  rest : ∀ o ∈ t.occasions deeds, (o.after.event e).bare = (t.event e).bare
  /-- All captures of the event that reach an enabled client and do not fail as it is delivered
  answer with one identifier, which is not nil. -/
  answers : ∀ o ∈ t.occasions deeds, ∀ h way c, o.deed = .capture h way (.event e) →
    o.before.activeClient? h = some c →
    (∃ x, (o.before.capture h way (.event e)).2 = .error (.delivery x)) ∨
      ((o.before.capture h way (.event e)).2 = .ok ((t.afterDeeds deeds).event e).id ∧
        ((t.afterDeeds deeds).event e).id ≠ .nil)

/-- What is done at an occasion is done after all that was done before it. -/
theorem pairwise_occasions (t : Telemetry) (deeds : List Deed) :
    (t.occasions deeds).Pairwise fun o o' => ∃ between, o'.before = o.after.afterDeeds between := by
  induction deeds generalizing t with
  | nil => exact .nil
  | cons d deeds ih =>
    refine .cons (fun o' later => ?_) (ih (d.apply t))
    obtain ⟨early, -, -, before, -⟩ := exists_deeds later
    exact ⟨early, before⟩

/-- What a deed does to a gap, wherever it comes. -/
theorem content?_after (g : Event.Gap) (held : t.events.Holds e)
    (fresh : ∀ n, t.sources.id n ≠ .nil) (there : o ∈ t.occasions deeds) :
    g.content? (o.after.event e) =
      (g.content? (o.before.event e)).or (g.offer? o.before e o.deed) := by
  obtain ⟨early, late, -, before, -⟩ := exists_deeds there
  have held' : o.before.events.Holds e := before ▸ holds_afterDeeds held early
  have fresh' : ∀ n, o.before.sources.id n ≠ .nil := by
    rw [before, sources_afterDeeds]
    exact fresh
  exact g.content?_apply held' fresh' o.deed

theorem content?_id_eq_some_iff {ev : Event} {u : Uuid} :
    Event.Gap.id.content? ev = some u ↔ ev.id = u ∧ u ≠ .nil := by
  change (if ev.id = .nil then none else some ev.id) = some u ↔ _
  rw [Option.ite_none_left_eq_some, Option.some.injEq, and_comm]
  exact and_congr_right fun same => not_congr (by rw [same])

/-- A capture of an event that reaches an enabled client answers with the identifier that the event
has then, unless the event is not delivered. -/
theorem answer_of_active {c : Ref Client} {h : Ref Hub} (active : t.activeClient? h = some c)
    (fresh : ∀ n, t.sources.id n ≠ .nil) (way : Way) (e : Ref Event) :
    (∃ x, (t.capture h way (.event e)).2 = .error (.delivery x)) ∨
      ∃ u, (t.capture h way (.event e)).2 = .ok u ∧
        Event.Gap.id.content? ((t.capture h way (.event e)).1.event e) = some u := by
  have client := activeClient?_eq_some_iff.mp active
  rcases ends_of_active client fresh way (.event e) with
    ⟨_, t', u, done, delivered⟩ | ⟨_, t', error, done, failed⟩
  · rw [done]
    exact .inr ⟨u, rfl, content?_id_eq_some_iff.mpr ⟨delivered.event_id, delivered.id_ne_nil⟩⟩
  · obtain ⟨_, unbuilt, -⟩ | ⟨x, rfl, -⟩ := failed.cause
    · cases unbuilt
    · exact .inl ⟨x, by rw [done]⟩

/-- **Captures close the gaps of an event**, each of them once, and touch nothing else of it. -/
theorem deeds_closeGaps (held : t.events.Holds e) (fresh : ∀ n, t.sources.id n ≠ .nil)
    (deeds : List Deed) : t.ClosesGaps e deeds := by
  have opened (g : Event.Gap) (o : Occasion) (there : o ∈ t.occasions deeds)
      (changed : g.content? (o.after.event e) ≠ g.content? (o.before.event e)) :
      g.content? (o.before.event e) = none ∧ ∃ a, g.content? (o.after.event e) = some a := by
    have step := content?_after g held fresh there
    cases before : g.content? (o.before.event e) with
    | some a =>
      rw [before, Option.some_or] at step
      exact absurd (step.trans before.symm) changed
    | none => exact ⟨rfl, Option.ne_none_iff_exists'.mp (before ▸ changed)⟩
  have lasting (g : Event.Gap) (o : Occasion) (there : o ∈ t.occasions deeds) (a : g.Content)
      (closed : g.content? (o.after.event e) = some a) :
      ∀ later, g.content? ((o.after.afterDeeds later).event e) = some a := by
    obtain ⟨early, -, -, before, -⟩ := exists_deeds there
    intro later
    apply content?_afterDeeds_of_some g _ _ later closed
    · exact o.deed.holds_apply (before ▸ holds_afterDeeds held early)
    · rw [Occasion.after, Deed.sources_apply, before, sources_afterDeeds]
      exact fresh
  constructor
  case first => exact fun g => content?_afterDeeds g held fresh deeds
  case opened => exact opened
  case lasting =>
    intro g o there a closed
    obtain ⟨early, late, -, -, after⟩ := exists_deeds there
    rw [after]
    exact lasting g o there a closed late
  case once =>
    intro g
    refine (pairwise_occasions t deeds).imp_of_mem ?_
    rintro o o' there there' ⟨between, before⟩ changed
    obtain ⟨-, a, closed⟩ := opened g o there changed
    have same := lasting g o there a closed between
    rw [← before] at same
    rw [content?_after g held fresh there', same, Option.some_or]
  case rest =>
    intro o there
    obtain ⟨early, -, -, before, -⟩ := exists_deeds there
    rw [Occasion.after, Event.bare_apply (before ▸ holds_afterDeeds held early), before]
    exact bare_afterDeeds held early
  case answers =>
    intro o there h way c does active
    obtain ⟨early, late, -, before, after⟩ := exists_deeds there
    have fresh' : ∀ n, o.before.sources.id n ≠ .nil := by
      rw [before, sources_afterDeeds]
      exact fresh
    rcases answer_of_active active fresh' way e with refused | ⟨u, answer, given⟩
    · exact .inl refused
    · -- the identifier that the event has then is the one that it has in the end
      have final := lasting .id o there u (by rwa [Occasion.after, does]) late
      rw [← after] at final
      obtain ⟨rfl, given⟩ := content?_id_eq_some_iff.mp final
      exact .inr ⟨answer, given⟩

/-- A state with an event that names an empty server, and with two clients, the first of which has a
transport that refuses all events. -/
def twoReleases : Telemetry :=
  { oneHub with
    events := Registry.empty.add { Event.ofRecords [] .error with serverName? := some "" }
    transports := (Registry.empty.add .failing).add (.memory [])
    clients := (Registry.empty.add ⟨{ release? := some "1" }, ⟨0⟩⟩).add
      ⟨{ release? := some "2", environment? := some "live" }, ⟨1⟩⟩
    hubs := Registry.empty.add (.ofClient none) }

/-- The event is captured without a client, then through the one that fails, and then through the
other one, whose options have changed, and once more. -/
def retries : List Deed :=
  [.capture ⟨0⟩ .ofHub (.event ⟨0⟩),
    .change (.bind ⟨0⟩ (some ⟨0⟩)), .capture ⟨0⟩ .ofHub (.event ⟨0⟩),
    .change (.setOption ⟨1⟩ "server_name" (.text "host")), .change (.bind ⟨0⟩ (some ⟨1⟩)),
    .capture ⟨0⟩ (.ofThread .first) (.event ⟨0⟩), .capture ⟨0⟩ .ofHub (.event ⟨0⟩)]

/-- The laws for an event that is captured again after a failure, through a client of another
release. -/
theorem deeds_closeGaps_retries :
    twoReleases.events.Holds ⟨0⟩ ∧ (∀ n, twoReleases.sources.id n ≠ .nil) ∧
      (twoReleases.afterDeeds retries).event ⟨0⟩ =
        { Event.ofRecords [] .error with
          id := twoReleases.sources.id 0, timestamp? := some (twoReleases.sources.time 0)
          release? := some "1", environment? := some "live", serverName? := some "" } ∧
      (twoReleases.afterDeeds retries).transport ⟨1⟩ = .memory [⟨0⟩, ⟨0⟩] ∧
      twoReleases.ClosesGaps ⟨0⟩ retries := by
  have held : twoReleases.events.Holds ⟨0⟩ := Nat.one_pos
  exact ⟨held, id_oneHub_ne_nil, rfl, rfl, deeds_closeGaps held id_oneHub_ne_nil retries⟩

end Telemetry

end CauseTrail
