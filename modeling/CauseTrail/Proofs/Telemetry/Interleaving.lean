import CauseTrail.Proofs.Telemetry.CaptureOutcome
import CauseTrail.Proofs.Telemetry.Growth
import Mathlib.Logic.Function.Iterate

/-!
# Captures under way

A capture takes five steps: the active client of the hub is looked up, the event is built, it is
stamped, the client sends it, and the identifier is recorded. Between two of these steps others may
do anything: take steps of captures of their own, bind clients and put layers on hubs, change
options, send through a client directly, empty transports. A run is any sequence of such moves, and
its history tells each of them with the state that it was made in.

## Main definitions

* `Phase`, `Phase.next`: how far a capture has come, and its next step
* `Change`, `Move`, `System`: what others do, what is done at all, and where it is done
* `Moment`, `Run`: the history of a run, and the runs
* `Course`: the moments at which a capture took its steps

## Main results

* `Phase.iterate_next`: a capture whose steps follow each other directly is a capture
* `Run.course`, `Run.rank_lt`: a capture takes its steps in order, and each of them once
* `Run.extends`: what is there at a moment is there afterwards
-/

namespace CauseTrail

/-! ## The steps of a capture -/

/-- How far a capture has come. -/
inductive Phase where
  | begun
  /-- The active client was looked up. -/
  | found (c : Ref Client)
  /-- The event that the client is to send is there. -/
  | built (c : Ref Client) (e : Ref Event)
  | stamped (c : Ref Client) (e : Ref Event)
  /-- The client has answered with an identifier. -/
  | sent (id : Uuid)
  | ended (answer : Except CaptureError Uuid)

namespace Phase

/-- The next step of a capture through a hub. -/
def next (h : Ref Hub) (x : Subject) (t : Telemetry) : Phase → Telemetry × Phase
  | begun =>
    match t.activeClient? h with
    | none => (t, ended (.ok .nil))
    | some c => (t, found c)
  | found c =>
    match x.built t c with
    | .error e => (t, ended (.error (.fault e)))
    | .ok ev => (x.put t ev, built c (x.ref t))
  | built c e => (t.stamp e, stamped c e)
  | stamped c e =>
    match t.send c e with
    | (t, .ok id) => (t, sent id)
    | (t, .error d) => (t, ended (.error (.delivery d)))
  | sent id => (t.record h id, ended (.ok id))
  | ended answer => (t, ended answer)

/-- Whether there are steps to take yet. -/
def Going : Phase → Prop
  | ended _ => False
  | _ => True

instance (p : Phase) : Decidable p.Going :=
  match p with
  | ended _ => isFalse id
  | begun | found _ | built _ _ | stamped _ _ | sent _ => isTrue trivial

/-- How many steps were taken at least. -/
def rank : Phase → Nat
  | begun => 0
  | found _ => 1
  | built _ _ => 2
  | stamped _ _ => 3
  | sent _ => 4
  | ended _ => 5

theorem rank_lt_next {h : Ref Hub} {x : Subject} {t : Telemetry} {p : Phase} (going : p.Going) :
    p.rank < (p.next h x t).2.rank := by
  cases p with
  | begun | found | stamped =>
    simp only [next]
    split <;> simp [rank]
  | built | sent => simp [next, rank]
  | ended => exact going.elim

variable {h : Ref Hub} {x : Subject} {t : Telemetry} {p : Phase} {c : Ref Client} {e : Ref Event}

theorem next_eq_found : (p.next h x t).2 = found c ↔ p = begun ∧ t.activeClient? h = some c := by
  cases p with
  | begun => cases active : t.activeClient? h <;> simp [next, active]
  | found d => cases built : x.built t d <;> simp [next, built]
  | stamped d f => rcases sent : t.send d f with ⟨_, _ | _⟩ <;> simp [next, sent]
  | built | sent | ended => simp [next]

theorem next_eq_built : (p.next h x t).2 = built c e ↔
    p = found c ∧ e = x.ref t ∧ ∃ ev, x.built t c = .ok ev := by
  cases p with
  | begun => cases active : t.activeClient? h <;> simp [next, active]
  | found d =>
    cases built : x.built t d with
    | error f =>
      simp only [next, built, reduceCtorEq, found.injEq, false_iff, not_and, not_exists]
      rintro rfl - ev
      simp [built]
    | ok ev =>
      simp only [next, built, Phase.built.injEq, found.injEq]
      constructor
      · rintro ⟨rfl, rfl⟩
        exact ⟨rfl, rfl, ev, built⟩
      · rintro ⟨rfl, rfl, -⟩
        exact ⟨rfl, rfl⟩
  | stamped d f => rcases sent : t.send d f with ⟨_, _ | _⟩ <;> simp [next, sent]
  | built | sent | ended => simp [next]

theorem next_eq_stamped : (p.next h x t).2 = stamped c e ↔ p = built c e := by
  cases p with
  | begun => cases active : t.activeClient? h <;> simp [next, active]
  | found d => cases built : x.built t d <;> simp [next, built]
  | stamped d f => rcases sent : t.send d f with ⟨_, _ | _⟩ <;> simp [next, sent]
  | built | sent | ended => simp [next]

theorem next_eq_sent {id : Uuid} : (p.next h x t).2 = sent id ↔
    ∃ c e, p = stamped c e ∧ (t.send c e).2 = .ok id := by
  cases p with
  | begun => cases active : t.activeClient? h <;> simp [next, active]
  | found d => cases built : x.built t d <;> simp [next, built]
  | stamped d f =>
    rcases sent : t.send d f with ⟨_, _ | _⟩ <;> simp [next, sent, and_assoc]
  | built | sent | ended => simp [next]

/-- A capture ends without an active client, without an event, with an event that is refused, or
with the answer of the client. -/
theorem next_eq_ended {answer : Except CaptureError Uuid} (going : p.Going) :
    (p.next h x t).2 = ended answer ↔
      (p = begun ∧ t.activeClient? h = none ∧ answer = .ok .nil) ∨
      (∃ c f, p = found c ∧ x.built t c = .error f ∧ answer = .error (.fault f)) ∨
      (∃ c e d, p = stamped c e ∧ (t.send c e).2 = .error d ∧ answer = .error (.delivery d)) ∨
      ∃ id, p = sent id ∧ answer = .ok id := by
  cases p with
  | begun => cases active : t.activeClient? h <;> simp [next, active, eq_comm]
  | found d => cases built : x.built t d <;> simp [next, built, eq_comm]
  | stamped d f =>
    rcases sent : t.send d f with ⟨_, _ | _⟩
    · constructor
      · intro same
        simp only [next, sent, ended.injEq] at same
        exact .inr (.inr (.inl ⟨d, f, _, rfl, by rw [sent], same.symm⟩))
      · rintro (⟨⟨⟩, -⟩ | ⟨_, _, ⟨⟩, -⟩ | ⟨_, _, _, ⟨⟩, refused, rfl⟩ | ⟨_, ⟨⟩, -⟩)
        rw [sent] at refused
        obtain rfl := Except.error.inj refused
        simp [next, sent]
    · simp [next, sent, and_assoc]
  | sent id => simp [next, eq_comm]
  | built => simp [next]
  | ended => exact going.elim

/-- No step of a capture takes anything away. -/
theorem extends_next (p : Phase) (h : Ref Hub) (x : Subject) (t : Telemetry) :
    t.Extends (p.next h x t).1 := by
  cases p with
  | begun => cases active : t.activeClient? h <;> simpa [next, active] using .refl t
  | found c =>
    cases built : x.built t c with
    | error f => simpa [next, built] using .refl t
    | ok ev =>
      simp only [next, built]
      cases x with
      | event e => exact .refl t
      | fault f => exact (Telemetry.silent_addEvent t ev).toExtends
  | built c e => exact Telemetry.extends_stamp t e
  | stamped c e =>
    have sent := Telemetry.extends_send t c e
    rcases done : t.send c e with ⟨s, d | id⟩ <;>
      rw [done] at sent <;>
      simpa [next, done] using sent
  | sent id => exact Telemetry.extends_record t h id
  | ended answer => exact .refl t

/-- **Steps that follow each other directly** make up the capture. -/
theorem iterate_next (t : Telemetry) (h : Ref Hub) (way : Way) (x : Subject) :
    (fun now : Telemetry × Phase => now.2.next h x now.1)^[5] (t, begun) =
      ((t.capture h way x).1, ended (t.capture h way x).2) := by
  simp only [Function.iterate_succ, Function.iterate_zero, Function.comp_apply, id_eq]
  cases active : t.activeClient? h with
  | none => simp [next, active, Telemetry.capture_of_inactive active]
  | some c =>
    rw [Telemetry.capture_of_active active]
    cases built : x.built t c with
    | error e => simp [next, active, built]
    | ok ev =>
      rcases sent : ((x.put t ev).stamp (x.ref t)).send c (x.ref t) with ⟨s, d | id⟩ <;>
        simp [next, active, built, Telemetry.captureWith, sent]

end Phase

/-- A capture under way. -/
structure Call where
  hub : Ref Hub
  subject : Subject
  phase : Phase

/-! ## Moves -/

/-- What is done besides capturing. -/
inductive Change where
  | bind (h : Ref Hub) (c? : Option (Ref Client))
  | enter (h : Ref Hub) (c? : Option (Ref Client))
  | leave (h : Ref Hub) (pushed : Nat)
  | setOption (c : Ref Client) (name : String) (v : Value)
  | start (thread : Thread) (s : Start)
  | main
  | current (thread : Thread)
  | setCurrent (thread : Thread) (h? : Option (Ref Hub))
  | addEvent (e : Event)
  | addTransport (r : Transport)
  | openFile (path : Path) (keep : Bool)
  | addClient (c : Client)
  | addHub (c? : Option (Ref Client))
  /-- Whatever is done to files, directories and variables. -/
  | setHost (host : Host)

namespace Change

/-- The state after a change. -/
def apply (t : Telemetry) : Change → Telemetry
  | bind h c? => t.bind h c?
  | enter h c? => (t.enter h c?).1
  | leave h pushed => t.leave h pushed
  | setOption c name v => (t.setOption c name v).1
  | start thread s => (t.start thread s).1
  | main => t.main.1
  | current thread => (t.current thread).1
  | setCurrent thread h? => t.setCurrent thread h?
  | addEvent e => (t.addEvent e).1
  | addTransport r => (t.addTransport r).1
  | openFile path keep => (t.openFile path keep).1
  | addClient c => (t.addClient c).1
  | addHub c? => (t.addHub (.ofClient c?)).1
  | setHost host => { t with host := host }

/-- The clients and transports that are named are there, and a new transport keeps nothing yet. -/
def Sound (t : Telemetry) : Change → Prop
  | bind _ c? | enter _ c? | addHub c? => ∀ c, c? = some c → t.clients.Holds c
  | addTransport r => r.Blank
  | addClient c => t.transports.Holds c.transport
  | _ => True

theorem silent_apply {t : Telemetry} {o : Change} (closed : t.Closed) (sound : o.Sound t) :
    t.Silent (o.apply t) := by
  cases o with
  | bind h c? => exact Telemetry.silent_bind t h sound
  | enter h c? => exact Telemetry.silent_enter t h sound
  | leave h pushed => exact Telemetry.silent_leave t h pushed
  | setOption c name v => exact Telemetry.silent_setOption t c name v
  | start thread s => exact Telemetry.silent_start closed thread s
  | main => exact Telemetry.silent_main t
  | current thread => exact Telemetry.silent_current closed thread
  | setCurrent thread h? => exact Telemetry.silent_setCurrent t thread h?
  | addEvent e => exact Telemetry.silent_addEvent t e
  | addTransport r => exact Telemetry.silent_addTransport t sound
  | openFile path keep => exact Telemetry.silent_openFile t path keep
  | addClient c => exact Telemetry.silent_addClient t c sound
  | addHub c? => exact Telemetry.silent_addHub t sound
  | setHost host => exact Telemetry.silent_changeHost t host

end Change

/-- A state of telemetry with the captures that were begun over it. -/
structure System where
  state : Telemetry
  calls : List Call

/-- What is done at a time. -/
inductive Move where
  | begin (h : Ref Hub) (x : Subject)
  /-- A capture takes its next step. -/
  | advance (i : Nat)
  /-- A client is given an event directly. -/
  | send (c : Ref Client) (e : Ref Event)
  | clear (r : Ref Transport)
  | change (o : Change)

namespace System

/-- The system before anything was done. -/
def initial (host : Host) (sources : Sources) : System := ⟨{ host, sources }, []⟩

/-- The system after a capture that is under way took a step. -/
def advance (s : System) (i : Nat) (call : Call) : System :=
  let done := call.phase.next call.hub call.subject s.state
  ⟨done.1, s.calls.set i { call with phase := done.2 }⟩

/-- The system after a move. -/
def after (s : System) : Move → System
  | .begin h x => { s with calls := s.calls ++ [⟨h, x, .begun⟩] }
  | .advance i =>
    match s.calls[i]? with
    | some call => s.advance i call
    | none => s
  | .send c e => { s with state := (s.state.send c e).1 }
  | .clear r => { s with state := s.state.clear r }
  | .change o => { s with state := o.apply s.state }

end System

/-- What a move names is there, and a capture that takes a step has not ended. -/
def Move.Sound (s : System) : Move → Prop
  | .begin h x => s.state.hubs.Holds h ∧ ∀ e, x = .event e → s.state.events.Holds e
  | .advance i => ∃ call, s.calls[i]? = some call ∧ call.phase.Going
  | .send c e => s.state.clients.Holds c ∧ s.state.events.Holds e
  | .clear _ => True
  | .change o => o.Sound s.state

/-! ## Runs -/

/-- A move, and the system in which it was made. -/
structure Moment where
  before : System
  move : Move

namespace Moment

/-- The system after a moment. -/
def after (m : Moment) : System := m.before.after m.move

/-- A capture through a hub takes a step from a phase. -/
structure Takes (m : Moment) (i : Nat) (h : Ref Hub) (x : Subject) (p : Phase) : Prop where
  move_eq : m.move = .advance i
  call_eq : m.before.calls[i]? = some ⟨h, x, p⟩

/-- Whether a capture takes a step. -/
def advances (i : Nat) (m : Moment) : Bool :=
  match m.move with
  | .advance j => j = i
  | _ => false

end Moment

/-- **A run**: any moves one after the other, from the first one on, told as a history. -/
inductive Run (host : Host) (sources : Sources) : List Moment → System → Prop where
  | start : Run host sources [] (.initial host sources)
  | step {past : List Moment} {s : System} (run : Run host sources past s) (move : Move)
      (sound : move.Sound s) : Run host sources (past ++ [⟨s, move⟩]) (s.after move)

/-- The moments at which a capture took its steps, and the phase that they brought it to. -/
inductive Course (i : Nat) (h : Ref Hub) (x : Subject) : List Moment → Phase → Prop where
  | begun : Course i h x [] .begun
  | step {steps : List Moment} {p : Phase} {m : Moment} (course : Course i h x steps p)
      (going : p.Going) (takes : m.Takes i h x p) :
      Course i h x (steps ++ [m]) (p.next h x m.before.state).2

/-- The moments at which a capture took a step. -/
def stepsOf (i : Nat) (past : List Moment) : List Moment := past.filter (·.advances i)

variable {host : Host} {sources : Sources} {past : List Moment} {s : System} {i : Nat}
  {call : Call} {m : Moment} {h k : Ref Hub} {x y : Subject} {p q : Phase}

theorem Moment.Takes.advances (takes : m.Takes i h x p) : m.advances i = true := by
  rw [Moment.advances, takes.move_eq]
  simp

theorem Moment.Takes.unique (takes : m.Takes i h x p) (takes' : m.Takes i k y q) :
    h = k ∧ x = y ∧ p = q := by
  have same := takes.call_eq.symm.trans takes'.call_eq
  simpa using same

theorem Moment.Takes.mem_stepsOf (takes : m.Takes i h x p) (there : m ∈ past) :
    m ∈ stepsOf i past :=
  List.mem_filter.mpr ⟨there, takes.advances⟩

theorem stepsOf_append_of_advances (i : Nat) (past : List Moment) (advances : m.advances i = true) :
    stepsOf i (past ++ [m]) = stepsOf i past ++ [m] := by
  simp [stepsOf, advances]

theorem stepsOf_append_of_not (i : Nat) (past : List Moment) (idle : m.advances i = false) :
    stepsOf i (past ++ [m]) = stepsOf i past := by
  simp [stepsOf, idle]

/-! ## The course of a capture -/

/-- A capture that is brought to another phase than before took its step from it. -/
theorem System.calls_advance (s : System) (i j : Nat) (call : Call) :
    (s.advance i call).calls[j]? =
      if i = j ∧ j < s.calls.length then
        some { call with phase := (call.phase.next call.hub call.subject s.state).2 }
      else s.calls[j]? := by
  rw [System.advance, List.getElem?_set]
  split
  · next same =>
    subst same
    by_cases there : i < s.calls.length <;> simp [there]
  · next other => rw [if_neg fun both => other both.1]

/-- A capture that is under way is the one that was begun, or was begun just now, or took a step. -/
theorem System.calls_after {move : Move} (sound : move.Sound s)
    (there : (s.after move).calls[i]? = some call) :
    (s.calls[i]? = some call ∧ (⟨s, move⟩ : Moment).advances i = false) ∨
      (i = s.calls.length ∧ ∃ h x, move = .begin h x ∧ call = ⟨h, x, .begun⟩) ∨
      ∃ p, p.Going ∧ (⟨s, move⟩ : Moment).Takes i call.hub call.subject p ∧
        call.phase = (p.next call.hub call.subject s.state).2 := by
  cases move with
  | begin h x =>
    rw [System.after] at there
    rcases Nat.lt_or_ge i s.calls.length with old | new
    · rw [List.getElem?_append_left old] at there
      exact .inl ⟨there, rfl⟩
    · rw [List.getElem?_append_right new, List.getElem?_singleton] at there
      split at there
      · next last => exact .inr (.inl ⟨by omega, h, x, rfl, (Option.some.inj there).symm⟩)
      · cases there
  | advance j =>
    obtain ⟨moving, begun, going⟩ := sound
    simp only [System.after, begun] at there
    rw [System.calls_advance] at there
    split at there
    · next both =>
      obtain ⟨rfl, -⟩ := both
      obtain rfl := Option.some.inj there
      exact .inr (.inr ⟨moving.phase, going, ⟨rfl, begun⟩, rfl⟩)
    · next other =>
      refine .inl ⟨there, ?_⟩
      have inside := (List.getElem?_eq_some_iff.mp there).1
      simpa [Moment.advances] using fun same => other ⟨same, inside⟩
  | send | clear | change => exact .inl ⟨there, rfl⟩

/-- No capture takes a step before it is begun. -/
theorem Run.lt_of_advances (run : Run host sources past s) (there : m ∈ past)
    (advances : m.advances i = true) : i < s.calls.length := by
  induction run with
  | start => cases there
  | @step past s run move sound ih =>
    have grown : s.calls.length ≤ (s.after move).calls.length := by
      cases move with
      | begin => simp [System.after]
      | advance j =>
        simp only [System.after]
        split <;> simp [System.advance]
      | send | clear | change => exact Nat.le_refl _
    rcases List.mem_append.mp there with old | new
    · exact Nat.lt_of_lt_of_le (ih old) grown
    · obtain rfl := List.mem_singleton.mp new
      cases move with
      | advance j =>
        obtain rfl : j = i := by simpa [Moment.advances] using advances
        obtain ⟨moving, begun, -⟩ := sound
        exact Nat.lt_of_lt_of_le (List.getElem?_eq_some_iff.mp begun).1 grown
      | begin | send | clear | change => cases advances

/-- **The course of a capture** is told by the moments of the run at which it took a step. -/
theorem Run.course (run : Run host sources past s) (there : s.calls[i]? = some call) :
    Course i call.hub call.subject (stepsOf i past) call.phase := by
  -- Induction on the run: a move is a step of the capture, or begins it, or leaves it alone.
  induction run generalizing call with
  | start => simp [System.initial] at there
  | @step past s run move sound ih =>
    rcases System.calls_after sound there with ⟨there, idle⟩ | ⟨new, h, x, rfl, rfl⟩ |
      ⟨p, going, takes, same⟩
    · rw [stepsOf_append_of_not i past idle]
      exact ih there
    · have none : stepsOf i past = [] := by
        refine List.filter_eq_nil_iff.mpr fun m there advances => ?_
        exact Nat.lt_irrefl _ (new ▸ run.lt_of_advances there advances)
      rw [stepsOf_append_of_not i past rfl, none]
      exact .begun
    · rw [stepsOf_append_of_advances i past takes.advances, same]
      exact .step (ih takes.call_eq) going takes

/-- The phases of a capture come one after the other. -/
theorem Course.rank_lt {steps : List Moment} (course : Course i h x steps p) (there : m ∈ steps)
    (takes : m.Takes i k y q) : h = k ∧ x = y ∧ q.rank < p.rank := by
  -- Induction on the course: every step brings the capture further than it was.
  induction course with
  | begun => cases there
  | step _ going takes' ih =>
    rcases List.mem_append.mp there with old | new
    · obtain ⟨hub, subject, less⟩ := ih old
      exact ⟨hub, subject, Nat.lt_trans less (Phase.rank_lt_next going)⟩
    · obtain rfl := List.mem_singleton.mp new
      obtain ⟨hub, subject, rfl⟩ := takes'.unique takes
      exact ⟨hub, subject, Phase.rank_lt_next going⟩

/-- **A capture takes each step once**, in the order of the phases. -/
theorem Run.rank_lt (run : Run host sources past s) (there : s.calls[i]? = some call)
    (old : m ∈ past) (takes : m.Takes i k y q) :
    call.hub = k ∧ call.subject = y ∧ q.rank < call.phase.rank :=
  (run.course there).rank_lt (takes.mem_stepsOf old) takes

/-- The phases that a capture takes its steps from follow each other in a run. -/
theorem Run.pairwise_rank_lt (run : Run host sources past s) :
    past.Pairwise fun m m' => ∀ i h x p k y q, m.Takes i h x p → m'.Takes i k y q →
      p.rank < q.rank := by
  induction run with
  | start => exact .nil
  | step run move sound ih =>
    refine List.pairwise_append.mpr ⟨ih, List.pairwise_singleton _ _, fun m old m' new => ?_⟩
    obtain rfl := List.mem_singleton.mp new
    intro i h x p k y q takes takes'
    exact (run.rank_lt takes'.call_eq old takes).2.2

/-- A run comes through each of its moments. -/
theorem Run.split (run : Run host sources past s) (there : m ∈ past) :
    ∃ before later, past = before ++ m :: later ∧ Run host sources before m.before ∧
      m.move.Sound m.before := by
  induction run with
  | start => cases there
  | @step past s run move sound ih =>
    rcases List.mem_append.mp there with old | new
    · obtain ⟨before, later, rfl, first, sound⟩ := ih old
      exact ⟨before, later ++ [⟨s, move⟩], by simp, first, sound⟩
    · obtain rfl := List.mem_singleton.mp new
      exact ⟨past, [], rfl, run, sound⟩

/-- Two moments of a run at which a capture takes the same step are one. -/
theorem Run.eq_of_takes (run : Run host sources past s) {m' : Moment} (old : m ∈ past)
    (old' : m' ∈ past) (takes : m.Takes i h x p) (takes' : m'.Takes i k y q)
    (same : p.rank = q.rank) : m = m' := by
  -- before the one moment the capture had not come as far, and after it it was further
  obtain ⟨before, later, rfl, first, -⟩ := run.split old
  rcases List.mem_append.mp old' with earlier | rest
  · exact absurd same (Nat.ne_of_gt (first.rank_lt takes.call_eq earlier takes').2.2)
  · rcases List.mem_cons.mp rest with rfl | after
    · rfl
    · have order := (List.pairwise_append.mp run.pairwise_rank_lt).2.1
      have less := List.rel_of_pairwise_cons order after i h x p k y q takes takes'
      exact absurd same (Nat.ne_of_lt less)

/-- A capture that has left its first phase took its last step at the last of its moments. -/
theorem Course.cases_eq {steps : List Moment} (course : Course i h x steps p) :
    (steps = [] ∧ p = .begun) ∨ ∃ before m q, steps = before ++ [m] ∧ Course i h x before q ∧
      q.Going ∧ m.Takes i h x q ∧ (q.next h x m.before.state).2 = p := by
  cases course with
  | begun => exact .inl ⟨rfl, rfl⟩
  | step course going takes => exact .inr ⟨_, _, _, rfl, course, going, takes, rfl⟩

/-! ## What stays -/

/-- A move that advances a capture does to the state what the next step of the capture does. -/
theorem System.state_after_of_calls {move : Move} (there : s.calls[i]? = some call)
    (same : move = .advance i) :
    (s.after move).state = (call.phase.next call.hub call.subject s.state).1 := by
  simp only [same, System.after, there]
  rfl

theorem System.extends_after {move : Move} (closed : s.state.Closed) (sound : move.Sound s) :
    s.state.Extends (s.after move).state := by
  cases move with
  | begin h x => exact .refl _
  | advance i =>
    obtain ⟨call, there, -⟩ := sound
    rw [System.state_after_of_calls there rfl]
    exact Phase.extends_next _ _ _ _
  | send c e => exact Telemetry.extends_send _ c e
  | clear r => exact Telemetry.extends_clear _ r
  | change o => exact (Change.silent_apply closed sound).toExtends

theorem Telemetry.closed_initial (host : Host) (sources : Sources) :
    (System.initial host sources).state.Closed := by
  refine ⟨fun h c there => ?_, fun c there => absurd there (Nat.not_lt_zero _)⟩
  have blank : some c ∈ [none] := there
  simp at blank

theorem Run.closed (run : Run host sources past s) : s.state.Closed := by
  induction run with
  | start => exact Telemetry.closed_initial host sources
  | step run move sound ih => exact (System.extends_after ih sound).closed ih

/-- **What is there after a moment** is there later. -/
theorem Run.extends (run : Run host sources past s) (there : m ∈ past) :
    m.after.state.Extends s.state := by
  induction run with
  | start => cases there
  | step run move sound ih =>
    have now := System.extends_after run.closed sound
    rcases List.mem_append.mp there with old | new
    · exact (ih old).trans now
    · obtain rfl := List.mem_singleton.mp new
      exact .refl _

theorem Run.pairwise_extends (run : Run host sources past s) :
    past.Pairwise fun m m' => m.after.state.Extends m'.before.state := by
  induction run with
  | start => exact .nil
  | step run move sound ih =>
    refine List.pairwise_append.mpr ⟨ih, List.pairwise_singleton _ _, fun m old m' new => ?_⟩
    obtain rfl := List.mem_singleton.mp new
    exact run.extends old

theorem Run.sources_eq (run : Run host sources past s) : s.state.sources = sources := by
  induction run with
  | start => rfl
  | step run move sound ih => exact (System.extends_after run.closed sound).sources_eq.trans ih

/-- The hub of a capture is there, and so is the event that was given. -/
theorem Run.holds (run : Run host sources past s) (there : s.calls[i]? = some call) :
    s.state.hubs.Holds call.hub ∧ ∀ e, call.subject = .event e → s.state.events.Holds e := by
  induction run generalizing call with
  | start => simp [System.initial] at there
  | @step past s run move sound ih =>
    have grown := System.extends_after run.closed sound
    have kept (before : s.state.hubs.Holds call.hub ∧
        ∀ e, call.subject = .event e → s.state.events.Holds e) :
        (s.after move).state.hubs.Holds call.hub ∧
          ∀ e, call.subject = .event e → (s.after move).state.events.Holds e :=
      ⟨Nat.lt_of_lt_of_le before.1 grown.hubs_le,
        fun e same => grown.events.holds (before.2 e same)⟩
    rcases System.calls_after sound there with ⟨there, -⟩ | ⟨-, h, x, rfl, rfl⟩ |
      ⟨p, -, takes, -⟩
    · exact kept (ih there)
    · exact kept sound
    · have before := ih takes.call_eq
      exact kept before

theorem Moment.Takes.after_eq (takes : m.Takes i h x p) :
    m.after.state = (p.next h x m.before.state).1 :=
  System.state_after_of_calls takes.call_eq takes.move_eq

/-! ## A capture that is about to send -/

/-- A capture finds an active client. -/
structure Moment.Looks (m : Moment) (i : Nat) (h : Ref Hub) (x : Subject) (c : Ref Client) :
    Prop where
  takes : m.Takes i h x .begun
  active : m.before.state.activeClient? h = some c

/-- A capture builds the event that a client is to send. -/
structure Moment.Builds (m : Moment) (i : Nat) (h : Ref Hub) (x : Subject) (c : Ref Client)
    (e : Ref Event) (ev : Event) : Prop where
  takes : m.Takes i h x (.found c)
  ref_eq : e = x.ref m.before.state
  built : x.built m.before.state c = .ok ev

variable {c : Ref Client} {e : Ref Event}

theorem Course.of_begun {steps : List Moment} (course : Course i h x steps .begun) :
    steps = [] := by
  obtain ⟨rfl, -⟩ | ⟨_, m, q, -, -, going, -, same⟩ := course.cases_eq
  · rfl
  · have less := Phase.rank_lt_next (h := h) (x := x) (t := m.before.state) going
    rw [same] at less
    exact absurd less (Nat.not_lt_zero _)

theorem Course.of_found {steps : List Moment} (course : Course i h x steps (.found c)) :
    ∃ m, steps = [m] ∧ m.Looks i h x c := by
  obtain ⟨-, wrong⟩ | ⟨before, m, q, rfl, course, -, takes, same⟩ := course.cases_eq
  · cases wrong
  obtain ⟨rfl, active⟩ := Phase.next_eq_found.mp same
  obtain rfl := course.of_begun
  exact ⟨m, rfl, takes, active⟩

/-- A capture whose event is built has looked and built, and nothing else. -/
theorem Course.of_built {steps : List Moment} (course : Course i h x steps (.built c e)) :
    ∃ m₁ m₂ ev, steps = [m₁, m₂] ∧ m₁.Looks i h x c ∧ m₂.Builds i h x c e ev := by
  obtain ⟨-, wrong⟩ | ⟨before, m, q, rfl, course, -, takes, same⟩ := course.cases_eq
  · cases wrong
  obtain ⟨rfl, place, ev, built⟩ := Phase.next_eq_built.mp same
  obtain ⟨m₁, rfl, looks⟩ := course.of_found
  exact ⟨m₁, m, ev, rfl, looks, takes, place, built⟩

/-- A capture whose event is stamped has looked, built and stamped. -/
theorem Course.of_stamped {steps : List Moment} (course : Course i h x steps (.stamped c e)) :
    ∃ m₁ m₂ m₃ ev, steps = [m₁, m₂, m₃] ∧ m₁.Looks i h x c ∧ m₂.Builds i h x c e ev ∧
      m₃.Takes i h x (.built c e) := by
  obtain ⟨-, wrong⟩ | ⟨before, m, q, rfl, course, -, takes, same⟩ := course.cases_eq
  · cases wrong
  obtain rfl := Phase.next_eq_stamped.mp same
  obtain ⟨m₁, m₂, ev, rfl, looks, builds⟩ := course.of_built
  exact ⟨m₁, m₂, m, ev, rfl, looks, builds, takes⟩

/-- Where the event of a subject was put, it is found. -/
theorem Subject.event_put {t : Telemetry} {ev : Event} (held : ∀ e, x = .event e → t.events.Holds e)
    (built : x.built t c = .ok ev) :
    (x.put t ev).events.Holds (x.ref t) ∧ (x.put t ev).event (x.ref t) = ev := by
  cases x with
  | event e => exact ⟨held e rfl, Except.ok.inj built⟩
  | fault f => exact ⟨Nat.lt_succ_self _, Registry.get_add _ _⟩

theorem Telemetry.activeClient?_holds {t : Telemetry} (closed : t.Closed)
    (active : t.activeClient? h = some c) : t.clients.Holds c :=
  closed.top (Telemetry.activeClient?_eq_some_iff.mp active).top

/-- What there is to say of a capture that is about to send an event through a client. -/
structure Run.Ready (past : List Moment) (s : System) (i : Nat) (h : Ref Hub) (x : Subject)
    (c : Ref Client) (e : Ref Event) (m₁ m₂ m₃ : Moment) (ev : Event) : Prop where
  steps : stepsOf i past = [m₁, m₂, m₃]
  looks : m₁.Looks i h x c
  builds : m₂.Builds i h x c e ev
  takes : m₃.Takes i h x (.built c e)
  client : s.state.clients.Holds c
  /-- The client has the transport that it had when it was looked up. -/
  transport_eq : (s.state.client c).transport = (m₁.before.state.client c).transport
  event : s.state.events.Holds e
  records_eq : (s.state.event e).records = ev.records
  id_ne_nil : (∀ n, s.state.sources.id n ≠ .nil) → (s.state.event e).id ≠ .nil

/-- **A capture that is about to send** sends the event that was built, which has an identifier by
now, through the client that was looked up. -/
theorem Run.ready (run : Run host sources past s)
    (there : s.calls[i]? = some ⟨h, x, .stamped c e⟩) :
    ∃ m₁ m₂ m₃ ev, Run.Ready past s i h x c e m₁ m₂ m₃ ev := by
  obtain ⟨m₁, m₂, m₃, ev, steps, looks, builds, takes⟩ := (run.course there).of_stamped
  have all : List.Sublist [m₁, m₂, m₃] past := steps ▸ List.filter_sublist
  have mem (m : Moment) (of : m ∈ [m₁, m₂, m₃]) : m ∈ past := all.subset of
  obtain ⟨_, _, -, run₁, -⟩ := run.split (mem m₁ (by simp))
  obtain ⟨_, _, -, run₂, -⟩ := run.split (mem m₂ (by simp))
  obtain ⟨_, _, -, run₃, -⟩ := run.split (mem m₃ (by simp))
  have order := run.pairwise_extends.sublist all
  simp only [List.pairwise_cons, List.mem_cons, List.not_mem_nil, or_false, forall_eq_or_imp,
    forall_eq] at order
  have later₁ := (looks.takes.after_eq ▸ Phase.extends_next _ _ _ _).trans
    (run.extends (mem m₁ (by simp)))
  have client := Telemetry.activeClient?_holds run₁.closed looks.active
  have put := Subject.event_put (run₂.holds builds.takes.call_eq).2 builds.built
  have placed : m₂.after.state = x.put m₂.before.state ev := by
    rw [builds.takes.after_eq]
    simp only [Phase.next, builds.built]
  rw [← placed, ← builds.ref_eq] at put
  have event₃ := order.2.1.events.holds put.1
  have stamped : m₃.after.state = m₃.before.state.stamp e := takes.after_eq
  have later₂ := run.extends (mem m₂ (by simp))
  have later₃ := run.extends (mem m₃ (by simp))
  have event : m₃.after.state.events.Holds e :=
    (stamped ▸ Telemetry.extends_stamp _ e : m₃.before.state.Extends m₃.after.state).events.holds
      event₃
  refine ⟨m₁, m₂, m₃, ev, steps, looks, builds, takes, later₁.clients.holds client,
    later₁.clients.held c client, later₂.events.holds put.1, ?_, fun fresh => ?_⟩
  · exact (later₂.events.held e put.1).records_eq.trans (congrArg Event.records put.2)
  · have given : (m₃.after.state.event e).id ≠ .nil := by
      rw [stamped, Telemetry.stamp_eq, Telemetry.event, Registry.get_modify]
      rw [run.sources_eq, ← run₃.sources_eq] at fresh
      exact Event.id_stamped_ne_nil _ (fresh _)
    have same := (later₃.events.held e event).id_eq given
    rwa [Telemetry.event, same]

end CauseTrail
