import CauseTrail.Proofs.Telemetry.Reached

/-!
# Threads that keep to themselves

A thread comes by hubs in three ways: it asks for the main hub, it asks for its own current hub, or
it starts telemetry, which puts a client on both. As long as no hub is handed on, threads share the
main hub and no other, in whatever order they make their moves. A current hub takes over the client
of the main hub as it is made; from then on nothing that other threads do reaches it.

A hub that was made for a thread is seen by others at no time. So it is all the same when they move
between the reading of the client of the main hub and the storing of the new hub, and to ask for the
current hub is one move. A start is one move or a row of moves, with those of others in between.

## Main definitions

* `Telemetry.Reaches`, `Telemetry.Apart`: the hubs that a thread comes by, and slots without a
  common hub
* `Move.IsBy`: a move that a thread makes with the hubs that it comes by
* `Turn`, `Turns`: the moves of threads, and the runs that they make up
* `Turns.Isolated`: what is known of the hubs of threads

## Main results

* `System.apart_after`, `System.hub_after_of_not_reaches`: what a move keeps
* `Turns.apart`, `Turns.hub_eq`: what a run keeps
* `Turns.isolated`: threads share the main hub at most
-/

namespace CauseTrail

/-! ## Slots without a common hub -/

namespace Telemetry

variable {t t' : Telemetry} {thread other : Thread} {h k m : Ref Hub} {s : Start}

/-- The hubs that a thread comes by: the main hub and its current one. -/
def Reaches (t : Telemetry) (thread : Thread) (h : Ref Hub) : Prop :=
  t.main? = some h ∨ t.current? thread = some h

/-- Slots have hubs that are there, and no two of them have a common one. -/
structure Apart (t : Telemetry) : Prop where
  held : ∀ h, t.Refers h → t.hubs.Holds h
  main_ne : ∀ thread h, t.current? thread = some h → t.main? ≠ some h
  injective : ∀ a b h, t.current? a = some h → t.current? b = some h → a = b

namespace Apart

theorem of_slots_eq (apart : t.Apart) (slots : t'.slots = t.slots)
    (holds : ∀ h, t.hubs.Holds h → t'.hubs.Holds h) : t'.Apart := by
  have main : t'.main? = t.main? := congrArg Prod.fst slots
  have current : t'.current? = t.current? := congrArg Prod.snd slots
  refine ⟨fun h refers => holds h (apart.held h ((refers_congr slots).mp refers)), ?_, ?_⟩
  · rw [main, current]
    exact apart.main_ne
  · rw [current]
    exact apart.injective

theorem held_current (apart : t.Apart) (current : t.current? thread = some h) :
    t.hubs.Holds h :=
  apart.held h (.inr ⟨thread, current⟩)

/-- No thread comes by the current hub of another one. -/
theorem not_reaches (apart : t.Apart) (current : t.current? other = some h)
    (distinct : other ≠ thread) : ¬ t.Reaches thread h := by
  rintro (main | own)
  · exact apart.main_ne other h current main
  · exact distinct (apart.injective other thread h current own)

theorem main (apart : t.Apart) : t.main.1.Apart := by
  cases slot : t.main? with
  | some m => rwa [main_of_some slot]
  | none =>
    rw [main_of_none slot]
    constructor
    case held =>
      rintro h (⟨⟨⟩⟩ | ⟨thread, current⟩)
      · exact Nat.lt_succ_self _
      · exact Nat.lt_succ_of_lt (apart.held_current current)
    case main_ne =>
      rintro thread h current ⟨⟩
      exact (apart.held_current current).ne_next rfl
    case injective => exact apart.injective

/-- A new hub may become the current one of a thread. -/
theorem setCurrent_next (apart : t.Apart) (thread : Thread) (hub : Hub) :
    ((t.addHub hub).1.setCurrent thread (some t.hubs.next)).Apart := by
  have slot (other : Thread) (h : Ref Hub)
      (current : ((t.addHub hub).1.setCurrent thread (some t.hubs.next)).current? other = some h) :
      (other = thread ∧ h = t.hubs.next) ∨
        (other ≠ thread ∧ t.current? other = some h ∧ t.hubs.Holds h) := by
    by_cases same : other = thread
    · rw [same, current?_setCurrent] at current
      exact .inl ⟨same, (Option.some.inj current).symm⟩
    · rw [current?_setCurrent_of_ne _ _ same] at current
      exact .inr ⟨same, current, apart.held_current current⟩
  constructor
  case held =>
    rintro h (main | ⟨other, current⟩)
    · exact Nat.lt_succ_of_lt (apart.held h (.inl main))
    · rcases slot other h current with ⟨-, rfl⟩ | ⟨-, -, held⟩
      · exact Nat.lt_succ_self _
      · exact Nat.lt_succ_of_lt held
  case main_ne =>
    intro other h current main
    rcases slot other h current with ⟨-, rfl⟩ | ⟨-, old, -⟩
    · exact (apart.held _ (.inl main)).ne_next rfl
    · exact apart.main_ne other h old main
  case injective =>
    intro a b h first second
    rcases slot a h first with ⟨rfl, rfl⟩ | ⟨-, old, held⟩
    · rcases slot b _ second with ⟨rfl, -⟩ | ⟨-, -, held⟩
      · rfl
      · exact absurd rfl held.ne_next
    · rcases slot b h second with ⟨-, rfl⟩ | ⟨-, old', -⟩
      · exact absurd rfl held.ne_next
      · exact apart.injective a b h old old'

theorem current (apart : t.Apart) (thread : Thread) : (t.current thread).1.Apart := by
  cases slot : t.current? thread with
  | some k => rwa [current_of_some slot]
  | none =>
    rw [Telemetry.current, slot]
    exact apart.main.setCurrent_next thread _

theorem bind (apart : t.Apart) (h : Ref Hub) (c? : Option (Ref Client)) : (t.bind h c?).Apart :=
  apart.of_slots_eq rfl fun _ => id

theorem start (apart : t.Apart) (thread : Thread) (s : Start) : (t.start thread s).1.Apart := by
  cases started : (t.start thread s).2 with
  | error e =>
    rw [start_of_error started]
    exact apart.of_slots_eq rfl fun _ => id
  | ok c =>
    obtain ⟨o, r, -, -, after⟩ := start_of_ok started
    have ready : ((t.logged s).addClientOver o r).1.Apart := apart.of_slots_eq rfl fun _ => id
    rw [after]
    exact ((ready.main.bind _ _).current thread).bind _ _

end Apart

/-! ## A current hub -/

theorem current?_current_of_some (here : t.current? other = some k) (thread : Thread) :
    (t.current thread).1.current? other = some k := by
  by_cases same : other = thread
  · subst same
    rwa [current_of_some here]
  · rwa [current?_current_of_ne t same]

/-- What a start does to the current hubs of threads, it does as it asks for that of its own. -/
theorem current?_start (t : Telemetry) (thread : Thread) (s : Start) :
    (t.start thread s).1.current? = t.current? ∨ ∃ u : Telemetry, u.current? = t.current? ∧
      (t.start thread s).1.current? = (u.current thread).1.current? := by
  cases started : (t.start thread s).2 with
  | error e =>
    rw [start_of_error started]
    exact .inl rfl
  | ok c =>
    obtain ⟨o, r, -, -, after⟩ := start_of_ok started
    rw [after, install_eq]
    exact .inr ⟨_, current?_bindMain ((t.logged s).addClientOver o r).1 (some c), rfl⟩

theorem current?_start_of_some (here : t.current? other = some k) (thread : Thread) (s : Start) :
    (t.start thread s).1.current? other = some k := by
  rcases t.current?_start thread s with same | ⟨u, same, asked⟩
  · rwa [same]
  · rw [asked]
    exact current?_current_of_some (same ▸ here) thread

theorem current?_start_of_ne (t : Telemetry) (s : Start) (distinct : other ≠ thread) :
    (t.start thread s).1.current? other = t.current? other := by
  rcases t.current?_start thread s with same | ⟨u, same, asked⟩
  · rw [same]
  · rw [asked, current?_current_of_ne u distinct, same]

/-- A slot with a new client on top has a hub with this client. -/
theorem Tops.exists_client {c : Ref Client} {slot slot' : Option (Ref Hub)}
    (tops : t.Tops t' c slot slot') : ∃ h, slot' = some h ∧ (t'.hub h).client? = some c := by
  cases tops with
  | kept before after => exact ⟨_, rfl, by rw [Hub.client?, after]; rfl⟩
  | made new held hub_eq => exact ⟨_, rfl, by rw [hub_eq, Hub.client?_ofClient]⟩

/-- A hub that was not there, made with the client that the main hub has. -/
structure Inherits (t t' : Telemetry) (k : Ref Hub) : Prop where
  new : ¬ t.hubs.Holds k
  hub_eq : ∃ m, t'.main? = some m ∧ t'.hub k = .ofClient (t'.hub m).client?

/-- A thread without a hub gets a new one, which takes over the client of the main hub. -/
theorem inherits_current (apart : t.Apart) (free : t.current? thread = none)
    (made : (t.current thread).1.current? thread = some k) : t.Inherits (t.current thread).1 k := by
  have asked : t.current thread = t.main.1.current thread := by
    rw [current, free, current, congrFun (current?_main t) thread, free, main_main]
  have main := main?_main t
  have free' : t.main.1.current? thread = none := (congrFun (current?_main t) thread).trans free
  obtain ⟨k', -, new, slot, hub⟩ := hub_current_of_none main free'
  rw [asked] at made ⊢
  obtain rfl : k' = k := Option.some.inj (slot.symm.trans made)
  refine ⟨fun held => new ((tidy_main t).holds held), t.main.2, ?_, ?_⟩
  · rw [current_of_none main free']
    exact main
  · rw [hub, hub_current thread (apart.main.held _ (.inl main))]

/-- So it is with a start, which has put its client on the main hub by then. -/
theorem inherits_start (rooted : t.Rooted) (free : t.current? thread = none)
    (made : (t.start thread s).1.current? thread = some k) :
    t.Inherits (t.start thread s).1 k := by
  cases started : (t.start thread s).2 with
  | error e =>
    rw [start_of_error started] at made
    cases free.symm.trans made
  | ok c =>
    have done := installed_start rooted started
    obtain ⟨m, main, top⟩ := done.main.exists_client
    have current := done.current
    rw [free, made] at current
    cases current with
    | made new held hub_eq => exact ⟨new, m, main, by rw [hub_eq, top]⟩

end Telemetry

/-! ## Moves of threads -/

/-- A thread makes a move with the hubs that it comes by. It begins captures and takes the steps of
those that it began; it puts clients and layers on these hubs; it asks for its own current hub. What
it does without a hub it may always do. -/
def Move.IsBy (owners : List Thread) (s : System) (thread : Thread) : Move → Prop
  | .begin h _ => s.state.Reaches thread h
  | .advance i => owners[i]? = some thread
  | .change (.bind h _) | .change (.enter h _) | .change (.leave h _) => s.state.Reaches thread h
  | .change (.start other _) | .change (.current other) => other = thread
  | .change (.setCurrent _ _) | .change (.addHub _) => False
  | _ => True

/-- The blocks that are open after a move; a block ends only while it is open. -/
def Move.blocks? (s : System) (opened : Ref Hub → List Nat) : Move → Option (Ref Hub → List Nat)
  | .change (.enter h c?) =>
    some (Function.update opened h ((s.state.enter h c?).2 :: opened h))
  | .change (.leave h pushed) =>
    if pushed ∈ opened h then some (Function.update opened h ((opened h).erase pushed)) else none
  | _ => some opened

/-- Each capture is on a hub that the thread comes by that began it. -/
structure System.OwnedBy (s : System) (owners : List Thread) : Prop where
  length_eq : owners.length = s.calls.length
  reaches : ∀ (i : Nat) (call : Call) (thread : Thread), s.calls[i]? = some call →
    owners[i]? = some thread → s.state.Reaches thread call.hub

section Moves

variable {s : System} {opened opened' : Ref Hub → List Nat} {owners : List Thread}
  {thread other : Thread} {h k : Ref Hub} {move : Move} {call : Call} {i : Nat}

/-- A thread puts a hub into a slot only by a start, or as it asks for the main hub or its own. -/
theorem Move.IsBy.cases_slots (by_ : move.IsBy owners s thread) :
    (s.after move).state.slots = s.state.slots ∨
      (∃ start, move = .change (.start thread start)) ∨ move = .change .main ∨
        move = .change (.current thread) := by
  cases on : move.isOnSlots with
  | false => exact .inl (System.slots_after on)
  | true =>
    unfold Move.isOnSlots at on
    split at on
    · next other start =>
      obtain rfl : other = thread := by_
      exact .inr (.inl ⟨start, rfl⟩)
    · exact .inr (.inr (.inl rfl))
    · next other =>
      obtain rfl : other = thread := by_
      exact .inr (.inr (.inr rfl))
    · exact by_.elim
    · cases on

/-- The current hub of a thread stays its current hub. -/
theorem System.current?_after (by_ : move.IsBy owners s thread)
    (here : s.state.current? other = some k) : (s.after move).state.current? other = some k := by
  rcases by_.cases_slots with same | ⟨start, rfl⟩ | rfl | rfl
  · exact (congrFun (congrArg Prod.snd same) other).trans here
  · exact Telemetry.current?_start_of_some here thread start
  · exact (congrFun (Telemetry.current?_main _) other).trans here
  · exact Telemetry.current?_current_of_some here thread

theorem System.reaches_after (by_ : move.IsBy owners s thread) (reaches : s.state.Reaches other h) :
    (s.after move).state.Reaches other h := by
  rcases reaches with main | current
  · exact .inl (main?_after main move)
  · exact .inr (current?_after by_ current)

/-- A move of a thread leaves the slots apart. -/
theorem System.apart_after (apart : s.state.Apart) (by_ : move.IsBy owners s thread) :
    (s.after move).state.Apart := by
  rcases by_.cases_slots with same | ⟨start, rfl⟩ | rfl | rfl
  · exact apart.of_slots_eq same fun h held => holds_after held move
  · exact apart.start thread start
  · exact apart.main
  · exact apart.current thread

/-- A capture that is there after a move was there on the same hub, or was begun just now. -/
theorem System.hub_calls_after (there : (s.after move).calls[i]? = some call) :
    (∃ old, s.calls[i]? = some old ∧ old.hub = call.hub) ∨
      (i = s.calls.length ∧ ∃ x, move = .begin call.hub x) := by
  cases move with
  | begin h x =>
    rw [after] at there
    rcases Nat.lt_or_ge i s.calls.length with old | new
    · rw [List.getElem?_append_left old] at there
      exact .inl ⟨call, there, rfl⟩
    · rw [List.getElem?_append_right new, List.getElem?_singleton] at there
      split at there
      · obtain rfl := Option.some.inj there
        exact .inr ⟨by omega, x, rfl⟩
      · cases there
  | advance j =>
    rw [after] at there
    split at there
    · next moving before =>
      rw [calls_advance] at there
      split at there
      · next both =>
        obtain rfl := Option.some.inj there
        exact .inl ⟨moving, both.1 ▸ before, rfl⟩
      · exact .inl ⟨call, there, rfl⟩
    · exact .inl ⟨call, there, rfl⟩
  | send | clear | change => exact .inl ⟨call, there, rfl⟩

theorem System.length_calls_after (s : System) (move : Move) :
    (s.after move).calls.length =
      s.calls.length + match move with
        | .begin _ _ => 1
        | _ => 0 := by
  cases move with
  | begin h x => exact List.length_append
  | advance i =>
    rw [after]
    split
    · exact List.length_set
    · rfl
  | send | clear | change => rfl

/-- **A move reaches no hub** that its thread does not come by. -/
theorem System.hub_after_of_not_reaches (owned : s.OwnedBy owners) (held : s.state.hubs.Holds k)
    (by_ : move.IsBy owners s thread) (unreached : ¬ s.state.Reaches thread k) :
    (s.after move).state.hub k = s.state.hub k := by
  have distinct {h : Ref Hub} (reaches : s.state.Reaches thread h) : k ≠ h := by
    rintro rfl
    exact unreached reaches
  cases move with
  | begin h x => rfl
  | advance i =>
    rw [after]
    split
    · next call there =>
      have other := distinct (owned.reaches i call thread there by_)
      show (call.phase.next call.hub call.subject s.state).1.hub k = _
      by_cases recording : ∃ id, call.phase = .sent id
      · obtain ⟨id, phase⟩ := recording
        rw [phase, Phase.next, Telemetry.record]
        split
        · rfl
        · rw [Telemetry.hub_changeHub, if_neg other]
      · have same := Phase.hubs_next (h := call.hub) (x := call.subject) (t := s.state)
          fun id eq => recording ⟨id, eq⟩
        rw [Telemetry.hub, same]
        rfl
    · rfl
  | send c e =>
    have same := (s.state.send_others c e).1
    show (s.state.send c e).1.hub k = _
    rw [Telemetry.hub, same]
    rfl
  | clear r => rfl
  | change o =>
    show (o.apply s.state).hub k = _
    have away := o.hubs_apply s.state
    cases o with
    | bind h c? => rw [Change.apply, Telemetry.hub_bind, if_neg (distinct by_)]
    | enter h c? => rw [Change.apply, Telemetry.hub_enter, if_neg (distinct by_)]
    | leave h pushed => rw [Change.apply, Telemetry.hub_leave, if_neg (distinct by_)]
    | start other start =>
      obtain rfl : other = thread := by_
      rw [Change.apply, Telemetry.hub_start held]
      split
      · rfl
      · exact if_neg unreached
    | main => exact Telemetry.hub_main held
    | current other => exact Telemetry.hub_current other held
    | setCurrent | addHub => exact by_.elim
    | setOption | addEvent | addTransport | openFile | addClient | setHost =>
      rw [Telemetry.hub, (away rfl).1]
      rfl

/-- A thread gets its current hub by a move of its own. -/
theorem System.inherits_after (rooted : s.state.Rooted) (apart : s.state.Apart)
    (by_ : move.IsBy owners s thread) (free : s.state.current? other = none)
    (made : (s.after move).state.current? other = some k) :
    other = thread ∧ s.state.Inherits (s.after move).state k := by
  have unmade (same : (s.after move).state.current? other = s.state.current? other) : False := by
    rw [same, free] at made
    cases made
  rcases by_.cases_slots with same | ⟨start, rfl⟩ | rfl | rfl
  · exact (unmade (congrFun (congrArg Prod.snd same) other)).elim
  · by_cases own : other = thread
    · subst own
      exact ⟨rfl, Telemetry.inherits_start rooted free made⟩
    · exact (unmade (Telemetry.current?_start_of_ne _ start own)).elim
  · exact (unmade (congrFun (Telemetry.current?_main _) other)).elim
  · by_cases own : other = thread
    · subst own
      exact ⟨rfl, Telemetry.inherits_current apart free made⟩
    · exact (unmade (Telemetry.current?_current_of_ne _ own)).elim

/-- A move that a thread makes leads from a state that is reached to another. -/
theorem System.Reached.after (reached : s.Reached opened) (by_ : move.IsBy owners s thread)
    (blocks : move.blocks? s opened = some opened') : (s.after move).Reached opened' := by
  unfold Move.blocks? at blocks
  split at blocks
  · obtain rfl := Option.some.inj blocks
    refine reached.enter (reached.rooted.holds ?_) _
    exact (show s.state.Reaches thread _ from by_).imp id fun current => ⟨thread, current⟩
  · split_ifs at blocks with mine
    obtain rfl := Option.some.inj blocks
    exact reached.leave mine
  · next entered left =>
    obtain rfl := Option.some.inj blocks
    refine reached.other (fun h => ?_) ?_
    · unfold Move.isOnLayers
      split
      · next h c? => exact (entered h c? rfl).elim
      · next h pushed => exact (left h pushed rfl).elim
      · rfl
    · unfold Move.Grounded
      split
      · exact by_.elim
      · trivial

end Moves

/-! ## Runs of threads -/

/-- A move of a thread, and the system in which it is made. -/
structure Turn where
  thread : Thread
  before : System
  move : Move

/-- The system after a turn. -/
def Turn.after (turn : Turn) : System := turn.before.after turn.move

/-- The thread that begins a capture. -/
def Turn.begins? (turn : Turn) : Option Thread :=
  match turn.move with
  | .begin _ _ => some turn.thread
  | _ => none

/-- The threads that began the captures, in order. -/
def owners (past : List Turn) : List Thread := past.filterMap Turn.begins?

/-- **The runs of threads** that hand no hub on: any turns, from the first one on, with the blocks
that are open on each hub. -/
inductive Turns (host : Host) (sources : Sources) :
    List Turn → System → (Ref Hub → List Nat) → Prop where
  | start : Turns host sources [] (.initial host sources) fun _ => []
  | step {past : List Turn} {s : System} {opened opened' : Ref Hub → List Nat}
      (turns : Turns host sources past s opened) (thread : Thread) (move : Move)
      (by_ : move.IsBy (owners past) s thread) (blocks : move.blocks? s opened = some opened') :
      Turns host sources (past ++ [⟨thread, s, move⟩]) (s.after move) opened'

variable {host : Host} {sources : Sources} {past : List Turn} {s : System}
  {opened : Ref Hub → List Nat} {thread other : Thread} {h k m : Ref Hub} {turn : Turn}

theorem owners_append (past : List Turn) (turn : Turn) :
    owners (past ++ [turn]) = owners past ++ turn.begins?.toList := by
  rw [owners, List.filterMap_append]
  cases begins : turn.begins? <;> simp [owners, begins]

namespace Turns

theorem reached (turns : Turns host sources past s opened) : s.Reached opened := by
  induction turns with
  | start => exact .initial host sources
  | step turns thread move by_ blocks ih => exact ih.after by_ blocks

theorem apart (turns : Turns host sources past s opened) : s.state.Apart := by
  induction turns with
  | start =>
    refine ⟨?_, nofun, nofun⟩
    rintro h (⟨⟨⟩⟩ | ⟨thread, ⟨⟩⟩)
  | step turns thread move by_ blocks ih => exact System.apart_after ih by_

/-- **Captures stay with their threads**: each one is on a hub that the thread comes by that began
it. -/
theorem owned (turns : Turns host sources past s opened) : s.OwnedBy (owners past) := by
  induction turns with
  | start => exact ⟨rfl, nofun⟩
  | @step past s opened opened' turns thread move by_ blocks ih =>
    constructor
    case length_eq =>
      rw [owners_append, List.length_append, ih.length_eq, System.length_calls_after]
      cases move <;> rfl
    case reaches =>
      intro i call owner there owns
      rcases System.hub_calls_after there with ⟨old, before, hub⟩ | ⟨last, x, rfl⟩
      · -- a capture that was there has the owner that it had
        have inside : i < (owners past).length := by
          rw [ih.length_eq]
          exact (List.getElem?_eq_some_iff.mp before).1
        rw [owners_append, List.getElem?_append_left inside] at owns
        rw [← hub]
        exact System.reaches_after by_ (ih.reaches i old owner before owns)
      · -- and one that is new has the thread that begins it
        rw [owners_append, last, ← ih.length_eq] at owns
        obtain rfl := Option.some.inj (List.getElem?_concat_length.symm.trans owns)
        exact by_

/-- A run comes through each of its turns. -/
theorem split (turns : Turns host sources past s opened) (there : turn ∈ past) :
    ∃ early opened₁, Turns host sources early turn.before opened₁ ∧
      turn.move.IsBy (owners early) turn.before turn.thread := by
  induction turns with
  | start => cases there
  | @step past s opened opened' turns thread move by_ blocks ih =>
    rcases List.mem_append.mp there with old | new
    · exact ih old
    · obtain rfl := List.mem_singleton.mp new
      exact ⟨past, opened, turns, by_⟩

/-- What all moves of threads keep lasts from any turn on. -/
theorem lasting {P : System → Prop}
    (keeps : ∀ (owners : List Thread) (s : System) (thread : Thread) (move : Move),
      move.IsBy owners s thread → P s → P (s.after move))
    (turns : Turns host sources past s opened) (there : turn ∈ past) (here : P turn.before) :
    P s := by
  induction turns with
  | start => cases there
  | @step past s opened opened' turns thread move by_ blocks ih =>
    apply keeps (owners past) s thread move by_
    rcases List.mem_append.mp there with old | new
    · exact ih old
    · obtain rfl := List.mem_singleton.mp new
      exact here

theorem current?_eq (turns : Turns host sources past s opened) (there : turn ∈ past)
    (here : turn.before.state.current? other = some k) : s.state.current? other = some k :=
  turns.lasting (P := fun s => s.state.current? other = some k)
    (fun _ _ _ _ by_ here => System.current?_after by_ here) there here

/-- A turn leaves the current hubs of other threads as they are. -/
theorem hub_after (turns : Turns host sources past s opened) (there : turn ∈ past)
    (distinct : other ≠ turn.thread) (here : turn.before.state.current? other = some k) :
    turn.after.state.hub k = turn.before.state.hub k := by
  obtain ⟨early, opened₁, first, by_⟩ := turns.split there
  have apart := first.apart
  exact System.hub_after_of_not_reaches first.owned (apart.held_current here) by_
    (apart.not_reaches here distinct)

/-- **The current hub of a thread** stays as it is for as long as the thread takes no turn. -/
theorem hub_eq (turns : Turns host sources past s opened) {early late : List Turn}
    (parts : past = early ++ turn :: late) (others : ∀ u ∈ turn :: late, u.thread ≠ other)
    (here : turn.before.state.current? other = some k) :
    s.state.hub k = turn.before.state.hub k := by
  induction turns generalizing late with
  | start => simp at parts
  | @step past s opened opened' turns thread move by_ blocks ih =>
    have all := turns.step thread move by_ blocks
    have last : (⟨thread, s, move⟩ : Turn) ∈ past ++ [⟨thread, s, move⟩] := List.mem_concat_self
    rcases List.eq_nil_or_concat late with rfl | ⟨late, final, rfl⟩
    · obtain ⟨rfl, same⟩ := List.append_inj' parts rfl
      obtain rfl := (List.singleton_inj.mp same).symm
      exact all.hub_after last (Ne.symm (others _ List.mem_cons_self)) here
    · rw [List.concat_eq_append, ← List.cons_append, ← List.append_assoc] at parts
      obtain ⟨rfl, same⟩ := List.append_inj' parts rfl
      obtain rfl := (List.singleton_inj.mp same).symm
      have before : ∀ u ∈ turn :: late, u.thread ≠ other := by
        intro u mem
        refine others u ?_
        rw [List.concat_eq_append, ← List.cons_append]
        exact List.mem_append_left _ mem
      have now := turns.current?_eq (List.mem_append_right early List.mem_cons_self) here
      have distinct : thread ≠ other := others ⟨thread, s, move⟩ (by simp)
      exact (all.hub_after last (Ne.symm distinct) now).trans (ih rfl before)

end Turns

/-- What is known of the hubs of threads after some turns. -/
structure Turns.Isolated (past : List Turn) (s : System) : Prop where
  /-- The main hub is the same ever after. -/
  main : ∀ turn ∈ past, ∀ m, turn.before.state.main? = some m → s.state.main? = some m
  /-- So is the current hub of a thread. -/
  current : ∀ turn ∈ past, ∀ thread k, turn.before.state.current? thread = some k →
    s.state.current? thread = some k
  /-- Current hubs of different threads are different, and none of them is the main hub. -/
  distinct : ∀ a b k, s.state.current? a = some k → s.state.current? b = some k → a = b
  main_ne : ∀ thread k, s.state.current? thread = some k → s.state.main? ≠ some k
  /-- A thread gets its current hub by a turn of its own. It is a new hub with one layer, which has
  the client that the main hub has on top at the time. -/
  made : ∀ turn ∈ past, ∀ thread k, turn.before.state.current? thread = none →
    turn.after.state.current? thread = some k →
    thread = turn.thread ∧ turn.before.state.Inherits turn.after.state k
  /-- To ask for it does nothing to the main hub. -/
  asked : ∀ turn ∈ past, turn.move = .change (.current turn.thread) → ∀ m,
    turn.before.state.main? = some m → turn.after.state.hub m = turn.before.state.hub m
  /-- No turn of one thread changes the layers, or what was recorded last, of the current hub of
  another one. -/
  others : ∀ turn ∈ past, ∀ thread k, thread ≠ turn.thread →
    turn.before.state.current? thread = some k →
    turn.after.state.hub k = turn.before.state.hub k
  /-- Nor do any turns in a row. -/
  meanwhile : ∀ early turn late thread k, past = early ++ turn :: late →
    (∀ u ∈ turn :: late, u.thread ≠ thread) → turn.before.state.current? thread = some k →
    s.state.hub k = turn.before.state.hub k

/-- **Threads keep to themselves**: whatever the order of their turns, they share the main hub and
no other. -/
theorem Turns.isolated (turns : Turns host sources past s opened) : Turns.Isolated past s where
  main turn there m here :=
    turns.lasting (P := fun s => s.state.main? = some m)
      (fun _ _ _ move _ here => System.main?_after here move) there here
  current turn there thread k here := turns.current?_eq there here
  distinct := turns.apart.injective
  main_ne := turns.apart.main_ne
  made turn there thread k free made := by
    obtain ⟨early, opened₁, first, by_⟩ := turns.split there
    exact System.inherits_after first.reached.rooted first.apart by_ free made
  asked turn there asks m here := by
    obtain ⟨early, opened₁, first, -⟩ := turns.split there
    rw [Turn.after, asks]
    exact Telemetry.hub_current _ (first.apart.held m (.inl here))
  others turn there thread k distinct here := turns.hub_after there distinct here
  meanwhile early turn late thread k parts others here := turns.hub_eq parts others here

/-- A thread starts telemetry, and a second one captures on a hub of its own. Then the first one
starts again, has a layer on the main hub for a while, and leaves the main hub without a client. -/
theorem Turns.isolated_startAgain : ∃ past s opened,
    Turns Telemetry.oneHub.host Telemetry.oneHub.sources past s opened ∧
    s.state.main? = some ⟨0⟩ ∧ s.state.current? .first = some ⟨1⟩ ∧
    s.state.current? ⟨1⟩ = some ⟨2⟩ ∧ (s.state.hub ⟨0⟩).layers = [none] ∧
    (s.state.hub ⟨1⟩).layers = [some ⟨1⟩] ∧ (s.state.hub ⟨2⟩).layers = [some ⟨0⟩] ∧
    (s.state.hub ⟨2⟩).last? = some (Telemetry.oneHub.sources.id 0) ∧ Turns.Isolated past s := by
  let start : Start := { options? := some { transport := .memory } }
  have turns := (Turns.start : Turns Telemetry.oneHub.host Telemetry.oneHub.sources [] _ _)
    |>.step .first (.change (.start .first start)) rfl rfl
    |>.step ⟨1⟩ (.change (.current ⟨1⟩)) rfl rfl
    |>.step ⟨1⟩ (.begin ⟨2⟩ (.fault (.simple "Failure" "failed" none))) (.inr rfl) rfl
    |>.step ⟨1⟩ (.advance 0) rfl rfl
    |>.step ⟨1⟩ (.advance 0) rfl rfl
    |>.step .first (.change (.start .first start)) rfl rfl
    |>.step ⟨1⟩ (.advance 0) rfl rfl
    |>.step .first (.change (.enter ⟨0⟩ none)) (.inl (by decide +kernel)) rfl
    |>.step ⟨1⟩ (.advance 0) rfl rfl
    |>.step .first (.change (.leave ⟨0⟩ 2)) (.inl (by decide +kernel))
      (if_pos (by decide +kernel))
    |>.step ⟨1⟩ (.advance 0) rfl rfl
    |>.step .first (.change (.bind ⟨0⟩ none)) (.inl (by decide +kernel)) rfl
  exact ⟨_, _, _, turns, by decide +kernel, by decide +kernel, by decide +kernel,
    by decide +kernel, by decide +kernel, by decide +kernel, by decide +kernel, turns.isolated⟩

end CauseTrail
