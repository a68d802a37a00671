import CauseTrail.Proofs.Telemetry.Overlap
import Mathlib.Logic.Function.Basic

/-!
# What is reached

Everything begins without a hub. From there any moves are made, where the exit of a block is that of
one that is open on its hub, and a thread is handed only hubs that are there. Then each hub stands
as its open blocks say, whenever and by whatever it was made, no slot has a hub that is not there,
and no hub is without a layer.

## Main definitions

* `Telemetry.Refers`: the hubs that the slots have
* `Move.Grounded`: a thread is handed only hubs that are there
* `System.Reached`: the systems that are reached, with the blocks that are open on each hub
* `System.Stands`: what holds of all hubs of a system

## Main results

* `System.Reached.stands`: each hub stands as its open blocks say
* `System.Reached.rooted`: the state of a system that is reached is rooted
-/

namespace CauseTrail

/-! ## Slots -/

namespace Telemetry

variable {t t' : Telemetry} {thread : Thread} {h m : Ref Hub} {c : Ref Client} {s : Start}
  {slot slot' : Option (Ref Hub)}

/-- A hub is the main hub or the current hub of a thread. -/
def Refers (t : Telemetry) (h : Ref Hub) : Prop :=
  t.main? = some h ∨ ∃ thread, t.current? thread = some h

theorem refers_congr (same : t'.slots = t.slots) : t'.Refers h ↔ t.Refers h := by
  have main : t'.main? = t.main? := congrArg Prod.fst same
  have current : t'.current? = t.current? := congrArg Prod.snd same
  rw [Refers, Refers, main, current]

theorem Rooted.holds (rooted : t.Rooted) (refers : t.Refers h) : t.hubs.Holds h := by
  rcases refers with main | ⟨thread, current⟩
  · exact rooted.main h main
  · exact rooted.current thread h current

/-- A slot with a new client on top has a hub that is there, if the one that it had is there. -/
theorem Tops.holds (tops : t.Tops t' c slot slot') (here : slot' = some h)
    (before : ∀ k, slot = some k → t'.hubs.Holds k) : t'.hubs.Holds h := by
  cases tops with
  | kept => exact before h here
  | made new held => exact Option.some.inj here ▸ held

theorem holds_main (rooted : t.Rooted) : t.main.1.hubs.Holds t.main.2 := by
  cases slot : t.main? with
  | some m =>
    rw [main_of_some slot]
    exact rooted.main m slot
  | none =>
    rw [main_of_none slot]
    exact Nat.lt_succ_self _

theorem refers_main (refers : t.main.1.Refers h) : t.Refers h ∨ h = t.main.2 := by
  rcases refers with main | ⟨thread, current⟩
  · rw [main?_main] at main
    exact .inr (Option.some.inj main).symm
  · rw [current?_main] at current
    exact .inl (.inr ⟨thread, current⟩)

theorem holds_of_refers_main (rooted : t.Rooted) (refers : t.main.1.Refers h) :
    t.main.1.hubs.Holds h := by
  rcases refers_main refers with old | rfl
  · exact (tidy_main t).holds (rooted.holds old)
  · exact holds_main rooted

theorem holds_of_refers_current (rooted : t.Rooted) (refers : (t.current thread).1.Refers h) :
    (t.current thread).1.hubs.Holds h := by
  cases slot : t.current? thread with
  | some k =>
    rw [current_of_some slot] at refers ⊢
    exact rooted.holds refers
  | none =>
    rw [current, slot] at refers ⊢
    rcases refers with main | ⟨other, current⟩
    · exact Nat.lt_succ_of_lt (holds_of_refers_main rooted (.inl main))
    · by_cases same : other = thread
      · rw [same, current?_setCurrent] at current
        obtain rfl := Option.some.inj current
        exact Nat.lt_succ_self _
      · rw [current?_setCurrent_of_ne _ _ same] at current
        exact Nat.lt_succ_of_lt (holds_of_refers_main rooted (.inr ⟨other, current⟩))

theorem holds_of_refers_start (rooted : t.Rooted) (thread : Thread) (s : Start)
    (refers : (t.start thread s).1.Refers h) : (t.start thread s).1.hubs.Holds h := by
  have there {k : Ref Hub} (before : t.Refers k) : (t.start thread s).1.hubs.Holds k :=
    (tidy_start t thread s).holds (rooted.holds before)
  cases started : (t.start thread s).2 with
  | error e =>
    rw [start_of_error started] at refers
    exact there refers
  | ok c =>
    have done := installed_start rooted started
    rcases refers with main | ⟨other, current⟩
    · exact done.main.holds main fun k slot => there (.inl slot)
    · by_cases same : other = thread
      · subst same
        exact done.current.holds current fun k slot => there (.inr ⟨other, slot⟩)
      · rw [done.slots other same] at current
        exact there (.inr ⟨other, current⟩)

end Telemetry

/-- A thread is handed a hub only if it is there. -/
def Move.Grounded (s : System) : Move → Prop
  | .change (.setCurrent _ h?) => ∀ h, h? = some h → s.state.hubs.Holds h
  | _ => True

variable {s : System} {h k : Ref Hub} {move : Move} {opened : Ref Hub → List Nat} {pushed : Nat}

/-- Whether a move may put a hub into a slot. -/
def Move.isOnSlots : Move → Bool
  | .change (.start _ _) | .change .main | .change (.current _) | .change (.setCurrent _ _) => true
  | _ => false

theorem System.slots_after (apart : move.isOnSlots = false) :
    (s.after move).state.slots = s.state.slots := by
  cases move with
  | begin k x => rfl
  | advance i =>
    rw [after]
    split
    · exact Phase.slots_next _ _ _ _
    · rfl
  | send c e => exact Telemetry.slots_send _ c e
  | clear r => rfl
  | change o =>
    have away := o.hubs_apply s.state
    cases o with
    | start | main | current | setCurrent => cases apart
    | leave k pushed => exact s.state.slots_leave k pushed
    | bind | enter | addHub => rfl
    | setOption | addEvent | addTransport | openFile | addClient | setHost =>
      exact (away rfl).2

/-- Each slot has a hub that is there still after a move. -/
theorem System.holds_of_refers_after (rooted : s.state.Rooted) (grounded : move.Grounded s)
    (refers : (s.after move).state.Refers h) : (s.after move).state.hubs.Holds h := by
  cases on : move.isOnSlots with
  | false =>
    rw [Telemetry.refers_congr (slots_after on)] at refers
    exact System.holds_after (rooted.holds refers) move
  | true =>
    unfold Move.isOnSlots at on
    split at on
    · exact Telemetry.holds_of_refers_start rooted _ _ refers
    · exact Telemetry.holds_of_refers_main rooted refers
    · exact Telemetry.holds_of_refers_current rooted refers
    · next thread h? =>
      rcases refers with main | ⟨other, current⟩
      · exact rooted.main h main
      · by_cases same : other = thread
        · subst same
          exact grounded h ((Telemetry.current?_setCurrent _ _ _).symm.trans current)
        · exact rooted.current other h
            ((Telemetry.current?_setCurrent_of_ne _ _ same).symm.trans current)
    · cases on

/-! ## New hubs -/

namespace Telemetry

variable {t : Telemetry} {h : Ref Hub}

/-- A hub that is added has one layer. -/
theorem layers_addHub_of_new {c? : Option (Ref Client)} (new : ¬ t.hubs.Holds h)
    (later : (t.addHub (.ofClient c?)).1.hubs.Holds h) :
    ((t.addHub (.ofClient c?)).1.hub h).layers = [c?] := by
  rcases (t.hubs.holds_add_iff _).mp later with held | rfl
  · exact absurd held new
  · exact congrArg Hub.layers (t.hubs.get_add _)

theorem exists_layers_main_of_new (new : ¬ t.hubs.Holds h) (later : t.main.1.hubs.Holds h) :
    ∃ c?, (t.main.1.hub h).layers = [c?] := by
  cases slot : t.main? with
  | some m =>
    rw [main_of_some slot] at later
    exact absurd later new
  | none =>
    rw [main_of_none slot] at later ⊢
    exact ⟨none, layers_addHub_of_new new later⟩

/-- A hub that comes of asking for a current one has one layer. -/
theorem exists_layers_current_of_new {thread : Thread} (new : ¬ t.hubs.Holds h)
    (later : (t.current thread).1.hubs.Holds h) :
    ∃ c?, ((t.current thread).1.hub h).layers = [c?] := by
  cases slot : t.current? thread with
  | some k =>
    rw [current_of_some slot] at later
    exact absurd later new
  | none =>
    rw [current, slot] at later ⊢
    by_cases held : t.main.1.hubs.Holds h
    · -- the main hub was made as well, and is another one than the hub of the thread
      obtain ⟨c?, layers⟩ := exists_layers_main_of_new new held
      exact ⟨c?, (congrArg Hub.layers (hub_addHub _ held)).trans layers⟩
    · exact ⟨_, layers_addHub_of_new held later⟩

/-- A hub that comes of a start has one layer. -/
theorem exists_layers_start_of_new {thread : Thread} {s : Start} (rooted : t.Rooted)
    (new : ¬ t.hubs.Holds h) (later : (t.start thread s).1.hubs.Holds h) :
    ∃ c?, ((t.start thread s).1.hub h).layers = [c?] := by
  have made {c : Ref Client} {slot slot' : Option (Ref Hub)}
      (tops : t.Tops (t.start thread s).1 c slot slot') (here : slot' = some h)
      (held : ∀ k, slot = some k → t.hubs.Holds k) :
      ((t.start thread s).1.hub h).layers = [some c] := by
    cases tops with
    | kept => exact absurd (held h here) new
    | made _ _ hub_eq =>
      obtain rfl := Option.some.inj here
      rw [hub_eq, Hub.ofClient]
  cases started : (t.start thread s).2 with
  | error e =>
    rw [start_of_error started] at later
    exact absurd later new
  | ok c =>
    have done := installed_start rooted started
    rcases done.made h later with held | isMain | isCurrent
    · exact absurd held new
    · exact ⟨_, made done.main isMain rooted.main⟩
    · exact ⟨_, made done.current isCurrent (rooted.current thread)⟩

end Telemetry

theorem Telemetry.size_hubs_leave (t : Telemetry) (h : Ref Hub) (pushed : Nat) :
    (t.leave h pushed).hubs.size = t.hubs.size := by
  simp only [leave]
  split <;> rfl

/-- No step of a capture makes a hub. -/
theorem Phase.size_hubs_next (p : Phase) (k : Ref Hub) (x : Subject) (t : Telemetry) :
    (p.next k x t).1.hubs.size = t.hubs.size := by
  by_cases recording : ∃ id, p = .sent id
  · obtain ⟨id, rfl⟩ := recording
    simp only [next, Telemetry.record]
    split <;> rfl
  · rw [hubs_next fun id eq => recording ⟨id, eq⟩]

/-- A hub that a move makes has a single layer. -/
theorem System.exists_layers_after_of_new (rooted : s.state.Rooted) (new : ¬ s.state.hubs.Holds h)
    (later : (s.after move).state.hubs.Holds h) :
    ∃ c?, ((s.after move).state.hub h).layers = [c?] := by
  have unmade (same : (s.after move).state.hubs.size = s.state.hubs.size) :
      ∃ c?, ((s.after move).state.hub h).layers = [c?] := by
    rw [Registry.Holds, same] at later
    exact absurd later new
  cases move with
  | begin k x => exact unmade rfl
  | advance i =>
    apply unmade
    rw [after]
    split
    · exact Phase.size_hubs_next _ _ _ _
    · rfl
  | send c e => exact unmade (congrArg Registry.size (s.state.send_others c e).1)
  | clear r => exact unmade rfl
  | change o =>
    have away := o.hubs_apply s.state
    cases o with
    | start thread start => exact Telemetry.exists_layers_start_of_new rooted new later
    | main => exact Telemetry.exists_layers_main_of_new new later
    | current thread => exact Telemetry.exists_layers_current_of_new new later
    | addHub c? => exact ⟨c?, Telemetry.layers_addHub_of_new new later⟩
    | leave k pushed => exact unmade (s.state.size_hubs_leave k pushed)
    | bind | enter | setCurrent => exact unmade rfl
    | setOption | addEvent | addTransport | openFile | addClient | setHost =>
      exact unmade (congrArg Registry.size (away rfl).1)

/-! ## Systems -/

/-- **What is reached**: a system after any moves since nothing was done, with the blocks that are
open on each hub. A block ends only while it is open, and a thread is handed only hubs that are
there. -/
inductive System.Reached : System → (Ref Hub → List Nat) → Prop where
  | initial (host : Host) (sources : Sources) : Reached (.initial host sources) fun _ => []
  | enter {s : System} {opened : Ref Hub → List Nat} {h : Ref Hub} (past : Reached s opened)
      (held : s.state.hubs.Holds h) (c? : Option (Ref Client)) :
      Reached (s.after (.change (.enter h c?)))
        (Function.update opened h ((s.state.enter h c?).2 :: opened h))
  | leave {s : System} {opened : Ref Hub → List Nat} {h : Ref Hub} {pushed : Nat}
      (past : Reached s opened) (mine : pushed ∈ opened h) :
      Reached (s.after (.change (.leave h pushed)))
        (Function.update opened h ((opened h).erase pushed))
  | other {s : System} {opened : Ref Hub → List Nat} {move : Move} (past : Reached s opened)
      (apart : ∀ h, move.isOnLayers h = false) (grounded : move.Grounded s) :
      Reached (s.after move) opened

/-- Each hub that is there stands as its open blocks say, and no block is open on any other one. -/
structure System.Stands (s : System) (opened : Ref Hub → List Nat) : Prop where
  overlap : ∀ h, s.state.hubs.Holds h → ∃ bottom, Overlap h s (opened h) bottom
  closed : ∀ h, ¬ s.state.hubs.Holds h → opened h = []
  refers : ∀ h, s.state.Refers h → s.state.hubs.Holds h

namespace System

theorem Stands.rooted (stands : s.Stands opened) : s.state.Rooted := by
  constructor
  case main => exact fun h main => stands.refers h (.inl main)
  case current => exact fun thread h current => stands.refers h (.inr ⟨thread, current⟩)
  case layers =>
    intro h held
    obtain ⟨bottom, past⟩ := stands.overlap h held
    obtain ⟨above, layers, -⟩ := past.layers_eq
    simp [layers]

/-- What a hub was before goes on with a move that is no entry or exit of a block on it. -/
theorem exists_overlap_after {blocks : List Nat} (past : ∃ bottom, Overlap h s blocks bottom)
    (apart : move.isOnLayers h = false) : ∃ bottom, Overlap h (s.after move) blocks bottom := by
  obtain ⟨bottom, past⟩ := past
  cases binds : move.binding? s h with
  | none => exact ⟨_, past.other binds apart⟩
  | some c? => exact ⟨_, past.bind binds⟩

theorem stands_initial (host : Host) (sources : Sources) :
    (initial host sources).Stands fun _ => [] where
  overlap h held := absurd held (Nat.not_lt_zero _)
  closed _ _ := rfl
  refers h := by rintro (⟨⟨⟩⟩ | ⟨thread, ⟨⟩⟩)

/-- A move that begins or ends a block on a hub changes nothing about the blocks of other hubs. -/
theorem Stands.update (stands : s.Stands opened) (held : s.state.hubs.Holds h) {blocks : List Nat}
    (here : ∀ bottom, Overlap h s (opened h) bottom → Overlap h (s.after move) blocks bottom)
    (elsewhere : ∀ k, k ≠ h → move.isOnLayers k = false) (grounded : move.Grounded s)
    (unmade : (s.after move).state.hubs.size = s.state.hubs.size) :
    (s.after move).Stands (Function.update opened h blocks) := by
  have holds_iff (k : Ref Hub) : (s.after move).state.hubs.Holds k ↔ s.state.hubs.Holds k := by
    rw [Registry.Holds, unmade, Registry.Holds]
  constructor
  case overlap =>
    intro k there
    rw [holds_iff] at there
    obtain ⟨bottom, past⟩ := stands.overlap k there
    by_cases same : k = h
    · subst same
      rw [Function.update_self]
      exact ⟨bottom, here bottom past⟩
    · rw [Function.update_of_ne same]
      exact exists_overlap_after ⟨bottom, past⟩ (elsewhere k same)
  case closed =>
    intro k missing
    rw [holds_iff] at missing
    have other : k ≠ h := by
      rintro rfl
      exact missing held
    rw [Function.update_of_ne other]
    exact stands.closed k missing
  case refers => exact fun k => holds_of_refers_after stands.rooted grounded

/-- A block that begins is open, above those that are. -/
theorem Stands.enter (stands : s.Stands opened) (held : s.state.hubs.Holds h)
    (c? : Option (Ref Client)) :
    (s.after (.change (.enter h c?))).Stands
      (Function.update opened h ((s.state.enter h c?).2 :: opened h)) := by
  apply stands.update held
  case here => exact fun bottom past => past.enter c?
  case elsewhere => exact fun k other => decide_eq_false (Ne.symm other)
  case grounded => trivial
  case unmade => rfl

/-- A block that ends is not open any more. -/
theorem Stands.leave (stands : s.Stands opened) (mine : pushed ∈ opened h) :
    (s.after (.change (.leave h pushed))).Stands
      (Function.update opened h ((opened h).erase pushed)) := by
  have held : s.state.hubs.Holds h := by
    by_contra missing
    rw [stands.closed h missing] at mine
    cases mine
  apply stands.update held
  case here => exact fun bottom past => past.leave mine
  case elsewhere => exact fun k other => decide_eq_false (Ne.symm other)
  case grounded => trivial
  case unmade => exact s.state.size_hubs_leave h pushed

theorem Stands.other (stands : s.Stands opened) (apart : ∀ h, move.isOnLayers h = false)
    (grounded : move.Grounded s) : (s.after move).Stands opened := by
  constructor
  case overlap =>
    intro h later
    by_cases held : s.state.hubs.Holds h
    · exact exists_overlap_after (stands.overlap h held) (apart h)
    · -- the past of a hub that was made just now begins here
      obtain ⟨c?, layers⟩ := exists_layers_after_of_new stands.rooted held later
      rw [stands.closed h held]
      exact ⟨c?, .made later layers⟩
  case closed => exact fun h missing => stands.closed h fun held => missing (holds_after held move)
  case refers => exact fun h => holds_of_refers_after stands.rooted grounded

/-- **Whatever is done**, each hub stands as its open blocks say. -/
theorem Reached.stands (reached : s.Reached opened) : s.Stands opened := by
  induction reached with
  | initial host sources => exact stands_initial host sources
  | enter past held c? ih => exact ih.enter held c?
  | leave past mine ih => exact ih.leave mine
  | other past apart grounded ih => exact ih.other apart grounded

/-- No slot has a hub that is not there, and no hub is without a layer. -/
theorem Reached.rooted (reached : s.Reached opened) : s.state.Rooted := reached.stands.rooted

end System

end CauseTrail
