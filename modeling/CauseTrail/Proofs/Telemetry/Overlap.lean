import CauseTrail.Proofs.Telemetry.Block
import CauseTrail.Proofs.Telemetry.Ledger
import CauseTrail.Proofs.Telemetry.Starting

/-!
# Blocks that overlap

Where a hub is shared, its blocks need not end in the reverse order of their beginning. Whatever
block ends, the top layer goes, which may be that of another one. So no block can tell its layer, but
the count is right: there is one layer for each block that is open, and the one at the bottom, which
the hub was made with. Everything else that is done meanwhile, by captures or by starts, replaces the
top layer of the hub at most. Layers are changed under the lock of their hub, so each of these moves
is one step.

## Main definitions

* `Move.binding?`, `Move.isOnLayers`: what a move does to the layers of a hub
* `Overlap`: the moves since a hub was made, with the blocks that are open and the bottom client
* `Telemetry.Standing`: what is known of the layers of a hub

## Main results

* `Overlap.layers_eq`: a layer for each open block, and the bottom one
* `Overlap.standing`: so the top layer is there to be read, replaced and taken away
-/

namespace CauseTrail

/-! ## What a move does to a hub -/

/-- The client that a move binds to a hub, be it by a start. -/
def Move.binding? (s : System) (h : Ref Hub) : Move → Option (Option (Ref Client))
  | .change (.bind k c?) => if k = h then some c? else none
  | .change (.start thread start) =>
    if s.state.main? = some h ∨ s.state.current? thread = some h then
      (s.state.start thread start).2.toOption.map some
    else none
  | _ => none

/-- Whether a move puts a layer on a hub or takes one away. -/
def Move.isOnLayers (h : Ref Hub) : Move → Bool
  | .change (.enter k _) | .change (.leave k _) => k = h
  | _ => false

variable {s : System} {h : Ref Hub} {move : Move} {c? bottom : Option (Ref Client)}
  {opened : List Nat} {pushed : Nat}

/-- Hubs that are there stay there. -/
theorem Change.hubs_le (t : Telemetry) (o : Change) : t.hubs.size ≤ (o.apply t).hubs.size := by
  cases o with
  | start thread s => exact (Telemetry.tidy_start t thread s).size_le
  | main => exact (Telemetry.tidy_main t).size_le
  | current thread => exact (Telemetry.tidy_current t thread).size_le
  | openFile path keep => exact (Telemetry.tidy_openFile t path keep).size_le
  | setOption c name v => exact (Telemetry.tidy_setOption t c name v).size_le
  | addHub c? => exact Nat.le_succ _
  | leave h pushed =>
    simp only [apply, Telemetry.leave]
    split <;> exact Nat.le_refl _
  | _ => exact Nat.le_refl _

theorem System.holds_after (held : s.state.hubs.Holds h) (move : Move) :
    (s.after move).state.hubs.Holds h := by
  apply Nat.lt_of_lt_of_le held
  cases move with
  | begin k x => exact Nat.le_refl _
  | advance i =>
    rw [after]
    split
    · exact (Phase.extends_next _ _ _ _).hubs_le
    · exact Nat.le_refl _
  | send c e => exact (Telemetry.tidy_send _ c e).size_le
  | clear r => exact Nat.le_refl _
  | change o => exact o.hubs_le s.state

theorem Telemetry.hub_leave (t : Telemetry) (h k : Ref Hub) (pushed : Nat) :
    (t.leave h pushed).hub k = if k = h then (t.hub h).pop else t.hub k := by
  simp only [leave]
  split <;> rfl

/-- No step of a capture touches a layer. -/
theorem Phase.layers_next (p : Phase) (k : Ref Hub) (x : Subject) (t : Telemetry) (h : Ref Hub) :
    ((p.next k x t).1.hub h).layers = (t.hub h).layers := by
  by_cases recording : ∃ id, p = .sent id
  · obtain ⟨id, rfl⟩ := recording
    simp only [next, Telemetry.record]
    split
    · rfl
    · rw [Telemetry.hub_changeHub]
      split
      · next same => rw [same]
      · rfl
  · have same := hubs_next (h := k) (x := x) (t := t) fun id eq => recording ⟨id, eq⟩
    rw [Telemetry.hub, same]
    rfl

/-- A move that binds a client to a hub replaces its top layer. -/
theorem System.layers_after_of_binding (held : s.state.hubs.Holds h)
    (binds : move.binding? s h = some c?) :
    ((s.after move).state.hub h).layers = Hub.replaceTop c? (s.state.hub h).layers := by
  unfold Move.binding? at binds
  split at binds
  · next k d? =>
    split_ifs at binds with same
    cases binds
    subst same
    change ((s.state.bind k c?).hub k).layers = _
    rw [Telemetry.hub_bind, if_pos rfl]
    rfl
  · next thread start =>
    split_ifs at binds with here
    cases started : (s.state.start thread start).2 with
    | error e =>
      rw [started] at binds
      cases binds
    | ok c =>
      rw [started] at binds
      cases binds
      have after := Telemetry.hub_start held thread start
      simp only [started, if_pos here] at after
      change ((s.state.start thread start).1.hub h).layers = _
      rw [after]
      rfl
  · cases binds

/-- Any other move that is no entry or exit of a block leaves the layers as they are. -/
theorem System.layers_after_of_other (held : s.state.hubs.Holds h)
    (unbound : move.binding? s h = none) (apart : move.isOnLayers h = false) :
    ((s.after move).state.hub h).layers = (s.state.hub h).layers := by
  cases move with
  | begin k x => rfl
  | advance i =>
    rw [after]
    split
    · exact Phase.layers_next _ _ _ _ h
    · rfl
  | send c e =>
    have same := (s.state.send_others c e).1
    change ((s.state.send c e).1.hub h).layers = _
    rw [Telemetry.hub, same]
    rfl
  | clear r => rfl
  | change o =>
    change ((o.apply s.state).hub h).layers = _
    have away := o.hubs_apply s.state
    cases o with
    | bind k c? =>
      have other : h ≠ k := by
        rintro rfl
        simp [Move.binding?] at unbound
      rw [Change.apply, Telemetry.hub_bind, if_neg other]
    | enter k c? =>
      have other : h ≠ k := by
        rintro rfl
        simp [Move.isOnLayers] at apart
      rw [Change.apply, Telemetry.hub_enter, if_neg other]
    | leave k pushed =>
      have other : h ≠ k := by
        rintro rfl
        simp [Move.isOnLayers] at apart
      rw [Change.apply, Telemetry.hub_leave, if_neg other]
    | start thread start =>
      rw [Change.apply, Telemetry.hub_start held]
      split
      · rfl
      · next c started =>
        have elsewhere : ¬ (s.state.main? = some h ∨ s.state.current? thread = some h) := by
          intro here
          simp [Move.binding?, here, started, Except.toOption] at unbound
        rw [if_neg elsewhere]
    | main => rw [Change.apply, Telemetry.hub_main held]
    | current thread => rw [Change.apply, Telemetry.hub_current thread held]
    | addHub c? => rw [Change.apply, Telemetry.hub_addHub _ held]
    | setCurrent => rfl
    | setOption | addEvent | addTransport | openFile | addClient | setHost =>
      rw [Telemetry.hub, (away rfl).1]
      rfl

/-! ## Blocks in any order -/

/-- **Overlapping blocks**: any moves since a hub was made, each exit being that of a block that is
open. An open block is known by the depth that it was given when it began; the last layer holds the
client that the hub was made with or that was bound to it last while no block was open. -/
inductive Overlap (h : Ref Hub) : System → List Nat → Option (Ref Client) → Prop where
  | made {s : System} {c? : Option (Ref Client)} (held : s.state.hubs.Holds h)
      (layers : (s.state.hub h).layers = [c?]) : Overlap h s [] c?
  | enter {s : System} {opened : List Nat} {bottom : Option (Ref Client)}
      (past : Overlap h s opened bottom) (c? : Option (Ref Client)) :
      Overlap h (s.after (.change (.enter h c?))) ((s.state.enter h c?).2 :: opened) bottom
  | leave {s : System} {opened : List Nat} {bottom : Option (Ref Client)} {pushed : Nat}
      (past : Overlap h s opened bottom) (mine : pushed ∈ opened) :
      Overlap h (s.after (.change (.leave h pushed))) (opened.erase pushed) bottom
  | bind {s : System} {opened : List Nat} {bottom c? : Option (Ref Client)} {move : Move}
      (past : Overlap h s opened bottom) (binds : move.binding? s h = some c?) :
      Overlap h (s.after move) opened (if opened = [] then c? else bottom)
  | other {s : System} {opened : List Nat} {bottom : Option (Ref Client)} {move : Move}
      (past : Overlap h s opened bottom) (unbound : move.binding? s h = none)
      (apart : move.isOnLayers h = false) : Overlap h (s.after move) opened bottom

namespace Overlap

theorem holds (past : Overlap h s opened bottom) : s.state.hubs.Holds h := by
  induction past with
  | made held => exact held
  | enter _ c? ih | leave _ _ ih | bind _ _ ih | other _ _ _ ih => exact System.holds_after ih _

/-- **A layer for each block** that is open, and the bottom one below them. -/
theorem layers_eq (past : Overlap h s opened bottom) :
    ∃ above, (s.state.hub h).layers = above ++ [bottom] ∧ above.length = opened.length := by
  induction past with
  | made held layers => exact ⟨[], layers, rfl⟩
  | @enter s opened bottom past c? ih =>
    obtain ⟨above, layers, count⟩ := ih
    refine ⟨c? :: above, ?_, ?_⟩
    · change ((s.state.enter h c?).1.hub h).layers = _
      rw [Telemetry.layers_enter, layers, List.cons_append]
    · rw [List.length_cons, List.length_cons, count]
  | @leave s opened bottom pushed past mine ih =>
    obtain ⟨above, layers, count⟩ := ih
    -- some block is open, so that there is a layer above the bottom one to be taken away
    have some : 0 < opened.length := List.length_pos_of_mem mine
    obtain ⟨top, above, rfl⟩ := List.exists_cons_of_length_pos (count ▸ some)
    refine ⟨above, ?_, ?_⟩
    · change ((s.state.leave h pushed).hub h).layers = _
      rw [Telemetry.hub_leave, if_pos rfl, Hub.pop, layers]
      rfl
    · rw [List.length_erase_of_mem mine, ← count, List.length_cons, Nat.add_sub_cancel]
  | @bind s opened bottom c? move past binds ih =>
    obtain ⟨above, layers, count⟩ := ih
    have after := System.layers_after_of_binding past.holds binds
    rw [layers] at after
    cases above with
    | nil =>
      obtain rfl : opened = [] := List.eq_nil_of_length_eq_zero count.symm
      exact ⟨[], after, rfl⟩
    | cons top above =>
      have some : opened ≠ [] := by
        rintro rfl
        cases count
      rw [if_neg some]
      exact ⟨c? :: above, after, count⟩
  | other past unbound apart ih =>
    rwa [System.layers_after_of_other past.holds unbound apart]

end Overlap

/-- What is known of the layers of a hub with blocks that are open: how many there are, that the top
one can be read, replaced and taken away, and what the bottom one holds. -/
structure Telemetry.Standing (t : Telemetry) (h : Ref Hub) (opened : List Nat)
    (bottom : Option (Ref Client)) : Prop where
  depth : (t.hub h).depth = 1 + opened.length
  top : ∃ top below, (t.hub h).layers = top :: below ∧ (t.hub h).client? = top ∧
    ∀ c?, ((t.bind h c?).hub h).layers = c? :: below
  /-- What is taken away when a block ends is a layer above the bottom one. -/
  exit : ∀ pushed ∈ opened, ∃ top below, (t.hub h).layers = top :: below ∧ below ≠ [] ∧
    ((t.leave h pushed).hub h).layers = below
  last : (t.hub h).layers.getLast? = some bottom
  ended : opened = [] → (t.hub h).layers = [bottom]

namespace Overlap

/-- **The layers of a shared hub** stand as its open blocks say, in whatever order blocks end. -/
theorem standing (past : Overlap h s opened bottom) : s.state.Standing h opened bottom := by
  obtain ⟨above, layers, count⟩ := past.layers_eq
  constructor
  case depth =>
    rw [Hub.depth, layers, List.length_append, count, List.length_singleton, Nat.add_comm]
  case top =>
    have some : (s.state.hub h).layers ≠ [] := by simp [layers]
    obtain ⟨top, below, split⟩ := List.exists_cons_of_ne_nil some
    refine ⟨top, below, split, ?_, Telemetry.layers_bind split⟩
    rw [Hub.client?, split]
    rfl
  case exit =>
    intro pushed mine
    obtain ⟨top, above, rfl⟩ :=
      List.exists_cons_of_length_pos (count ▸ List.length_pos_of_mem mine)
    refine ⟨top, above ++ [bottom], layers, by simp, ?_⟩
    rw [Telemetry.hub_leave, if_pos rfl, Hub.pop, layers]
    rfl
  case last => rw [layers, List.getLast?_concat]
  case ended =>
    rintro rfl
    obtain rfl : above = [] := List.eq_nil_of_length_eq_zero count
    exact layers

/-- Two blocks on one hub, of which the first one ends first, with a client bound in between. -/
theorem standing_crossed :
    let s : System := ⟨Body.twoHubs, []⟩
    let both := (s.after (.change (.enter ⟨0⟩ none))).after (.change (.enter ⟨0⟩ (some ⟨0⟩)))
    let crossed := ((both.after (.change (.bind ⟨0⟩ none))).after (.change (.leave ⟨0⟩ 2))).after
      (.change (.leave ⟨0⟩ 3))
    Overlap ⟨0⟩ both [3, 2] (some ⟨0⟩) ∧ both.state.Standing ⟨0⟩ [3, 2] (some ⟨0⟩) ∧
      Overlap ⟨0⟩ crossed [] (some ⟨0⟩) ∧ crossed.state.Standing ⟨0⟩ [] (some ⟨0⟩) := by
  intro s both crossed
  have made : Overlap ⟨0⟩ s [] (some ⟨0⟩) := .made Nat.zero_lt_two rfl
  have opened : Overlap ⟨0⟩ both [3, 2] (some ⟨0⟩) := (made.enter none).enter (some ⟨0⟩)
  have bound : Overlap ⟨0⟩ (both.after (.change (.bind ⟨0⟩ none))) [3, 2] (some ⟨0⟩) :=
    opened.bind rfl
  have first : 2 ∈ [3, 2] := by simp
  have second : 3 ∈ [3] := by simp
  have ended : Overlap ⟨0⟩ crossed [] (some ⟨0⟩) := (bound.leave first).leave second
  exact ⟨opened, standing opened, ended, standing ended⟩

end Overlap

end CauseTrail
