import CauseTrail.Proofs.Telemetry.CaptureStep
import CauseTrail.Telemetry.Start

/-!
# What leaves the layers in place

Only entering and leaving a layer change how many layers a hub has. Whatever else is done through
hubs, clients and transports replaces the top layer at most: the layers below it stay, and no layer
that is taken away at a wrong depth is noted.

## Main definitions

* `SameBelow`: two stacks that differ in their top layers at most
* `Telemetry.Unwarned`: nothing about a wrong depth was noted
* `Telemetry.Tidy`: no layer was put or taken away

## Main results

* `Telemetry.tidy_bind`, `Telemetry.tidy_current`, `Telemetry.tidy_start`: operations on hubs
* `Telemetry.layers_bind`, `Telemetry.layers_start`: the top layer that a client is put on
* `Telemetry.tidy_send`, `Telemetry.tidy_captureWith`, `Telemetry.tidy_dispatch`: captures
-/

namespace CauseTrail

/-! ## Stacks -/

section Stacks

variable {α : Type} {a b c : List α}

/-- Two stacks of one height that differ in their tops at most. -/
structure SameBelow (a b : List α) : Prop where
  length_eq : b.length = a.length
  tail_eq : b.tail = a.tail

theorem SameBelow.refl (a : List α) : SameBelow a a := ⟨rfl, rfl⟩

theorem SameBelow.trans (ab : SameBelow a b) (bc : SameBelow b c) : SameBelow a c :=
  ⟨bc.length_eq.trans ab.length_eq, bc.tail_eq.trans ab.tail_eq⟩

/-- A stack that differs at the top at most from one with layers below has the same ones below. -/
theorem SameBelow.exists_cons {top : α} {below : List α} (s : SameBelow (top :: below) b) :
    ∃ top', b = top' :: below := by
  cases b with
  | nil => cases s.length_eq
  | cons top' rest => exact ⟨top', congrArg (top' :: ·) s.tail_eq⟩

theorem sameBelow_replaceTop (c? : Option (Ref Client)) (layers : List (Option (Ref Client))) :
    SameBelow layers (Hub.replaceTop c? layers) := by
  cases layers <;> exact ⟨rfl, rfl⟩

end Stacks

namespace Telemetry

variable {t t' t'' : Telemetry} {h k : Ref Hub} {c : Ref Client} {e : Ref Event}
  {c? : Option (Ref Client)}

/-! ## Tidiness -/

/-- The log has grown, but nothing about a wrong depth was noted. -/
def Unwarned (t t' : Telemetry) : Prop :=
  ∃ added, t'.log = t.log ++ added ∧ ∀ depth pushed, LogEntry.depthMismatch depth pushed ∉ added

theorem Unwarned.refl (t : Telemetry) : t.Unwarned t := ⟨[], by simp, by simp⟩

theorem Unwarned.trans (a : t.Unwarned t') (b : t'.Unwarned t'') : t.Unwarned t'' := by
  obtain ⟨first, log, none⟩ := a
  obtain ⟨more, log', none'⟩ := b
  refine ⟨first ++ more, by rw [log', log, List.append_assoc], fun depth pushed there => ?_⟩
  rcases List.mem_append.mp there with there | there
  · exact none depth pushed there
  · exact none' depth pushed there

/-- No layer was put on a hub that is there or taken from it, though its top one may be another
one now. -/
structure Tidy (t t' : Telemetry) : Prop where
  size_le : t.hubs.size ≤ t'.hubs.size
  sameBelow : ∀ h, t.hubs.Holds h → SameBelow (t.hub h).layers (t'.hub h).layers
  unwarned : t.Unwarned t'

theorem Tidy.refl (t : Telemetry) : t.Tidy t := ⟨Nat.le_refl _, fun _ _ => .refl _, .refl t⟩

theorem Tidy.holds (a : t.Tidy t') (held : t.hubs.Holds h) : t'.hubs.Holds h :=
  Nat.lt_of_lt_of_le held a.size_le

theorem Tidy.trans (a : t.Tidy t') (b : t'.Tidy t'') : t.Tidy t'' :=
  ⟨Nat.le_trans a.size_le b.size_le,
    fun h held => (a.sameBelow h held).trans (b.sameBelow h (a.holds held)),
    a.unwarned.trans b.unwarned⟩

/-- What leaves the hubs alone is tidy, if it notes nothing about a depth. -/
theorem Tidy.of_hubs_eq (hubs : t'.hubs = t.hubs) (unwarned : t.Unwarned t') : t.Tidy t' := by
  refine ⟨Nat.le_of_eq (by rw [hubs]), fun h _ => ?_, unwarned⟩
  rw [hub, hub, hubs]
  exact .refl _

theorem Tidy.of_hubs_log_eq (hubs : t'.hubs = t.hubs) (log : t'.log = t.log) : t.Tidy t' :=
  .of_hubs_eq hubs ⟨[], by simp [log], by simp⟩

theorem hub_changeHub (t : Telemetry) (h k : Ref Hub) (f : Hub → Hub) :
    (t.changeHub h f).hub k = if k = h then f (t.hub h) else t.hub k := rfl

/-- A change to a hub that leaves its layers below the top one is tidy. -/
theorem tidy_changeHub {f : Hub → Hub}
    (below : SameBelow (t.hub h).layers (f (t.hub h)).layers) : t.Tidy (t.changeHub h f) := by
  refine ⟨Nat.le_refl _, fun k _ => ?_, .refl t⟩
  rw [hub_changeHub]
  split
  · next same =>
    subst same
    exact below
  · exact .refl _

theorem tidy_note {entry : LogEntry} (other : ∀ depth pushed, entry ≠ .depthMismatch depth pushed) :
    t.Tidy (t.note entry) :=
  .of_hubs_eq rfl ⟨[entry], rfl, fun depth pushed there =>
    other depth pushed (List.mem_singleton.mp there).symm⟩

/-! ## Hubs -/

theorem tidy_bind (t : Telemetry) (h : Ref Hub) (c? : Option (Ref Client)) :
    t.Tidy (t.bind h c?) :=
  (tidy_changeHub (sameBelow_replaceTop c? _)).trans (tidy_note (by simp))

theorem hub_bind (t : Telemetry) (h k : Ref Hub) (c? : Option (Ref Client)) :
    (t.bind h c?).hub k = if k = h then (t.hub h).bind c? else t.hub k := rfl

/-- Binding replaces the top layer. -/
theorem layers_bind {top : Option (Ref Client)} {below : List (Option (Ref Client))}
    (layers : (t.hub h).layers = top :: below) (c? : Option (Ref Client)) :
    ((t.bind h c?).hub h).layers = c? :: below := by
  rw [hub_bind, if_pos rfl, Hub.bind, layers, Hub.replaceTop]

theorem hub_addHub (hub : Hub) (held : t.hubs.Holds h) : (t.addHub hub).1.hub h = t.hub h :=
  Registry.get_add_of_holds _ _ held

theorem tidy_addHub (t : Telemetry) (hub : Hub) : t.Tidy (t.addHub hub).1 := by
  refine ⟨Nat.le_succ _, fun k held => ?_, .refl t⟩
  rw [hub_addHub hub held]
  exact .refl _

theorem hub_main (held : t.hubs.Holds h) : t.main.1.hub h = t.hub h := by
  rw [main]
  split
  · rfl
  · exact hub_addHub _ held

theorem current?_main (t : Telemetry) : t.main.1.current? = t.current? := by
  rw [main]
  split <;> rfl

theorem tidy_main (t : Telemetry) : t.Tidy t.main.1 := by
  rw [main]
  split
  · exact .refl t
  · exact (tidy_addHub t _).trans (.of_hubs_log_eq rfl rfl)

theorem tidy_setCurrent (t : Telemetry) (thread : Thread) (h? : Option (Ref Hub)) :
    t.Tidy (t.setCurrent thread h?) :=
  .of_hubs_log_eq rfl rfl

theorem tidy_current (t : Telemetry) (thread : Thread) : t.Tidy (t.current thread).1 := by
  rw [current]
  split
  · exact .refl t
  · exact (tidy_main t).trans ((tidy_addHub _ _).trans (tidy_setCurrent _ _ _))

theorem hub_current (thread : Thread) (held : t.hubs.Holds h) :
    (t.current thread).1.hub h = t.hub h := by
  rw [current]
  split
  · rfl
  · exact (hub_addHub _ ((tidy_main t).holds held)).trans (hub_main held)

theorem tidy_hubOrCurrent (t : Telemetry) (thread : Thread) (h? : Option (Ref Hub)) :
    t.Tidy (t.hubOrCurrent thread h?).1 := by
  cases h? with
  | none => exact tidy_current t thread
  | some h => exact .refl t

/-! ## Starting -/

/-- Loading warns of no depth. -/
theorem not_mem_loadLog (l : Loader) (host : Host) (file? directory? : Option Path)
    (depth pushed : Nat) :
    LogEntry.depthMismatch depth pushed ∉ l.loadLog host file? directory? := by
  rw [Loader.loadLog]
  split
  · simp
  · simp [Loader.environmentLog]
  · split <;> simp [Loader.environmentLog]

theorem tidy_install (t : Telemetry) (thread : Thread) (c : Ref Client) :
    t.Tidy (t.install thread c) :=
  (tidy_main t).trans ((tidy_bind _ _ _).trans ((tidy_current _ thread).trans (tidy_bind _ _ _)))

/-- The hubs that a client is installed on have it on top. -/
theorem layers_install {thread : Thread} {top : Option (Ref Client)}
    {below : List (Option (Ref Client))} (held : t.hubs.Holds h)
    (layers : (t.hub h).layers = top :: below)
    (here : t.main? = some h ∨ t.current? thread = some h) (c : Ref Client) :
    ((t.install thread c).hub h).layers = some c :: below := by
  have bound : t.Tidy (t.main.1.bind t.main.2 (some c)) := (tidy_main t).trans (tidy_bind _ _ _)
  rcases here with isMain | isCurrent
  · -- the first binding is on the main hub, and the second one is on it again or leaves it alone
    have found : t.main = (t, h) := by rw [main, isMain]
    simp only [found] at bound
    have first := layers_bind layers (some c)
    rw [← hub_current thread (bound.holds held)] at first
    simp only [install, found]
    rw [hub_bind]
    split
    · next same => rw [← same, Hub.bind, first, Hub.replaceTop]
    · exact first
  · -- the second binding is on the current hub, whose layers below the top one are still there
    obtain ⟨top', kept⟩ := (layers ▸ bound.sameBelow h held).exists_cons
    have found : (t.main.1.bind t.main.2 (some c)).current thread =
        (t.main.1.bind t.main.2 (some c), h) := by
      have slot : (t.main.1.bind t.main.2 (some c)).current? thread = some h :=
        (congrFun (current?_main t) thread).trans isCurrent
      rw [current, slot]
    rw [install, found]
    exact layers_bind kept _

theorem tidy_addClientOver (t : Telemetry) (o : Options) (r : Transport) :
    t.Tidy (t.addClientOver o r).1 :=
  .of_hubs_log_eq rfl rfl

theorem tidy_start (t : Telemetry) (thread : Thread) (s : Start) :
    t.Tidy (t.start thread s).1 := by
  have logged : t.Tidy { t with log := t.log ++ s.log t.host } := by
    refine .of_hubs_eq rfl ⟨_, rfl, fun depth pushed there => ?_⟩
    rw [Start.log] at there
    split at there
    · cases there
    · exact not_mem_loadLog _ _ _ _ _ _ there
  rw [start]
  dsimp only
  split
  · exact logged
  · next o r _ =>
    exact (logged.trans (tidy_addClientOver _ o r)).trans (tidy_install _ thread _)

/-- The client that a start made is on top of the main hub and of the current hub of its thread. -/
theorem layers_start {thread : Thread} {s : Start} {c : Ref Client} {top : Option (Ref Client)}
    {below : List (Option (Ref Client))} (held : t.hubs.Holds h)
    (layers : (t.hub h).layers = top :: below)
    (here : t.main? = some h ∨ t.current? thread = some h)
    (started : (t.start thread s).2 = .ok c) :
    ((t.start thread s).1.hub h).layers = some c :: below := by
  rw [start] at started ⊢
  dsimp only at started ⊢
  split at started
  · cases started
  · next o r parts =>
    obtain rfl := Except.ok.inj started
    exact layers_install (t := ({ t with log := t.log ++ s.log t.host }.addClientOver o r).1)
      held layers here _

/-! ## Captures -/

theorem tidy_stamp (t : Telemetry) (e : Ref Event) : t.Tidy (t.stamp e) := by
  rw [stamp_eq]
  exact .of_hubs_log_eq rfl rfl

theorem tidy_deliver (t : Telemetry) (r : Ref Transport) (e : Ref Event) :
    t.Tidy (t.deliver r e).1 := by
  rw [deliver]
  cases t.transport r with
  | null | failing => exact .refl t
  | memory events => exact .of_hubs_log_eq rfl rfl
  | console =>
    dsimp only
    split
    · exact .refl t
    · exact .of_hubs_log_eq rfl rfl
  | jsonl path =>
    dsimp only
    split
    · exact .refl t
    · split
      · exact .refl t
      · -- that an event was written is noted, which is not about a depth
        next files _ =>
        have written : t.Tidy { t with host := { t.host with files := files } } :=
          .of_hubs_log_eq rfl rfl
        exact written.trans (tidy_note (by simp))

theorem tidy_noteSending (t : Telemetry) (o : Options) (e : Ref Event) :
    t.Tidy (t.noteSending o e) := by
  rw [noteSending]
  split
  · exact tidy_note (by simp)
  · exact .refl t

theorem tidy_send (t : Telemetry) (c : Ref Client) (e : Ref Event) : t.Tidy (t.send c e).1 := by
  have filled (f : Event → Event) : t.Tidy (t.changeEvent e f) := .of_hubs_log_eq rfl rfl
  rw [send]
  dsimp only
  split
  · have handed := ((filled (·.filled (t.client c).options)).trans
      (tidy_noteSending _ (t.client c).options e)).trans (tidy_deliver _ (t.client c).transport e)
    split <;> next eq =>
      rw [eq] at handed
      exact handed
  · exact .refl t

theorem tidy_record (t : Telemetry) (h : Ref Hub) (id : Uuid) : t.Tidy (t.record h id) := by
  rw [record]
  split
  · exact .refl t
  · exact tidy_changeHub (.refl _)

theorem tidy_captureWith (t : Telemetry) (h : Ref Hub) (c : Ref Client) (e : Ref Event) :
    t.Tidy (t.captureWith h c e).1 := by
  have sent := (tidy_stamp t e).trans (tidy_send (t.stamp e) c e)
  rw [captureWith]
  split
  · next s id eq =>
    rw [eq] at sent
    exact sent.trans (tidy_record s h id)
  · next eq =>
    rw [eq] at sent
    exact sent

theorem tidy_captureEvent (t : Telemetry) (h : Ref Hub) (e : Ref Event) :
    t.Tidy (t.captureEvent h e).1 := by
  rw [captureEvent]
  split
  · exact .refl t
  · exact tidy_captureWith t h _ e

theorem tidy_captureFault (t : Telemetry) (h : Ref Hub) (f : Fault) :
    t.Tidy (t.captureFault h f).1 := by
  rw [captureFault]
  split
  · exact .refl t
  · next c _ =>
    rw [captureFaultWith]
    split
    · exact .refl t
    · next ev _ =>
      have added : t.Tidy (t.addEvent ev).1 := .of_hubs_log_eq rfl rfl
      exact added.trans (tidy_captureWith _ h c _)

theorem tidy_dispatch (t : Telemetry) (h : Ref Hub) (f : Fault) :
    t.Tidy (t.dispatch (.ofHub h) f).1 := by
  simp only [dispatch, ProcessingContext.ofHub]
  cases t.isActive h with
  | false => exact .refl t
  | true =>
    dsimp only
    split
    · exact .refl t
    · next ev _ =>
      have added : t.Tidy (t.addEvent ev).1 := .of_hubs_log_eq rfl rfl
      exact added.trans (tidy_captureEvent _ h _)

end Telemetry

end CauseTrail
