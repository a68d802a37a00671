import CauseTrail.Proofs.Telemetry.Ledger

/-!
# What a capture does in a run

A capture decides once which client it sends through: as it looks up the active one. Whatever is
bound, put on top or disabled afterwards, it sends at most one event, to the transport of that
client, built as the options of that client say; and what it returns tells whether the event was
delivered.

## Main definitions

* `Moment.Delivers`: a transport takes what it is handed
* `Call.Told`: what a run tells of one of its captures
* `Run.Told`: what it tells of all of them, and of what hubs recorded

## Main results

* `Course.of_ended_ok`: how a capture comes to return an identifier
* `Run.delivered`, `Run.nil_iff`: what an identifier tells, and what nil tells
* `Run.told_call`, `Run.told`: each capture does what it decided as it looked up its client
-/

namespace CauseTrail

/-- A transport takes what it is handed at a moment. -/
structure Moment.Delivers (m : Moment) (d : Sending) : Prop where
  sends : m.sending? = some d
  taken : ∃ id, (m.before.state.send d.client d.event).2 = .ok id

variable {host : Host} {sources : Sources} {past steps : List Moment} {s : System} {i : Nat}
  {call : Call} {m : Moment} {h k : Ref Hub} {x y : Subject} {p : Phase} {c : Ref Client}
  {e : Ref Event} {d : Sending}

/-! ## Sending for a capture -/

/-- What is sent for a capture is sent as it takes the step from an event that was stamped. -/
theorem Moment.takes_of_sending? (sends : m.sending? = some d) (by_ : d.call? = some i) :
    ∃ h x, m.Takes i h x (.stamped d.client d.event) := by
  rcases Moment.request?_eq_some_iff.mp (Moment.sending?_eq_some_iff.mp sends).1 with
    ⟨-, direct⟩ | ⟨j, h, x, same, takes⟩
  · rw [direct] at by_
    cases by_
  · rw [same] at by_
    obtain rfl := Option.some.inj by_
    exact ⟨h, x, takes⟩

theorem length_le_one_of_pairwise {α : Type} {R : α → α → Prop} {l : List α} (pairs : l.Pairwise R)
    (none : ∀ a ∈ l, ∀ b ∈ l, ¬ R a b) : l.length ≤ 1 := by
  match l with
  | [] => exact Nat.zero_le _
  | [_] => exact Nat.le_refl _
  | a :: b :: rest =>
    have first := List.rel_of_pairwise_cons pairs List.mem_cons_self
    exact absurd first (none a List.mem_cons_self b (List.mem_cons_of_mem _ List.mem_cons_self))

/-- No capture sends twice. -/
theorem Run.sendings_le_one (run : Run host sources past s) (i : Nat) :
    ((past.filterMap Moment.sending?).filter (·.call? = some i)).length ≤ 1 := by
  have pairs : (past.filterMap Moment.sending?).Pairwise
      fun d d' => ¬ (d.call? = some i ∧ d'.call? = some i) := by
    rw [List.pairwise_filterMap]
    -- both would be steps from the phase of the stamped event, of which there is one
    refine run.pairwise_rank_lt.imp fun order d sends d' sends' ⟨by_, by_'⟩ => ?_
    obtain ⟨h, x, takes⟩ := Moment.takes_of_sending? sends by_
    obtain ⟨k, y, takes'⟩ := Moment.takes_of_sending? sends' by_'
    exact Nat.lt_irrefl 3 (order i _ _ _ _ _ _ takes takes')
  refine length_le_one_of_pairwise (pairs.filter _) fun d there d' there' apart => apart ?_
  exact ⟨of_decide_eq_true (List.mem_filter.mp there).2,
    of_decide_eq_true (List.mem_filter.mp there').2⟩

/-! ## How a capture ends -/

/-- A capture that returns an identifier found no active client and returns nil, or it has taken all
of its steps and returns what the client answered. -/
theorem Course.of_ended_ok {id : Uuid} (course : Course i h x steps (.ended (.ok id))) :
    (∃ m, steps = [m] ∧ m.Takes i h x .begun ∧ m.before.state.activeClient? h = none ∧
      id = .nil) ∨
    ∃ m₁ m₂ m₃ m₄ m₅ c e ev, steps = [m₁, m₂, m₃, m₄, m₅] ∧ m₁.Looks i h x c ∧
      m₂.Builds i h x c e ev ∧ m₃.Takes i h x (.built c e) ∧ m₄.Takes i h x (.stamped c e) ∧
      (m₄.before.state.send c e).2 = .ok id ∧ m₅.Takes i h x (.sent id) := by
  obtain ⟨-, wrong⟩ | ⟨before, m₅, q, rfl, course, going, takes₅, same⟩ := course.cases_eq
  · cases wrong
  rcases (Phase.next_eq_ended going).mp same with ⟨rfl, inactive, nil⟩ | ⟨_, _, -, -, wrong⟩ |
    ⟨_, _, _, -, -, wrong⟩ | ⟨id', rfl, answer⟩
  · obtain rfl := course.of_begun
    exact .inl ⟨m₅, rfl, takes₅, inactive, Except.ok.inj nil⟩
  · cases wrong
  · cases wrong
  · obtain rfl := Except.ok.inj answer
    obtain ⟨-, wrong⟩ | ⟨before, m₄, q, rfl, course, -, takes₄, same⟩ := course.cases_eq
    · cases wrong
    obtain ⟨c, e, rfl, sent⟩ := Phase.next_eq_sent.mp same
    obtain ⟨m₁, m₂, m₃, ev, rfl, looks, builds, takes₃⟩ := course.of_stamped
    exact .inr ⟨m₁, m₂, m₃, m₄, m₅, c, e, ev, rfl, looks, builds, takes₃, takes₄, sent, takes₅⟩

/-- A capture that cannot build an event fails by the options of the client that it found. -/
theorem Course.of_ended_fault {f : FaultError}
    (course : Course i h x steps (.ended (.error (.fault f)))) :
    ∃ m₁ m₂ c, steps = [m₁, m₂] ∧ m₁.Looks i h x c ∧ m₂.Takes i h x (.found c) ∧
      x.built m₂.before.state c = .error f := by
  obtain ⟨-, wrong⟩ | ⟨before, m₂, q, rfl, course, going, takes₂, same⟩ := course.cases_eq
  · cases wrong
  rcases (Phase.next_eq_ended going).mp same with ⟨-, -, wrong⟩ | ⟨c, _, rfl, failed, answer⟩ |
    ⟨_, _, _, -, -, wrong⟩ | ⟨_, -, wrong⟩
  · cases wrong
  · obtain ⟨⟩ := answer
    obtain ⟨m₁, rfl, looks⟩ := course.of_found
    exact ⟨m₁, m₂, c, rfl, looks, takes₂, failed⟩
  · cases wrong
  · cases wrong

/-! ## The law -/

/-- What a run tells of one of its captures. -/
structure Call.Told (past : List Moment) (s : System) (i : Nat) (call : Call) : Prop where
  /-- It sends once at most. -/
  sendings_le_one : ((past.filterMap Moment.sending?).filter (·.call? = some i)).length ≤ 1
  /-- It sends through the client that was active as it looked, to the transport of that client. -/
  sends : ∀ m ∈ past, ∀ d, m.sending? = some d → d.call? = some i → ∃ m₁,
    List.Sublist [m₁, m] past ∧ m₁.Looks i call.hub call.subject d.client ∧
      (m.before.state.client d.client).transport = (m₁.before.state.client d.client).transport
  /-- What it sends for a fault tells the causes as the options of that client say. -/
  builds : ∀ f, call.subject = .fault f → ∀ m ∈ past, ∀ d, m.sending? = some d →
    d.call? = some i → ∃ m₁ m₂ ev, List.Sublist [m₁, m₂, m] past ∧
      m₁.Looks i call.hub call.subject d.client ∧
      m₂.Builds i call.hub call.subject d.client d.event ev ∧
      Event.ofFaultDefault (m₂.before.state.client d.client).options.followContext f = .ok ev ∧
      (m.before.state.event d.event).records = ev.records
  /-- And so does the failure to build an event. -/
  unbuilt : ∀ error, call.phase = .ended (.error (.fault error)) → ∃ f m₁ m₂ c,
    call.subject = .fault f ∧ List.Sublist [m₁, m₂] past ∧ m₁.Looks i call.hub call.subject c ∧
      Event.ofFaultDefault (m₂.before.state.client c).options.followContext f = .error error
  /-- It returns another identifier than nil just when its event was delivered, -/
  returns : ∀ id, call.phase = .ended (.ok id) →
    (id ≠ .nil ↔ ∃ m ∈ past, ∃ d, m.Delivers d ∧ d.call? = some i)
  /-- and then it is that of the event, which the transport of its client has received. -/
  delivers : ∀ id, call.phase = .ended (.ok id) → ∀ m ∈ past, ∀ d, m.Delivers d →
    d.call? = some i → (m.before.state.event d.event).id = id ∧ (s.state.event d.event).id = id ∧
      m.before.state.Received m.after.state (m.before.state.client d.client).transport d.event
  /-- It returns nil just when there was no active client as it looked, or the client was found to
  be disabled as it was to send. -/
  returns_nil : ∀ id, call.phase = .ended (.ok id) → (id = .nil ↔
    (∃ m ∈ past, m.Takes i call.hub call.subject .begun ∧
      m.before.state.activeClient? call.hub = none) ∨
    ∃ m₁ m c e, List.Sublist [m₁, m] past ∧ m₁.Looks i call.hub call.subject c ∧
      m.Takes i call.hub call.subject (.stamped c e) ∧
      (m.before.state.client c).options.enabled = false)

/-- What a run tells of its captures, and of the identifiers that hubs recorded. -/
structure Run.Told (past : List Moment) (s : System) : Prop where
  calls : ∀ i (call : Call), s.calls[i]? = some call → call.Told past s i
  /-- What a hub has recorded is the identifier of an event that a capture through it delivered. -/
  last : ∀ h id, (s.state.hub h).last? = some id → id ≠ .nil ∧
    ∃ (i : Nat) (call : Call) (m : Moment) (d : Sending), s.calls[i]? = some call ∧ call.hub = h ∧
      m ∈ past ∧ m.Delivers d ∧ d.call? = some i ∧ (m.before.state.event d.event).id = id
  /-- A hub that has recorded an identifier has one recorded ever after. -/
  lasting : ∀ m ∈ past, ∀ h, (m.before.state.hub h).last? ≠ none → (s.state.hub h).last? ≠ none

/-- What was ready as a capture came to send. -/
theorem Run.exists_ready (run : Run host sources past s) (there : m ∈ past)
    (takes : m.Takes i h x (.stamped c e)) :
    ∃ before m₁ m₂ m₃ ev, List.Sublist [m₁, m₂, m₃, m] past ∧ Run host sources before m.before ∧
      Run.Ready before m.before i h x c e m₁ m₂ m₃ ev := by
  obtain ⟨before, later, rfl, first, -⟩ := run.split there
  obtain ⟨m₁, m₂, m₃, ev, ready⟩ := first.ready takes.call_eq
  have steps : List.Sublist [m₁, m₂, m₃] before := ready.steps ▸ List.filter_sublist
  exact ⟨before, m₁, m₂, m₃, ev, steps.append (List.singleton_sublist.mpr List.mem_cons_self),
    first, ready⟩

/-- An enabled client that answers a capture has delivered the event, and answers with the
identifier of the event, which is not nil. -/
theorem Run.delivers_of_takes (run : Run host sources past s) (fresh : ∀ n, sources.id n ≠ .nil)
    (there : m ∈ past) (takes : m.Takes i h x (.stamped c e)) {id : Uuid}
    (sent : (m.before.state.send c e).2 = .ok id)
    (enabled : (m.before.state.client c).options.enabled = true) :
    m.Delivers ⟨some i, c, e⟩ ∧ id ≠ .nil ∧ (m.before.state.event e).id = id ∧
      (s.state.event e).id = id ∧
      m.before.state.Received m.after.state (m.before.state.client c).transport e := by
  obtain ⟨before, m₁, m₂, m₃, ev, -, first, ready⟩ := run.exists_ready there takes
  have done : m.before.state.send c e = (m.after.state, .ok id) := by
    rw [takes.after_eq, Phase.next_stamped_fst, ← sent]
  obtain ⟨rfl, received, -⟩ := Telemetry.send_ok enabled done
  have given := ready.id_ne_nil (first.sources_eq ▸ fresh)
  have later : m.before.state.Extends s.state := by
    refine Telemetry.Extends.trans ?_ (run.extends there)
    rw [takes.after_eq]
    exact Phase.extends_next _ _ _ _
  have sends : m.sending? = some ⟨some i, c, e⟩ :=
    Moment.sending?_eq_some_iff.mpr ⟨takes.request?_eq, enabled⟩
  exact ⟨⟨sends, _, sent⟩, given, rfl, (later.events.held e ready.event).id_eq given, received⟩

/-- A capture that returned an identifier looked for a client in vain, and never came to send; or
it came to send through the client that it found. -/
theorem Run.answer (run : Run host sources past s) (there : s.calls[i]? = some call) {id : Uuid}
    (ended : call.phase = .ended (.ok id)) :
    (id = .nil ∧ (∃ m ∈ past, m.Takes i call.hub call.subject .begun ∧
      m.before.state.activeClient? call.hub = none) ∧
      ∀ m ∈ past, ∀ k y c e, ¬ m.Takes i k y (.stamped c e)) ∨
    ∃ m₁ m c e, List.Sublist [m₁, m] past ∧ m₁.Looks i call.hub call.subject c ∧
      m.Takes i call.hub call.subject (.stamped c e) ∧ (m.before.state.send c e).2 = .ok id := by
  have course := run.course there
  rw [ended] at course
  have within : List.Sublist (stepsOf i past) past := List.filter_sublist
  rcases course.of_ended_ok with ⟨m₁, steps, takes, inactive, nil⟩ |
    ⟨m₁, m₂, m₃, m₄, m₅, c, e, ev, steps, looks, builds, takes₃, takes₄, sent, takes₅⟩
  · refine .inl ⟨nil, ⟨m₁, within.subset (by simp [steps]), takes, inactive⟩, ?_⟩
    intro m old k y c e takes'
    have mem := takes'.mem_stepsOf old
    obtain rfl : m = m₁ := by simpa [steps] using mem
    cases (takes.unique takes').2.2
  · have some : List.Sublist [m₁, m₄] [m₁, m₂, m₃, m₄, m₅] :=
      .cons_cons _ (.cons _ (.cons _ (.cons_cons _ (List.nil_sublist _))))
    exact .inr ⟨m₁, m₄, c, e, some.trans (steps ▸ within), looks, takes₄, sent⟩

/-- What was delivered for a capture that returned an identifier is the event of that identifier. -/
theorem Run.delivered (run : Run host sources past s) (fresh : ∀ n, sources.id n ≠ .nil)
    (there : s.calls[i]? = some call) {id : Uuid} (ended : call.phase = .ended (.ok id))
    (old : m ∈ past) (delivers : m.Delivers d) (by_ : d.call? = some i) :
    id ≠ .nil ∧ (m.before.state.event d.event).id = id ∧ (s.state.event d.event).id = id ∧
      m.before.state.Received m.after.state (m.before.state.client d.client).transport d.event := by
  obtain ⟨k, y, takes'⟩ := Moment.takes_of_sending? delivers.sends by_
  rcases run.answer there ended with ⟨-, -, never⟩ | ⟨m₁, m', c, e, all, -, takes, sent⟩
  · exact absurd takes' (never m old k y _ _)
  · obtain rfl := run.eq_of_takes old (all.subset (by simp)) takes' takes rfl
    obtain ⟨-, -, same⟩ := takes'.unique takes
    obtain ⟨rfl, rfl⟩ := Phase.stamped.inj same
    have enabled := (Moment.sending?_eq_some_iff.mp delivers.sends).2
    exact (run.delivers_of_takes fresh old takes sent enabled).2

/-- A capture returns nil just when its client was missing as it looked, or disabled as it was to
send. -/
theorem Run.nil_iff (run : Run host sources past s) (fresh : ∀ n, sources.id n ≠ .nil)
    (there : s.calls[i]? = some call) {id : Uuid} (ended : call.phase = .ended (.ok id)) :
    id = .nil ↔
      (∃ m ∈ past, m.Takes i call.hub call.subject .begun ∧
        m.before.state.activeClient? call.hub = none) ∨
      ∃ m₁ m c e, List.Sublist [m₁, m] past ∧ m₁.Looks i call.hub call.subject c ∧
        m.Takes i call.hub call.subject (.stamped c e) ∧
        (m.before.state.client c).options.enabled = false := by
  rcases run.answer there ended with ⟨nil, missing, -⟩ | ⟨m₁, m, c, e, all, looks, takes, sent⟩
  · exact iff_of_true nil (.inl missing)
  · have old₁ : m₁ ∈ past := all.subset (by simp)
    have old : m ∈ past := all.subset (by simp)
    constructor
    · intro nil
      refine .inr ⟨m₁, m, c, e, all, looks, takes, Bool.eq_false_iff.mpr fun enabled => ?_⟩
      exact (run.delivers_of_takes fresh old takes sent enabled).2.1 nil
    · -- the steps that are spoken of are the ones it took, since it takes each once
      rintro (⟨m', old', takes', inactive⟩ | ⟨m₁', m', c', e', all', -, takes', disabled⟩)
      · obtain rfl := run.eq_of_takes old' old₁ takes' looks.takes rfl
        rw [looks.active] at inactive
        cases inactive
      · obtain rfl := run.eq_of_takes (all'.subset (by simp)) old takes' takes rfl
        obtain ⟨rfl, rfl⟩ := Phase.stamped.inj (takes'.unique takes).2.2
        rw [Telemetry.send_disabled _ disabled] at sent
        exact (Except.ok.inj sent).symm

/-- A capture that cannot build an event is one of a fault. -/
theorem Run.unbuilt (run : Run host sources past s) (there : s.calls[i]? = some call)
    {error : FaultError} (ended : call.phase = .ended (.error (.fault error))) :
    ∃ f m₁ m₂ c, call.subject = .fault f ∧ List.Sublist [m₁, m₂] past ∧
      m₁.Looks i call.hub call.subject c ∧
      Event.ofFaultDefault (m₂.before.state.client c).options.followContext f = .error error := by
  have course := run.course there
  rw [ended] at course
  obtain ⟨m₁, m₂, c, steps, looks, -, failed⟩ := course.of_ended_fault
  cases subject : call.subject with
  | event e =>
    rw [subject] at failed
    cases failed
  | fault f =>
    rw [subject] at failed looks
    exact ⟨f, m₁, m₂, c, rfl, steps ▸ List.filter_sublist, looks, failed⟩

/-- **What a capture does**: all that it sends and returns was decided as it looked for a client. -/
theorem Run.told_call (run : Run host sources past s) (fresh : ∀ n, sources.id n ≠ .nil)
    (there : s.calls[i]? = some call) : call.Told past s i := by
  have ready (m : Moment) (old : m ∈ past) (d : Sending) (sends : m.sending? = some d)
      (by_ : d.call? = some i) : ∃ before m₁ m₂ m₃ ev, List.Sublist [m₁, m₂, m₃, m] past ∧
        Run.Ready before m.before i call.hub call.subject d.client d.event m₁ m₂ m₃ ev := by
    obtain ⟨h, x, takes⟩ := Moment.takes_of_sending? sends by_
    obtain ⟨rfl, rfl, -⟩ := run.rank_lt there old takes
    obtain ⟨before, m₁, m₂, m₃, ev, all, -, ready⟩ := run.exists_ready old takes
    exact ⟨before, m₁, m₂, m₃, ev, all, ready⟩
  constructor
  case sendings_le_one => exact run.sendings_le_one i
  case sends =>
    intro m old d sends by_
    obtain ⟨before, m₁, m₂, m₃, ev, all, ready⟩ := ready m old d sends by_
    have some : List.Sublist [m₁, m] [m₁, m₂, m₃, m] := .cons_cons _ (.cons _ (.cons _ (.refl _)))
    exact ⟨m₁, some.trans all, ready.looks, ready.transport_eq⟩
  case builds =>
    intro f same m old d sends by_
    obtain ⟨before, m₁, m₂, m₃, ev, all, ready⟩ := ready m old d sends by_
    have some : List.Sublist [m₁, m₂, m] [m₁, m₂, m₃, m] :=
      .cons_cons _ (.cons_cons _ (.cons _ (.refl _)))
    have built := ready.builds.built
    rw [same] at built
    exact ⟨m₁, m₂, ev, some.trans all, ready.looks, ready.builds, built, ready.records_eq⟩
  case unbuilt =>
    intro error ended
    exact run.unbuilt there ended
  case returns =>
    intro id ended
    constructor
    · intro given
      rcases run.answer there ended with ⟨nil, -, -⟩ | ⟨m₁, m, c, e, all, -, takes, sent⟩
      · exact absurd nil given
      · have old : m ∈ past := all.subset (by simp)
        have enabled := Telemetry.enabled_of_send sent given
        exact ⟨m, old, _, (run.delivers_of_takes fresh old takes sent enabled).1, rfl⟩
    · rintro ⟨m, old, d, delivers, by_⟩
      exact (run.delivered fresh there ended old delivers by_).1
  case delivers =>
    intro id ended m old d delivers by_
    exact (run.delivered fresh there ended old delivers by_).2
  case returns_nil =>
    intro id ended
    exact run.nil_iff fresh there ended

/-! ## What hubs recorded -/

/-- An identifier that is returned is that of the capture that ended at the moment. -/
theorem Moment.takes_of_returned {id : Uuid} (sound : m.move.Sound m.before)
    (returned : m.returned h = some id) : id ≠ .nil ∧ ∃ i x, m.Takes i h x (.sent id) := by
  obtain ⟨before, move⟩ := m
  cases move with
  | advance i =>
    obtain ⟨⟨k, x, p⟩, there, going⟩ := sound
    have takes : (⟨before, .advance i⟩ : Moment).Takes i k x p := ⟨rfl, there⟩
    rw [takes.returned_eq going] at returned
    cases p with
    | sent id' =>
      dsimp only at returned
      split at returned
      · next both =>
        obtain rfl := Option.some.inj returned
        exact ⟨both.2, i, x, both.1 ▸ takes⟩
      · cases returned
    | begun | found | built | stamped | ended => cases returned
  | begin | send | clear | change => cases returned

/-- A capture that took a step is still there, with the hub that it was begun on. -/
theorem Run.exists_call (run : Run host sources past s) (old : m ∈ past)
    (takes : m.Takes i h x p) : ∃ call, s.calls[i]? = some call ∧ call.hub = h := by
  have inside := run.lt_of_advances old takes.advances
  have there := List.getElem?_eq_getElem inside
  exact ⟨_, there, (run.rank_lt there old takes).1⟩

/-- **The law of captures.** In every run, from the first state on, with captures that take their
steps in any order and whatever else is done in between. -/
theorem Run.told (run : Run host sources past s) (fresh : ∀ n, sources.id n ≠ .nil) :
    Run.Told past s := by
  constructor
  case calls =>
    intro i call there
    exact run.told_call fresh there
  case last =>
    intro h id last
    rw [run.last?_eq] at last
    obtain ⟨m₅, old, returned⟩ := List.mem_filterMap.mp (List.mem_of_getLast? last)
    obtain ⟨before, later, rfl, first, sound⟩ := run.split old
    obtain ⟨given, i, x, takes₅⟩ := Moment.takes_of_returned sound returned
    have course := first.course takes₅.call_eq
    obtain ⟨-, wrong⟩ | ⟨steps, m₄, q, eq, -, -, takes₄, same⟩ := course.cases_eq
    · cases wrong
    obtain ⟨c, e, rfl, sent⟩ := Phase.next_eq_sent.mp same
    have mem : m₄ ∈ before := List.filter_sublist.subset (eq ▸ List.mem_concat_self)
    have old₄ : m₄ ∈ before ++ m₅ :: later := List.mem_append_left _ mem
    have enabled := Telemetry.enabled_of_send sent given
    obtain ⟨call, there, hub⟩ := run.exists_call old₄ takes₄
    obtain ⟨delivers, -, id_eq, -⟩ := run.delivers_of_takes fresh old₄ takes₄ sent enabled
    exact ⟨given, i, call, m₄, _, there, hub, old₄, delivers, rfl, id_eq⟩
  case lasting =>
    intro m old h last
    obtain ⟨before, later, rfl, first, -⟩ := run.split old
    rw [first.last?_eq] at last
    rw [run.last?_eq, List.filterMap_append, List.getLast?_append]
    cases ((m :: later).filterMap (·.returned h)).getLast? with
    | none => simpa using last
    | some id => simp

/-- Two captures find one client, which is then replaced on the hub. One of them sends through it
all the same; the other one comes to send when the client is disabled. -/
theorem Run.told_replacedClient : ∃ past s,
    Run Telemetry.oneHub.host Telemetry.oneHub.sources past s ∧
    (∀ n, Telemetry.oneHub.sources.id n ≠ .nil) ∧
    (s.state.transport ⟨0⟩).kept = [⟨0⟩] ∧ (s.state.transport ⟨1⟩).kept = [] ∧
    (s.state.hub ⟨0⟩).last? = some (Telemetry.oneHub.sources.id 0) ∧ Run.Told past s := by
  have run := (Run.start : Run Telemetry.oneHub.host Telemetry.oneHub.sources [] _)
    |>.step (.change (.addTransport (.memory []))) rfl
    |>.step (.change (.addTransport (.memory []))) rfl
    |>.step (.change (.addClient ⟨{}, ⟨0⟩⟩)) Nat.two_pos
    |>.step (.change (.addClient ⟨{}, ⟨1⟩⟩)) Nat.one_lt_two
    |>.step (.change (.addHub (some ⟨0⟩))) (by rintro c ⟨⟩; exact Nat.two_pos)
    |>.step (.begin ⟨0⟩ (.fault (.simple "Failure" "failed" none))) ⟨Nat.one_pos, nofun⟩
    |>.step (.begin ⟨0⟩ (.fault (.simple "Failure" "failed" none))) ⟨Nat.one_pos, nofun⟩
    |>.step (.advance 0) ⟨_, rfl, by decide +kernel⟩
    |>.step (.advance 1) ⟨_, rfl, by decide +kernel⟩
    |>.step (.change (.bind ⟨0⟩ (some ⟨1⟩))) (by rintro c ⟨⟩; exact Nat.one_lt_two)
    |>.step (.advance 0) ⟨_, rfl, by decide +kernel⟩
    |>.step (.advance 0) ⟨_, rfl, by decide +kernel⟩
    |>.step (.advance 0) ⟨_, rfl, by decide +kernel⟩
    |>.step (.change (.setOption ⟨0⟩ "enabled" (.bool false))) trivial
    |>.step (.advance 1) ⟨_, rfl, by decide +kernel⟩
    |>.step (.advance 1) ⟨_, rfl, by decide +kernel⟩
    |>.step (.advance 1) ⟨_, rfl, by decide +kernel⟩
    |>.step (.advance 0) ⟨_, rfl, by decide +kernel⟩
    |>.step (.advance 1) ⟨_, rfl, by decide +kernel⟩
  have fresh := Telemetry.id_oneHub_ne_nil
  exact ⟨_, _, run, fresh, by decide +kernel, by decide +kernel, by decide +kernel,
    Run.told run fresh⟩

end CauseTrail
