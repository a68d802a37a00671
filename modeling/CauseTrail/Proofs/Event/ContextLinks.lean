import CauseTrail.Event.Assembly

/-!
# Chains with contexts and without

One setting tells whether the context of an exception counts as its cause. It matters at one link
of a chain at most: where contexts do not count, the chain ends at the first exception that has a
context only, and where they count, it goes on from there, through exceptions alone. So the chain
without contexts is the front of the chain with them, and the records of its event are the last ones
of the event with them. Whatever fails without contexts fails with them in the same way; what fails
with them alone is one of the links behind.

## Main definitions

* `Fault.HasContext`: an exception that a chain goes on from only where contexts count
* `Fault.ContextsExtend`: what a fault with contexts has over the fault without them

## Main results

* `Fault.exists_chain_append`, `Fault.chain_error`: the chain with contexts goes on from the chain
  without them
* `Event.ofFault_contextsExtend`: so does the event, turned round
-/

namespace CauseTrail

/-- An exception without a cause, raised while another one was handled, which it does not hide. -/
def Fault.HasContext (f : Fault) : Prop :=
  ∃ error context, f = .raised (.mk error none (some context) false)

/-! ## Chains -/

theorem Raised.chain_ne_nil (follow : Bool) (r : Raised) : r.chain follow ≠ [] := by
  rw [chain_eq]
  exact List.cons_ne_nil _ _

/-- The chain of an exception goes on with contexts if its last link has one. -/
theorem Raised.exists_chain_append (r : Raised) :
    ∃ more, r.chain true = r.chain false ++ more ∧
      (more = [] ↔ ∀ last, (r.chain false).getLast? = some last →
        ¬ (Fault.raised last).HasContext) := by
  -- without a cause the chain ends here for either setting, unless there is a context to go on with
  have ended {r : Raised} (other : ¬ (Fault.raised r).HasContext) (h : r.chain true = [r])
      (h' : r.chain false = [r]) : ∃ more, r.chain true = r.chain false ++ more ∧
        (more = [] ↔ ∀ last, (r.chain false).getLast? = some last →
          ¬ (Fault.raised last).HasContext) := by
    refine ⟨[], by rw [h, h', List.append_nil], iff_of_true rfl ?_⟩
    intro last here
    rw [h', List.getLast?_singleton, Option.some.injEq] at here
    rwa [← here]
  match r with
  | .mk error (some cause) context? suppressed =>
    obtain ⟨more, same, ends⟩ := cause.exists_chain_append
    refine ⟨more, ?_, ?_⟩
    · rw [chain, chain, same, List.cons_append]
    · rwa [chain, List.getLast?_cons_of_ne_nil (cause.chain_ne_nil false)]
  | .mk error none (some context) false =>
    refine ⟨context.chain true, by simp [chain], ?_⟩
    apply iff_of_false (context.chain_ne_nil true)
    intro ends
    exact ends _ (by simp [chain]) ⟨error, context, rfl⟩
  | .mk error none (some context) true =>
    apply ended _ (by simp [chain]) (by simp [chain])
    rintro ⟨_, _, ⟨⟩⟩
  | .mk error none none suppressed =>
    apply ended _ (by simp [chain]) (by simp [chain])
    rintro ⟨_, _, ⟨⟩⟩

namespace Fault

variable {f : Fault}

/-- A chain has the fault itself in it. -/
theorem chain_ne_nil {follow : Bool} {chain : List Fault} (h : f.chain follow = .ok chain) :
    chain ≠ [] := by
  rw [chain_eq] at h
  obtain ⟨_ | c, -, h⟩ := Except.bind_eq_ok_iff.mp h
  · obtain rfl := Except.ok.inj h
    exact List.cons_ne_nil _ _
  · obtain ⟨below, -, rfl⟩ := Except.map_eq_ok_iff.mp h
    exact List.cons_ne_nil _ _

/-- Nothing but an exception names another cause where contexts count. -/
theorem source?_true (other : ∀ r, f ≠ .raised r) : f.source? true = f.source? false := by
  cases f with
  | raised r => exact absurd rfl (other r)
  | simple | foreign | other => rfl

/-- **The chain with contexts** goes on from the chain without them if its last link has one. -/
theorem exists_chain_append (f : Fault) {chain : List Fault} (h : f.chain false = .ok chain) :
    ∃ more, f.chain true = .ok (chain ++ more) ∧
      (more = [] ↔ ∀ last, chain.getLast? = some last → ¬ last.HasContext) := by
  by_cases exception : ∃ r, f = .raised r
  · obtain ⟨r, rfl⟩ := exception
    obtain rfl := Except.ok.inj h
    obtain ⟨more, same, ends⟩ := r.exists_chain_append
    refine ⟨more.map raised, by rw [Fault.chain, same, List.map_append], ?_⟩
    rw [List.map_eq_nil_iff, ends, List.getLast?_map]
    simp
  · -- Any other error names one cause for both settings, and the cause is smaller.
    have named := source?_true fun r same => exception ⟨r, same⟩
    rw [chain_eq] at h ⊢
    rw [named]
    obtain ⟨_ | c, here, h⟩ := Except.bind_eq_ok_iff.mp h
    · obtain rfl := Except.ok.inj h
      refine ⟨[], by rw [here]; rfl, iff_of_true rfl ?_⟩
      rintro last ends ⟨error, context, rfl⟩
      exact exception ⟨_, Option.some.inj ends⟩
    · have : sizeOf c < sizeOf f := sizeOf_source? here
      obtain ⟨below, hb, rfl⟩ := Except.map_eq_ok_iff.mp h
      obtain ⟨more, goesOn, ends⟩ := exists_chain_append c hb
      refine ⟨more, by simp [here, Except.bind, goesOn], ?_⟩
      rwa [List.getLast?_cons_of_ne_nil (chain_ne_nil hb)]
termination_by sizeOf f

/-- A chain that is not found without contexts is not found with them either. -/
theorem chain_error (f : Fault) {x : FaultError} (h : f.chain false = .error x) :
    f.chain true = .error x := by
  by_cases exception : ∃ r, f = .raised r
  · obtain ⟨r, rfl⟩ := exception
    cases h
  · have named := source?_true fun r same => exception ⟨r, same⟩
    rw [chain_eq] at h ⊢
    rw [named]
    cases here : f.source? false with
    | error y => rwa [here] at h
    | ok source? =>
      rw [here] at h
      cases source? with
      | none => cases h
      | some c =>
        have : sizeOf c < sizeOf f := sizeOf_source? here
        cases below : c.chain false with
        | ok => simp [Except.bind, below] at h
        | error y =>
          obtain rfl : y = x := by simpa [Except.bind, below] using h
          simp [Except.bind, chain_error c below]
termination_by sizeOf f

/-! ## Walks -/

variable {follow : Bool} {x : FaultError}

theorem chain_of_walk {links : List Link} (h : f.walk follow = .ok links) :
    f.chain follow = .ok (links.map Link.fault) := by
  rw [← f.map_fault_walk follow, h]
  rfl

theorem exists_walk_of_chain {chain : List Fault} (h : f.chain follow = .ok chain) :
    ∃ links, f.walk follow = .ok links ∧ links.map Link.fault = chain := by
  rw [← f.map_fault_walk follow] at h
  exact Except.map_eq_ok_iff.mp h

theorem walk_eq_error_iff : f.walk follow = .error x ↔ f.chain follow = .error x := by
  rw [← f.map_fault_walk follow]
  cases f.walk follow <;> simp

end Fault

/-! ## Events -/

namespace Event

variable {naming : TypeNaming} {follow : Bool} {f : Fault} {e : Event} {x : FaultError}

/-- The event of a fault is made of the records of its chain. -/
theorem ofFault_eq_chain (naming : TypeNaming) (follow : Bool) (f : Fault) :
    ofFault naming follow f = do
      let chain ← f.chain follow
      let records ← chain.mapM (Record.ofFault naming)
      return .ofRecords records.reverse .error := by
  rw [ofFault_eq, ← f.map_fault_walk follow]
  cases f.walk follow with
  | error => rfl
  | ok links =>
    simp only [Except.ok_bind, Except.ok_map, List.mapM_map]
    rfl

/-- An event is made just when the chain ends well and every link has a record. -/
theorem ofFault_eq_ok_iff : ofFault naming follow f = .ok e ↔
    ∃ chain records, f.chain follow = .ok chain ∧
      chain.mapM (Record.ofFault naming) = .ok records ∧
      e = .ofRecords records.reverse .error := by
  rw [ofFault_eq_chain, Except.bind_eq_ok_iff]
  constructor
  · rintro ⟨chain, hc, h⟩
    obtain ⟨records, hr, h⟩ := Except.bind_eq_ok_iff.mp h
    exact ⟨chain, records, hc, hr, (Except.ok.inj h).symm⟩
  · rintro ⟨chain, records, hc, hr, rfl⟩
    exact ⟨chain, hc, Except.bind_eq_ok_iff.mpr ⟨records, hr, rfl⟩⟩

/-- No event is made of a fault without a chain, or with a link that has no record. -/
theorem ofFault_eq_error_iff : ofFault naming follow f = .error x ↔
    f.chain follow = .error x ∨
      ∃ chain, f.chain follow = .ok chain ∧ chain.mapM (Record.ofFault naming) = .error x := by
  rw [ofFault_eq_chain]
  cases f.chain follow with
  | error y => simp
  | ok chain =>
    rw [Except.ok_bind]
    cases records : chain.mapM (Record.ofFault naming) <;> simp [records]

/-- No other records are found with contexts but more, behind those without them. -/
theorem exists_records_append {e' : Event} (made : ofFault naming false f = .ok e)
    (made' : ofFault naming true f = .ok e') :
    ∃ (chain more : List Fault) (records added : List Record), f.chain false = .ok chain ∧
      f.chain true = .ok (chain ++ more) ∧ added.length = more.length ∧
      e.records = records.reverse ∧ e'.records = (records ++ added).reverse := by
  obtain ⟨chain, records, hc, hr, rfl⟩ := ofFault_eq_ok_iff.mp made
  obtain ⟨more, goesOn, -⟩ := f.exists_chain_append hc
  obtain ⟨all, records', hc', hr', rfl⟩ := ofFault_eq_ok_iff.mp made'
  obtain rfl := Except.ok.inj (goesOn.symm.trans hc')
  rw [List.mapM_append, hr, Except.ok_bind] at hr'
  obtain ⟨added, ha, hr'⟩ := Except.bind_eq_ok_iff.mp hr'
  obtain rfl := Except.ok.inj hr'
  exact ⟨chain, more, records, added, hc, goesOn, Except.length_of_mapM ha, rfl, rfl⟩

/-- What fails without contexts fails with them for one reason. -/
theorem ofFault_error (failed : ofFault naming false f = .error x) :
    ofFault naming true f = .error x := by
  rw [ofFault_eq_error_iff] at failed ⊢
  rcases failed with stopped | ⟨chain, hc, unrecorded⟩
  · exact .inl (f.chain_error stopped)
  · obtain ⟨more, goesOn, -⟩ := f.exists_chain_append hc
    exact .inr ⟨_, goesOn, by rw [List.mapM_append, unrecorded, Except.error_bind]⟩

/-- What fails with contexts only is the record of a link that is behind the chain without them. -/
theorem exists_unrecorded (made : ofFault naming false f = .ok e)
    (failed : ofFault naming true f = .error x) :
    ∃ chain before g after, f.chain false = .ok chain ∧
      f.chain true = .ok (chain ++ before ++ g :: after) ∧ Record.ofFault naming g = .error x ∧
      ∀ h ∈ chain ++ before, ∃ r, Record.ofFault naming h = .ok r := by
  obtain ⟨chain, records, hc, hr, rfl⟩ := ofFault_eq_ok_iff.mp made
  obtain ⟨more, goesOn, -⟩ := f.exists_chain_append hc
  rcases ofFault_eq_error_iff.mp failed with stopped | ⟨_, hc', unrecorded⟩
  · cases goesOn.symm.trans stopped
  obtain rfl := Except.ok.inj (goesOn.symm.trans hc')
  have behind : more.mapM (Record.ofFault naming) = .error x := by
    rw [List.mapM_append, hr, Except.ok_bind] at unrecorded
    cases rest : more.mapM (Record.ofFault naming) with
    | error y => simpa [rest] using unrecorded
    | ok => simp [rest] at unrecorded
  obtain ⟨before, g, after, rfl, refused, fine⟩ := Except.mapM_eq_error_iff.mp behind
  refine ⟨chain, before, g, after, hc, by rw [goesOn, List.append_assoc], refused, ?_⟩
  intro h there
  rcases List.mem_append.mp there with shared | beyond
  · exact Except.exists_of_mapM hr h shared
  · exact fine h beyond

end Event

/-- What a fault has where contexts count over what it has where they do not. -/
structure Fault.ContextsExtend (naming : TypeNaming) (f : Fault) : Prop where
  /-- What the walk without contexts passes, the walk with contexts passes first. It passes no more
  if the last link is no exception with a context. -/
  walked : ∀ links, f.walk false = .ok links → ∃ links', f.walk true = .ok links' ∧
    links.map Link.fault <+: links'.map Link.fault ∧
    (links.map Link.fault = links'.map Link.fault ↔
      ∀ last, links.getLast? = some last → ¬ last.fault.HasContext)
  /-- What stops the walk without contexts stops the walk with them. -/
  stopped : ∀ x, f.walk false = .error x → f.walk true = .error x
  /-- The records without contexts are the last ones of those with contexts. -/
  records : ∀ e e', Event.ofFault naming false f = .ok e → Event.ofFault naming true f = .ok e' →
    e.records <:+ e'.records ∧
    (e.records = e'.records ↔ ∀ links last, f.walk false = .ok links →
      links.getLast? = some last → ¬ last.fault.HasContext)
  /-- Without an event where contexts do not count there is none where they do, for one reason. -/
  failed : ∀ x, Event.ofFault naming false f = .error x → Event.ofFault naming true f = .error x
  /-- Where only the event with contexts fails, a link that is passed with contexts only has no
  record, and all links before it have one. -/
  behind : ∀ e x, Event.ofFault naming false f = .ok e → Event.ofFault naming true f = .error x →
    ∃ links passed link more, f.walk false = .ok links ∧
      f.walk true = .ok (passed ++ link :: more) ∧ links.length ≤ passed.length ∧
      Record.ofFault naming link.fault = .error x ∧
      ∀ l ∈ passed, ∃ r, Record.ofFault naming l.fault = .ok r

namespace Event

/-- **Contexts add root causes.** The chain of a fault with contexts goes on where the chain without
them ends, and so do the records of its event; both fail alike up to there. -/
theorem ofFault_contextsExtend (naming : TypeNaming) (f : Fault) :
    f.ContextsExtend naming := by
  constructor
  case walked =>
    intro links walked
    obtain ⟨more, goesOn, ends⟩ := f.exists_chain_append (Fault.chain_of_walk walked)
    obtain ⟨links', walked', same⟩ := Fault.exists_walk_of_chain goesOn
    refine ⟨links', walked', ⟨more, same.symm⟩, ?_⟩
    rw [same, List.self_eq_append_right, ends, List.getLast?_map]
    simp
  case stopped =>
    intro x stopped
    rw [Fault.walk_eq_error_iff] at stopped ⊢
    exact f.chain_error stopped
  case records =>
    intro e e' made made'
    obtain ⟨chain, more, records, added, hc, goesOn, count, he, he'⟩ :=
      exists_records_append made made'
    rw [he, he', List.reverse_append]
    refine ⟨List.suffix_append _ _, ?_⟩
    -- the records are the same if no link is behind, which the last link of the chain decides
    obtain ⟨more', goesOn', ends⟩ := f.exists_chain_append hc
    obtain rfl := List.append_cancel_left (Except.ok.inj (goesOn.symm.trans goesOn'))
    rw [List.self_eq_append_left, List.reverse_eq_nil_iff, ← List.length_eq_zero_iff, count,
      List.length_eq_zero_iff, ends]
    obtain ⟨links, walked, rfl⟩ := Fault.exists_walk_of_chain hc
    rw [List.getLast?_map]
    constructor
    · intro none links' last walked' isLast
      obtain rfl := Except.ok.inj (walked.symm.trans walked')
      exact none _ (by rw [isLast]; rfl)
    · intro none last isLast
      obtain ⟨l, here, rfl⟩ := Option.map_eq_some_iff.mp isLast
      exact none links l walked here
  case failed =>
    intro x
    exact ofFault_error
  case behind =>
    intro e x made failed
    obtain ⟨chain, before, g, after, hc, goesOn, refused, fine⟩ := exists_unrecorded made failed
    obtain ⟨links, walked, rfl⟩ := Fault.exists_walk_of_chain hc
    obtain ⟨links', walked', same⟩ := Fault.exists_walk_of_chain goesOn
    obtain ⟨passed, rest, rfl, hp, hrest⟩ := List.map_eq_append_iff.mp same
    obtain ⟨link, rest, rfl, rfl, -⟩ := List.map_eq_cons_iff.mp hrest
    refine ⟨links, passed, link, rest, walked, walked', ?_, refused, ?_⟩
    · have count := congrArg List.length hp
      simp only [List.length_append, List.length_map] at count
      omega
    · intro l there
      exact fine l.fault (hp ▸ List.mem_map_of_mem there)

/-- A context that fails to form its display text is in the way only where contexts count. -/
example :
    let lost : Failure := ⟨"RuntimeError", "display lost"⟩
    let mute : Exception := .custom "Mute" [] none (some (.error lost))
    let f : Fault := .raised (.mk (.ofClass "KeyError" [.text "k"]) none
      (some (.mk mute none none false)) false)
    ofFault TypeName.ofDebug true f = .error (.failed lost) ∧
      ∃ e, ofFault TypeName.ofDebug false f = .ok e := by
  intro lost mute f
  rw [ofFault_eq_chain, ofFault_eq_chain]
  exact ⟨rfl, _, rfl⟩

end Event

end CauseTrail
