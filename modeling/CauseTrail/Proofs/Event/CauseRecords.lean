import CauseTrail.Event.Assembly

/-!
# One record for each cause

The event of a fault whose causes all answer has one record for each of them, the root cause first
and the fault itself last. Whether contexts count as causes is one setting for the whole chain,
which is of any length and mixes exceptions with other errors.

## Main definitions

* `Fault.cause?`, `Fault.causeAt?`: the cause of a fault, and the one at a distance from it
* `Fault.Answers`: a fault that is an error and answers every question
* `Event.TellsCauses`: an event that has the records of the causes of a fault

## Main results

* `Fault.exists_chain`: the chain lists the causes by their distance
* `Event.ofFault_tellsCauses`: the event of a fault has the records of its causes
-/

namespace CauseTrail

namespace Fault

/-- The cause of a fault: for an exception the explicit one, or else its context, when contexts
count and this one is not suppressed; for any other error the one that it names. -/
def cause? (follow : Bool) : Fault → Option Fault
  | raised (.mk _ (some c) _ _) => some (.raised c)
  | raised (.mk _ none context? suppressed) =>
    if follow = true ∧ suppressed = false then context?.map .raised else none
  | simple _ _ cause? => cause?
  | foreign _ _ _ cause => cause.toOption.join
  | other _ => none

/-- The fault that is reached from a fault through a number of causes. -/
def causeAt? (follow : Bool) : Nat → Fault → Option Fault
  | 0, f => some f
  | i + 1, f => (f.cause? follow).bind (causeAt? follow i)

/-- A fault that is an error and answers what it is asked. -/
structure Answers (follow : Bool) (f : Fault) : Prop where
  isError : f.isError = true
  debug : ∃ text, f.debugText = .ok text
  display : ∃ text, f.displayText = .ok text
  source : ∃ source?, f.source? follow = .ok source?

/-- The record of an error by itself: the name of its type in its debug text, and its display
text. -/
def record (naming : TypeNaming) (f : Fault) : Record :=
  match f.debugText, f.displayText with
  | .ok debug, .ok display => .ofTexts (naming debug) display
  | _, _ => default

variable {naming : TypeNaming} {follow : Bool} {f c : Fault}

@[simp] theorem causeAt?_zero : f.causeAt? follow 0 = some f := rfl

theorem causeAt?_succ (i : Nat) :
    f.causeAt? follow (i + 1) = (f.cause? follow).bind (causeAt? follow i) := rfl

theorem causeAt?_succ_of_cause? (h : f.cause? follow = some c) (i : Nat) :
    f.causeAt? follow (i + 1) = c.causeAt? follow i := by
  rw [causeAt?_succ, h, Option.bind_some]

/-- The cause that a fault names, if it names one without failing, is its cause. -/
theorem source?_eq_of_ok (h : ∃ source?, f.source? follow = .ok source?) :
    f.source? follow = .ok (f.cause? follow) := by
  obtain ⟨source?, h⟩ := h
  cases f with
  | raised r =>
    rcases r with ⟨e, _ | a, _ | b, s⟩ <;> cases follow <;> cases s <;> rfl
  | simple => rfl
  | foreign _ _ _ cause =>
    cases cause with
    | error failure => cases h
    | ok => rfl
  | other => simp [Fault.source?] at h

/-- A fault that answers names its cause. -/
theorem Answers.source?_eq (answers : f.Answers follow) :
    f.source? follow = .ok (f.cause? follow) :=
  source?_eq_of_ok answers.source

/-- A fault that answers has the record of its texts. -/
theorem Answers.ofFault_eq (answers : f.Answers follow) :
    Record.ofFault naming f = .ok (f.record naming) := by
  obtain ⟨debug, hd⟩ := answers.debug
  obtain ⟨display, hs⟩ := answers.display
  rw [Record.ofFault_eq, record, hd, Except.ok_bind, hs, Except.ok_bind, Except.pure_eq_ok]

/-- Where all causes of a fault answer, all causes of its cause do. -/
theorem answers_of_cause? (answers : ∀ i g, f.causeAt? follow i = some g → g.Answers follow)
    (h : f.cause? follow = some c) : ∀ i g, c.causeAt? follow i = some g → g.Answers follow :=
  fun i g hg => answers (i + 1) g (by rw [causeAt?_succ_of_cause? h, hg])

/-- The chain of a fault whose causes all name theirs lists them by their distance. -/
theorem exists_chain_of_source? (f : Fault)
    (named : ∀ i g, f.causeAt? follow i = some g → ∃ source?, g.source? follow = .ok source?) :
    ∃ chain, f.chain follow = .ok chain ∧ ∀ i, chain[i]? = f.causeAt? follow i := by
  have source := source?_eq_of_ok (named 0 f rfl)
  rw [chain_eq, source]
  -- Induction on the size of the fault: its cause is smaller, and reaches the causes further down
  -- at one step less.
  cases h : f.cause? follow with
  | none =>
    refine ⟨[f], rfl, fun i => ?_⟩
    cases i <;> simp [causeAt?_succ, h]
  | some c =>
    have : sizeOf c < sizeOf f := sizeOf_source? (source.trans (congrArg _ h))
    obtain ⟨chain, hc, nth⟩ := exists_chain_of_source? c fun i g hg =>
      named (i + 1) g (by rw [causeAt?_succ_of_cause? h, hg])
    refine ⟨f :: chain, by simp [Except.bind, hc], fun i => ?_⟩
    cases i with
    | zero => rfl
    | succ i => rw [List.getElem?_cons_succ, nth, causeAt?_succ_of_cause? h]
termination_by sizeOf f

/-- The chain of a fault whose causes all answer lists them by their distance. -/
theorem exists_chain (f : Fault)
    (answers : ∀ i g, f.causeAt? follow i = some g → g.Answers follow) :
    ∃ chain, f.chain follow = .ok chain ∧ ∀ i, chain[i]? = f.causeAt? follow i :=
  exists_chain_of_source? f fun i g hg => (answers i g hg).source

end Fault

namespace Event

/-- An event that has the records of the causes of a fault and says nothing else. -/
structure TellsCauses (naming : TypeNaming) (follow : Bool) (f : Fault) (e : Event) : Prop where
  /-- Beyond its records the event is a new one of the level of errors. -/
  eq_ofRecords : e = .ofRecords e.records .error
  /-- There are as many records as causes. -/
  lt_length_iff : ∀ i, i < e.records.length ↔ (f.causeAt? follow i).isSome
  /-- The record of the cause at a distance from the fault is as far from the last record. -/
  getElem?_eq : ∀ i g, f.causeAt? follow i = some g →
    e.records[e.records.length - 1 - i]? = some (g.record naming)

variable {naming : TypeNaming} {follow : Bool} {f : Fault}

/-- Records are found in the order of the links. -/
theorem mapM_ofFault_eq {links : List Link} {chain : List Fault}
    (h : links.map Link.fault = chain) (answers : ∀ g ∈ chain, g.Answers follow) :
    (links.mapM fun l => Record.ofFault naming l.fault) =
      .ok (chain.map (Fault.record naming)) := by
  subst h
  induction links with
  | nil => rfl
  | cons l links ih =>
    rw [List.mapM_cons, (answers l.fault (by simp)).ofFault_eq,
      ih fun g hg => answers g (by simp [hg])]
    rfl

/-- The event of a fault whose causes all answer has the records of its chain, turned round. -/
theorem ofFault_eq_ofRecords {chain : List Fault} (h : f.chain follow = .ok chain)
    (answers : ∀ g ∈ chain, g.Answers follow) :
    ofFault naming follow f =
      .ok (.ofRecords (chain.map (Fault.record naming)).reverse .error) := by
  have walked := f.map_fault_walk follow
  rw [h] at walked
  obtain ⟨links, hl, hc⟩ := Except.map_eq_ok_iff.mp walked
  simp [ofFault_eq, hl, mapM_ofFault_eq hc answers]

/-- **One record for each cause.** The event of a fault whose causes all answer has their records,
the root cause first and the fault last: it is the event of the cause with one record more. The
links that were walked all have the one setting for contexts. -/
theorem ofFault_tellsCauses (naming : TypeNaming) (follow : Bool) (f : Fault)
    (answers : ∀ i g, f.causeAt? follow i = some g → g.Answers follow) :
    ∃ e, ofFault naming follow f = .ok e ∧ e.TellsCauses naming follow f ∧
      (f.cause? follow = none → e.records = [f.record naming]) ∧
      (∀ c, f.cause? follow = some c → ∃ rest, ofFault naming follow c = .ok rest ∧
        e.records = rest.records ++ [f.record naming]) ∧
      ∃ links, f.walk follow = .ok links ∧ links.length = e.records.length ∧
        ∀ l ∈ links, l.Keeps follow := by
  obtain ⟨chain, hc, nth⟩ := f.exists_chain answers
  have told {g : Fault} (hg : g ∈ chain) : g.Answers follow := by
    obtain ⟨i, hi⟩ := List.mem_iff_getElem?.mp hg
    exact answers i g (nth i ▸ hi)
  refine ⟨_, ofFault_eq_ofRecords hc fun g => told, ⟨rfl, fun i => ?_, fun i g hg => ?_⟩,
    fun root => ?_, fun c hcause => ?_, ?_⟩
  · -- as many records as there are links
    simp [ofRecords, ← nth]
  · -- the records stand the other way round than the links
    have hi : i < chain.length := by
      rw [← nth] at hg
      exact (List.getElem?_eq_some_iff.mp hg).1
    have turned : (ofRecords (chain.map (Fault.record naming)).reverse .error).records.length
        = chain.length := by simp [ofRecords]
    rw [turned]
    simp only [ofRecords]
    rw [List.getElem?_reverse (by simp; omega), List.length_map,
      show chain.length - 1 - (chain.length - 1 - i) = i by omega, List.getElem?_map, nth, hg]
    rfl
  · -- without a cause the chain is the fault alone
    obtain rfl : chain = [f] := by
      rw [Fault.chain_eq, (answers 0 f rfl).source?_eq, root] at hc
      exact (Except.ok.inj hc).symm
    rfl
  · -- with a cause the rest of the chain is the chain of the cause
    obtain ⟨below, hb, -⟩ := c.exists_chain (Fault.answers_of_cause? answers hcause)
    obtain rfl : f :: below = chain := by
      rw [Fault.chain_eq, (answers 0 f rfl).source?_eq, hcause] at hc
      simpa [Except.bind, hb] using hc
    refine ⟨_, ofFault_eq_ofRecords hb fun g hg => told (by simp [hg]), ?_⟩
    simp [ofRecords]
  · -- the links that were walked are those of the chain
    have walked := f.map_fault_walk follow
    rw [hc] at walked
    obtain ⟨links, hl, rfl⟩ := Except.map_eq_ok_iff.mp walked
    exact ⟨links, hl, by simp [ofRecords], Fault.keeps_of_walk hl⟩

/-- A simple error, caused by a foreign one, caused by an exception that was raised while another
one was handled. -/
def mixedCauses : Fault :=
  .simple "Outer(Inner)" "outer" <| some <|
    .foreign "Remote" (.ok "Remote \x7b \x7d") (.ok "remote") <| .ok <| some <|
      .raised <| .mk (.ofClass "RuntimeError" [.text "lookup failed"]) none
        (some (.mk (.ofClass "KeyError" [.text "k"]) none none false)) false

/-- The laws for causes of all kinds, four of them in a row. -/
theorem ofFault_tellsCauses_mixedCauses :
    (∀ i g, mixedCauses.causeAt? true i = some g → g.Answers true) ∧
      ∃ e, ofFault TypeName.ofDebug true mixedCauses = .ok e ∧
        e.TellsCauses TypeName.ofDebug true mixedCauses ∧ e.records.length = 4 := by
  have answers : ∀ i g, mixedCauses.causeAt? true i = some g → g.Answers true := by
    intro i g h
    match i with
    | 0 | 1 | 2 | 3 =>
      obtain rfl := Option.some.inj h
      exact ⟨rfl, ⟨_, rfl⟩, ⟨_, rfl⟩, ⟨_, rfl⟩⟩
    | i + 4 => cases h
  obtain ⟨e, h, told, -⟩ := ofFault_tellsCauses TypeName.ofDebug true mixedCauses answers
  have below := (told.lt_length_iff 3).mpr rfl
  have above := mt (told.lt_length_iff 4).mp (by decide)
  exact ⟨answers, e, h, told, by omega⟩

end Event

end CauseTrail
