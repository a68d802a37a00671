import CauseTrail.Fault.Chain
import CauseTrail.Fault.Inquiry

/-!
# Walking down the causes

A chain is found link by link. A fault is taken for a link, the link is asked for its cause, the
cause is taken for the next link, and so on until there is none. An exception becomes a link in an
adapter, which carries along whether contexts count as causes; the cause that an adapter names is
in an adapter already, made by the first one. Any other error is a link of its own and names a
fault, which has yet to be taken for a link.

## Main definitions

* `Link`: the links, `Link.ofFault?` the link that a fault is taken for
* `Link.next?`: the next link
* `Link.inquire`: the links from one link on, behind those already passed, with the questions
  that are put on the way
* `Fault.inquire`: the links of a fault, the outermost first, with these questions
* `Link.walk`, `Fault.walk`: the links alone

## Main results

* `Link.map_fault_walk`, `Fault.map_fault_walk`: the walk passes the faults of the chain
* `Fault.keeps_of_walk`: every exception that the walk passes is in an adapter with the setting of
  the walk
-/

namespace CauseTrail

/-- A link of a chain, as the walk holds it. -/
inductive Link where
  /-- An exception, with the setting whether contexts count as causes. -/
  | adapter (r : Raised) (follow : Bool)
  /-- An error made of two texts and a cause. -/
  | simple (debug display : String) (cause? : Option Fault)
  /-- An error of a foreign kind. -/
  | foreign (kind : String) (debug display : Answer) (cause : Except Failure (Option Fault))
deriving Repr

namespace Link

/-- What a link names as its cause. -/
inductive Source where
  /-- A link that is made already. -/
  | link (l : Link)
  /-- A fault that has yet to be taken for a link. -/
  | fault (f : Fault)

/-- The fault behind a link. -/
def fault : Link → Fault
  | adapter r _ => .raised r
  | simple debug display cause? => .simple debug display cause?
  | foreign kind debug display cause => .foreign kind debug display cause

/-- The name of the kind of a link. -/
def kind : Link → String
  | adapter .. => "ExceptionAdapter"
  | l => l.fault.kind

/-- The literal of a link: of a foreign error, which has one of its own, nothing is said, and an
exception that fails to form its debug text has none. -/
def literal? (l : Link) : Option String :=
  match l with
  | adapter r _ =>
    (Fault.raised r).debugText.toOption.map fun debug => Value.call l.kind [debug]
  | simple debug display _ =>
    some (Value.call l.kind ["debug=" ++ Text.quote debug, "display=" ++ Text.quote display])
  | foreign .. => none

/-- The link that a fault is taken for. -/
def ofFault? (follow : Bool) : Fault → Except FaultError Link
  | .raised r => .ok (adapter r follow)
  | .simple debug display cause? => .ok (simple debug display cause?)
  | .foreign kind debug display cause => .ok (foreign kind debug display cause)
  | .other kind => .error (.notAnError kind)

/-- The cause that a link names. -/
def source? : Link → Except FaultError (Option Source)
  | adapter r follow => .ok ((r.source? follow).map fun c => .link (adapter c follow))
  | simple _ _ cause? => .ok (cause?.map .fault)
  | foreign _ _ _ (.error failure) => .error (.failed failure)
  | foreign _ _ _ (.ok cause?) => .ok (cause?.map .fault)

/-- The link that a cause is taken for. -/
def ofSource? (follow : Bool) : Source → Except FaultError Link
  | .link l => .ok l
  | .fault f => ofFault? follow f

/-- The link behind a link, if it names a cause. -/
def next? (follow : Bool) (l : Link) : Except FaultError (Option Link) :=
  match l.source? with
  | .error e => .error e
  | .ok none => .ok none
  | .ok (some s) => some <$> ofSource? follow s

/-- Whether a link that is an adapter has the given setting. -/
def Keeps (follow : Bool) : Link → Prop
  | adapter _ setting => setting = follow
  | _ => True

@[simp] theorem fault_of_ofFault? {follow : Bool} {f : Fault} {l : Link}
    (h : ofFault? follow f = .ok l) : l.fault = f := by
  cases f <;> cases h <;> rfl

theorem keeps_of_ofFault? {follow : Bool} {f : Fault} {l : Link}
    (h : ofFault? follow f = .ok l) : l.Keeps follow := by
  cases f <;> cases h <;> trivial

end Link

/-- The exception that an exception links to is smaller than it. -/
theorem Raised.sizeOf_source? {follow : Bool} {r c : Raised} (h : r.source? follow = some c) :
    sizeOf c < sizeOf r := by
  -- A context is named only where there is no explicit cause.
  rcases r with ⟨e, _ | a, _ | b, s⟩
  · simp [source?] at h
  · simp only [source?, Option.ite_none_right_eq_some, Option.some.injEq] at h
    obtain ⟨-, rfl⟩ := h
    simp +arith
  all_goals
    obtain rfl : a = c := by simpa [source?] using h
    simp +arith

/-- The cause that a fault names is smaller than the fault. -/
theorem Fault.sizeOf_source? {follow : Bool} {f c : Fault} (h : f.source? follow = .ok (some c)) :
    sizeOf c < sizeOf f := by
  cases f with
  | raised r =>
    obtain ⟨a, ha, rfl⟩ := Option.map_eq_some_iff.mp (Except.ok.inj h)
    simpa using Raised.sizeOf_source? ha
  | simple _ _ cause? =>
    obtain rfl := Except.ok.inj h
    simp +arith
  | foreign _ _ _ cause =>
    rcases cause with failure | cause?
    · cases h
    · obtain rfl := Except.ok.inj h
      simp +arith
  | other => simp [source?] at h

namespace Link

/-- The next link is that of the cause which the fault of a link names. -/
theorem source?_fault_of_next? {follow : Bool} {l c : Link} (h : l.next? follow = .ok (some c)) :
    ∃ setting, l.fault.source? setting = .ok (some c.fault) := by
  have taken {f : Fault} (h : some <$> ofFault? follow f = .ok (some c)) : f = c.fault := by
    obtain ⟨l, hl, h⟩ := Except.map_eq_ok_iff.mp h
    obtain rfl := Option.some.inj h
    exact (fault_of_ofFault? hl).symm
  -- The cause of an adapter is a link already; that of any other link has yet to be taken for one.
  cases l with
  | adapter r setting =>
    refine ⟨setting, ?_⟩
    cases hr : r.source? setting with
    | none => simp [next?, source?, hr] at h
    | some a =>
      obtain rfl : adapter a setting = c := by simpa [next?, source?, hr, ofSource?] using h
      simp [fault, Fault.source?, hr]
  | simple _ _ cause? =>
    cases cause? with
    | none => simp [next?, source?] at h
    | some f => exact ⟨follow, by rw [← taken h]; rfl⟩
  | foreign _ _ _ cause =>
    rcases cause with failure | _ | f
    · cases h
    · cases h
    · exact ⟨follow, by rw [← taken h]; rfl⟩

/-- What is behind a link is smaller than the link. -/
theorem sizeOf_next? {follow : Bool} {l c : Link} (h : l.next? follow = .ok (some c)) :
    sizeOf c.fault < sizeOf l.fault :=
  have ⟨_, h⟩ := source?_fault_of_next? h
  Fault.sizeOf_source? h

/-- The links from a link on, behind those that were passed before it, the last of them first. Each
link that the walk comes to is asked for its cause. -/
def inquire (follow : Bool) (passed : List Link) (l : Link) : Inquiry (List Link) :=
  match _h : l.next? follow with
  | .error x => .ask l.fault .source (.error x)
  | .ok none => .ask l.fault .source (.ok (l :: passed).reverse)
  | .ok (some c) => .behind ⟨l.fault, .source⟩ (inquire follow (l :: passed) c)
termination_by sizeOf l.fault
decreasing_by exact sizeOf_next? _h

/-- The links from a link on, as they are found by asking. -/
def walk (follow : Bool) (passed : List Link) (l : Link) : Except FaultError (List Link) :=
  (l.inquire follow passed).result

section Steps

variable {follow : Bool} {passed : List Link} {l c : Link}

theorem inquire_of_error {x : FaultError} (h : l.next? follow = .error x) :
    l.inquire follow passed = .ask l.fault .source (.error x) := by
  rw [inquire]
  split <;> next h' => first | cases h'.symm.trans h; rfl | cases h'.symm.trans h

theorem inquire_of_some (h : l.next? follow = .ok (some c)) :
    l.inquire follow passed = .behind ⟨l.fault, .source⟩ (c.inquire follow (l :: passed)) := by
  rw [inquire]
  split <;> next h' => first | cases h'.symm.trans h; rfl | cases h'.symm.trans h

end Steps

/-- With the setting of the walk, the link behind a link is that of the cause of its fault. -/
theorem next?_eq {follow : Bool} {l : Link} (keeps : l.Keeps follow) :
    l.next? follow = l.fault.source? follow >>= fun source? =>
      match source? with
      | none => .ok none
      | some f => some <$> ofFault? follow f := by
  rcases l with ⟨r, setting⟩ | ⟨d, s, _ | f⟩ | ⟨k, d, s, failure | _ | f⟩
  · -- an exception, whose adapter decides by the setting that it carries
    obtain rfl : setting = follow := keeps
    cases hr : r.source? setting <;>
      simp [next?, source?, fault, Fault.source?, hr, ofSource?, ofFault?]
  all_goals rfl

/-- The setting of the walk is handed on from link to link. -/
theorem keeps_of_next? {follow : Bool} {l c : Link} (keeps : l.Keeps follow)
    (h : l.next? follow = .ok (some c)) : c.Keeps follow := by
  rw [next?_eq keeps, Except.bind_eq_ok_iff] at h
  obtain ⟨_ | f, -, h⟩ := h
  · simp at h
  · obtain ⟨l, hl, h⟩ := Except.map_eq_ok_iff.mp h
    obtain rfl := Option.some.inj h
    exact keeps_of_ofFault? hl

/-- The chain of the fault behind a link goes on behind the next link. -/
theorem chain_fault_eq {follow : Bool} {l : Link} (keeps : l.Keeps follow) :
    l.fault.chain follow = l.next? follow >>= fun next? =>
      match next? with
      | none => .ok [l.fault]
      | some c => (l.fault :: ·) <$> c.fault.chain follow := by
  rw [Fault.chain_eq, next?_eq keeps]
  rcases l.fault.source? follow with e | _ | f
  · rfl
  · rfl
  · cases hf : ofFault? follow f with
    | ok c =>
      obtain rfl := fault_of_ofFault? hf
      simp [Except.bind, hf]
    | error e =>
      -- only a value that is no error is taken for no link
      obtain ⟨kind, rfl⟩ : ∃ kind, f = .other kind := by
        cases f <;> first | exact ⟨_, rfl⟩ | cases hf
      obtain rfl : .notAnError kind = e := by simpa [ofFault?] using hf
      simp [Except.bind, hf, Fault.chain]

/-- The walk passes the faults of the chain. The induction is along the walk; what it carries is
that the links passed are, from the last to the first, the front of the answer. -/
theorem map_fault_walk {follow : Bool} {passed : List Link} {l : Link} (keeps : l.Keeps follow) :
    List.map fault <$> l.walk follow passed =
      (passed.reverse.map fault ++ ·) <$> l.fault.chain follow := by
  rw [walk]
  fun_induction inquire follow passed l with
  | case1 passed l e h => rw [chain_fault_eq keeps, h]; rfl
  | case2 passed l h => rw [chain_fault_eq keeps, h]; simp
  | case3 passed l c h ih =>
    -- the link goes over to those that were passed, and the chain goes on behind it
    rw [Inquiry.result_behind, ih (keeps_of_next? keeps h), chain_fault_eq keeps, h,
      Except.ok_bind]
    dsimp only
    cases c.fault.chain follow <;> simp

/-- Every adapter of a walk has the setting of the walk. -/
theorem keeps_of_walk {follow : Bool} {passed links : List Link} {l : Link}
    (keeps : l.Keeps follow) (before : ∀ m ∈ passed, m.Keeps follow)
    (h : l.walk follow passed = .ok links) : ∀ m ∈ links, m.Keeps follow := by
  rw [walk] at h
  fun_induction inquire follow passed l with
  | case1 => simp at h
  | case2 passed l _ =>
    obtain rfl := Except.ok.inj h
    simpa [or_imp, forall_and, keeps] using before
  | case3 passed l c hc ih =>
    refine ih (keeps_of_next? keeps hc) ?_ h
    simpa [keeps] using before

end Link

/-- The links of a fault, the outermost first, with the questions for their causes. -/
def Fault.inquire (follow : Bool) (f : Fault) : Inquiry (List Link) := do
  (← Inquiry.known (Link.ofFault? follow f)).inquire follow []

/-- The links of a fault, the outermost first. -/
def Fault.walk (follow : Bool) (f : Fault) : Except FaultError (List Link) :=
  (f.inquire follow).result

/-- A walk begins at the link of the fault with nothing passed. -/
theorem Fault.walk_eq (follow : Bool) (f : Fault) :
    f.walk follow = Link.ofFault? follow f >>= fun l => l.walk follow [] := by
  rw [walk, inquire, Inquiry.result_bind, Inquiry.result_known]
  rfl

/-- The walk of a fault passes its chain, and is refused with the same words. -/
theorem Fault.map_fault_walk (follow : Bool) (f : Fault) :
    List.map Link.fault <$> f.walk follow = f.chain follow := by
  cases hf : Link.ofFault? follow f with
  | ok l =>
    rw [walk_eq, hf, Except.ok_bind, Link.map_fault_walk (Link.keeps_of_ofFault? hf),
      Link.fault_of_ofFault? hf]
    cases f.chain follow <;> simp
  | error e =>
    cases f <;> cases hf
    rfl

/-- Every exception that the walk of a fault passes is in an adapter with the setting of the walk,
also behind foreign errors. -/
theorem Fault.keeps_of_walk {follow : Bool} {f : Fault} {links : List Link}
    (h : f.walk follow = .ok links) : ∀ l ∈ links, l.Keeps follow := by
  rw [walk_eq] at h
  obtain ⟨l, hl, h⟩ := Except.bind_eq_ok_iff.mp h
  exact Link.keeps_of_walk (Link.keeps_of_ofFault? hl) (by simp) h

end CauseTrail
