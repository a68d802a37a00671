import CauseTrail.Fault.Basic

/-!
# The chain of causes

The chain of a fault is the fault itself, the outermost link, followed by its cause, the cause of
that, and so on down to the root. Whether contexts count as causes is settled once for all
exceptions of the chain, also for those that are reached only through a foreign error. A link
that is no error, or that fails to name its cause, leaves no chain.

## Main definitions

* `Raised.chain`: the chain of a raised exception
* `Fault.chain`: the chain of a fault, outermost link first

## Main results

* `Fault.chain_eq`: the chain of a fault through its cause
-/

namespace CauseTrail

/-- The chain of a raised exception. -/
def Raised.chain (follow : Bool) : Raised → List Raised
  | r@(.mk _ (some c) _ _) => r :: c.chain follow
  | r@(.mk _ none (some c) suppressed) =>
    if follow && !suppressed then r :: c.chain follow else [r]
  | r@(.mk _ none none _) => [r]

/-- The chain of a fault, outermost link first. -/
def Fault.chain (follow : Bool) : Fault → Except FaultError (List Fault)
  | .raised r => .ok ((r.chain follow).map .raised)
  | e@(.simple _ _ none) => .ok [e]
  | e@(.simple _ _ (some c)) => (e :: ·) <$> c.chain follow
  | .foreign _ _ _ (.error failure) => .error (.failed failure)
  | e@(.foreign _ _ _ (.ok none)) => .ok [e]
  | e@(.foreign _ _ _ (.ok (some c))) => (e :: ·) <$> c.chain follow
  | .other kind => .error (.notAnError kind)

/-- The chain goes on behind an exception with that of its source. -/
theorem Raised.chain_eq (follow : Bool) (r : Raised) :
    r.chain follow = r :: ((r.source? follow).map (·.chain follow)).getD [] := by
  rcases r with ⟨e, _ | c, _ | d, s⟩ <;> simp [chain, source?]
  split <;> simp

/-- The chain of a fault is the fault, followed by the chain of its cause. -/
theorem Fault.chain_eq (follow : Bool) (f : Fault) :
    f.chain follow = (f.source? follow).bind fun source? =>
      match source? with
      | none => .ok [f]
      | some c => (f :: ·) <$> c.chain follow := by
  match f with
  | .raised r =>
    rw [chain, Raised.chain_eq, source?]
    cases r.source? follow <;> simp [Except.bind, chain, Functor.map, Except.map]
  | .simple _ _ none => rfl
  | .simple _ _ (some c) => rfl
  | .foreign _ _ _ (.error _) => rfl
  | .foreign _ _ _ (.ok none) => rfl
  | .foreign _ _ _ (.ok (some c)) => rfl
  | .other _ => rfl

end CauseTrail
