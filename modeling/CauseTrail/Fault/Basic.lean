import CauseTrail.Fault.Exception

/-!
# Faults

A fault is anything that is handed in to be reported: a raised exception, an error described by
two texts, or a value that is no error at all. An exception links to others in two ways, by an
explicit cause and by the context in which it was raised; any other error links to any fault.

## Main definitions

* `Raised`: an exception with its two links
* `Fault`: the faults
* `Fault.kind`: the name of the kind of a fault, as messages spell it
* `FaultError`: why no event can be made of a fault
* `Fault.debugText`, `Fault.displayText`, `Fault.source?`: what an error answers
-/

namespace CauseTrail

/-- A raised exception with its explicit cause, the exception that was being handled when it was
raised, and whether that context is suppressed. -/
inductive Raised where
  | mk (error : Exception) (cause? context? : Option Raised) (suppressed : Bool)
deriving Repr

/-- Anything that is handed in to be reported. -/
inductive Fault where
  /-- A raised exception. -/
  | raised (r : Raised)
  /-- An error made of two texts and a cause. -/
  | simple (debug display : String) (cause? : Option Fault)
  /-- An error of a foreign kind, which may fail to answer any question. -/
  | foreign (kind : String) (debug display : Answer) (cause : Except Failure (Option Fault))
  /-- A value of the given kind that is no error. -/
  | other (kind : String)
deriving Repr

/-- Why no event can be built of a fault. -/
inductive FaultError where
  /-- The fault, or a cause of it, is a value of the given kind and no error. -/
  | notAnError (kind : String)
  /-- An error raised a failure in place of an answer. -/
  | failed (failure : Failure)
deriving DecidableEq, Repr

/-- The wording of a failure to build an event. -/
def FaultError.message : FaultError → String
  | .notAnError kind =>
    "Cannot capture " ++ Text.quote kind ++ ": expected an exception or an object with " ++
      "debug_text(), display_text() and source()."
  | .failed failure => failure.message

namespace Raised

/-- The exception itself. -/
def error : Raised → Exception
  | mk e _ _ _ => e

/-- The exception that a raised exception links to: its cause, or else, when contexts are
followed and this one is not suppressed, its context. -/
def source? (follow : Bool) : Raised → Option Raised
  | mk _ (some c) _ _ => some c
  | mk _ none (some c) suppressed => if follow && !suppressed then some c else none
  | mk _ none none _ => none

end Raised

namespace Fault

/-- The name of the kind of a fault. -/
def kind : Fault → String
  | raised r => r.error.className
  | simple .. => "SimpleError"
  | foreign kind .. => kind
  | other kind => kind

/-- Whether a fault is an error. -/
def isError : Fault → Bool
  | other _ => false
  | _ => true

/-- What a fault answers for the text for developers, which starts with the name of the type. -/
def debugText : Fault → Except FaultError String
  | raised r => r.error.debug.mapError .failed
  | simple debug _ _ => .ok debug
  | foreign _ debug _ _ => debug.mapError .failed
  | other kind => .error (.notAnError kind)

/-- What a fault answers for the text for people. -/
def displayText : Fault → Except FaultError String
  | raised r => r.error.display.mapError .failed
  | simple _ display _ => .ok display
  | foreign _ _ display _ => display.mapError .failed
  | other kind => .error (.notAnError kind)

/-- The fault that an error names as its cause. -/
def source? (follow : Bool) : Fault → Except FaultError (Option Fault)
  | raised r => .ok ((r.source? follow).map raised)
  | simple _ _ cause? => .ok cause?
  | foreign _ _ _ cause => cause.mapError .failed
  | other kind => .error (.notAnError kind)

end Fault

end CauseTrail
