import CauseTrail.Event.Basic
import CauseTrail.Fault.Walk
import CauseTrail.TypeName

/-!
# The event of a fault

The event of a fault has one record for each link of its chain, the root cause first, so that a
reader sees what set things off before what was made of it. The whole chain is found before any
link is asked for its texts; then the links are asked from the outermost one inward, for the debug
text before the display text. Nothing is sent, and neither an identifier nor a time is given.

## Main definitions

* `Record.inquire`, `Event.inquire`: the record of one link and the event of a fault, with all
  questions that are put for them
* `Record.ofFault`, `Event.ofFault`: the record and the event alone

## Main results

* `Event.ofFault_eq`: an event is made of a walk and of the records of its links
-/

namespace CauseTrail

/-- A way to find the name of a type in a debug text. -/
abbrev TypeNaming := String → String

namespace Record

/-- The record of one link, without regard to its cause: its debug text is asked for first. -/
def inquire (naming : TypeNaming) (f : Fault) : Inquiry Record := do
  let debug ← f.askDebug
  let display ← f.askDisplay
  return .ofTexts (naming debug) display

/-- The record of one link. -/
def ofFault (naming : TypeNaming) (f : Fault) : Except FaultError Record :=
  (inquire naming f).result

/-- A record is made of two texts, the first of which is asked for first. -/
theorem ofFault_eq (naming : TypeNaming) (f : Fault) : ofFault naming f = do
    let debug ← f.debugText
    let display ← f.displayText
    return .ofTexts (naming debug) display := by
  simp only [ofFault, inquire, Inquiry.result_bind, Inquiry.result_pure, Fault.askDebug,
    Fault.askDisplay, Inquiry.result_ask, Except.pure_eq_ok]

end Record

namespace Event

/-- The event of a fault: first the walk, then the records from the outermost link inward. -/
def inquire (naming : TypeNaming) (follow : Bool) (f : Fault) : Inquiry Event := do
  let links ← f.inquire follow
  let records ← links.mapM fun l => Record.inquire naming l.fault
  return .ofRecords records.reverse .error

/-- The event of a fault. -/
def ofFault (naming : TypeNaming) (follow : Bool) (f : Fault) : Except FaultError Event :=
  (inquire naming follow f).result

/-- An event is made of the links that are walked, all of them before any text is asked for. -/
theorem ofFault_eq (naming : TypeNaming) (follow : Bool) (f : Fault) : ofFault naming follow f = do
    let links ← f.walk follow
    let records ← links.mapM fun l => Record.ofFault naming l.fault
    return .ofRecords records.reverse .error := by
  simp only [ofFault, inquire, Inquiry.result_bind, Inquiry.result_mapM, Inquiry.result_pure,
    Except.pure_eq_ok]
  rfl

/-- The event of a fault, with type names found as usual. -/
def ofFaultDefault (follow : Bool) (f : Fault) : Except FaultError Event :=
  ofFault TypeName.ofDebug follow f

end Event

end CauseTrail
