import CauseTrail.Calendar.Date

/-!
# Timestamps

A timestamp is a date with a time of day to the microsecond, and either an offset from universal
time or none. Two timestamps with offsets are the same when they name the same instant; two
without are the same when they agree in every part; one of each kind never are.

## Main definitions

* `Timestamp`: the type
* `Timestamp.ofParts?`: a timestamp from its numbers, or the part that is out of range
* `Timestamp.same`: the comparison
* `Timestamp.afterMidnight`: a universal time
-/

namespace CauseTrail

/-- A date and a time of day. The offset from universal time is in microseconds. -/
structure Timestamp where
  date : Date
  hour : Nat
  minute : Nat
  second : Nat
  micro : Nat
  offset? : Option Int
deriving DecidableEq, Repr, Inhabited

/-- A length of time as days, seconds of a day and microseconds of a second, only the days being
negative. -/
structure Duration where
  days : Int
  seconds : Nat
  micros : Nat
deriving DecidableEq, Repr

namespace Timestamp

/-- The microseconds of a day. -/
def dayMicros : Int := 86400000000

/-- Offsets lie strictly between minus one day and one day. -/
def offsetInRange (offset : Int) : Bool := decide (-dayMicros < offset ∧ offset < dayMicros)

/-- The timestamp from its parts, or the first of them that is out of range. -/
def ofParts? (year month day hour minute second micro : Nat) (offset? : Option Int) :
    Except Date.RangeError Timestamp := do
  let date ← Date.ofParts? year month day
  if 23 < hour then .error .hour
  else if 59 < minute then .error .minute
  else if 59 < second then .error .second
  else .ok ⟨date, hour, minute, second, micro, offset?⟩

/-- The microseconds from the start of the calendar, without regard to the offset. -/
def localMicros (t : Timestamp) : Int :=
  ((((t.date.ordinal * 24 + t.hour) * 60 + t.minute) * 60 + t.second) * 1000000 + t.micro : Nat)

/-- Whether two timestamps are the same instant, or the same reading of a clock without offset. -/
def same (a b : Timestamp) : Bool :=
  match a.offset?, b.offset? with
  | some x, some y => decide (a.localMicros - x = b.localMicros - y)
  | none, none => decide (a.localMicros = b.localMicros)
  | _, _ => false

/-- The universal time `n` seconds after the midnight that begins `d`. -/
def afterMidnight (d : Date) (n : Nat) : Timestamp :=
  let rest := n % 86400
  let (year, month, day) := Date.partsOfOrdinal (d.ordinal + n / 86400)
  ⟨⟨year, month, day⟩, rest / 3600, rest / 60 % 60, rest % 60, 0, some 0⟩

theorem same_self (t : Timestamp) : t.same t = true := by
  unfold same
  cases t.offset? <;> simp

end Timestamp

/-- Microseconds as days, seconds and microseconds. -/
def Duration.ofMicros (n : Int) : Duration :=
  let inDay := (n % Timestamp.dayMicros).toNat
  ⟨n / Timestamp.dayMicros, inDay / 1000000, inDay % 1000000⟩

end CauseTrail
