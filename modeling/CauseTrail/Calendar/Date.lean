/-!
# Dates

Days of the proleptic Gregorian calendar in the years 1 to 9999, and the weeks of that calendar:
the first week of a year is the one that holds its first Thursday.

## Main definitions

* `Date`: a day
* `Date.ordinal`: the days since the day before 1 January of the year 1
* `Date.ofParts?`: a day from its three numbers, or the number that is out of range
* `Date.ofWeek?`: a day from year, week and weekday
-/

namespace CauseTrail

/-- A day of the calendar. -/
structure Date where
  year : Nat
  month : Nat
  day : Nat
deriving DecidableEq, Repr, Inhabited

namespace Date

/-- The parts of a date or of a time of day that can be out of range. -/
inductive RangeError where
  | year (n : Nat)
  | month
  | day
  | hour
  | minute
  | second
deriving DecidableEq, Repr

/-- The wording of a part that is out of range. -/
def RangeError.message : RangeError → String
  | .year n => s!"year {n} is out of range"
  | .month => "month must be in 1..12"
  | .day => "day is out of range for month"
  | .hour => "hour must be in 0..23"
  | .minute => "minute must be in 0..59"
  | .second => "second must be in 0..59"

/-- Whether a year has 366 days. -/
def isLeap (year : Nat) : Bool :=
  year % 4 = 0 && (year % 100 ≠ 0 || year % 400 = 0)

/-- The days of a month. -/
def daysInMonth (year month : Nat) : Nat :=
  if month = 2 then (if isLeap year then 29 else 28)
  else if month = 4 ∨ month = 6 ∨ month = 9 ∨ month = 11 then 30
  else 31

/-- The days of the years before `year`. -/
def daysBeforeYear (year : Nat) : Nat :=
  let y := year - 1
  y * 365 + y / 4 - y / 100 + y / 400

/-- The days of the year before the first of `month`. -/
def daysBeforeMonth (year month : Nat) : Nat :=
  (List.range (month - 1)).foldl (fun days m => days + daysInMonth year (m + 1)) 0

/-- The number of a day, 1 January of the year 1 being the first. -/
def ordinal (d : Date) : Nat :=
  daysBeforeYear d.year + daysBeforeMonth d.year d.month + d.day

/-- The day from its parts, or the first of them that is out of range. -/
def ofParts? (year month day : Nat) : Except RangeError Date :=
  if year < 1 ∨ 9999 < year then .error (.year year)
  else if month < 1 ∨ 12 < month then .error .month
  else if day < 1 ∨ daysInMonth year month < day then .error .day
  else .ok ⟨year, month, day⟩

/-- The month and day of the `n`-th day of a year, counted from one, starting at `month`. -/
def monthAndDay (year : Nat) : (fuel month n : Nat) → Nat × Nat
  | 0, month, n => (month, n)
  | fuel + 1, month, n =>
    let days := daysInMonth year month
    if n ≤ days then (month, n) else monthAndDay year fuel (month + 1) (n - days)

/-- The year of an ordinal, its first guess being at most one too great. -/
def yearOfOrdinal (n : Nat) : Nat :=
  let guess := (n * 400) / 146097 + 1
  if n ≤ daysBeforeYear guess then guess - 1
  else if daysBeforeYear (guess + 1) < n then guess + 1
  else guess

/-- The year, month and day of an ordinal. -/
def partsOfOrdinal (n : Nat) : Nat × Nat × Nat :=
  let year := yearOfOrdinal n
  let (month, day) := monthAndDay year 11 1 (n - daysBeforeYear year)
  (year, month, day)

/-- The ordinal of the Monday that starts the first week of a year, which lies between three days
before and three days after 1 January. -/
def firstMonday (year : Nat) : Int :=
  let first : Int := daysBeforeYear year + 1
  let weekday := (first + 6) % 7
  if weekday ≤ 3 then first - weekday else first - weekday + 7

/-- Whether a year has 53 weeks: its 1 January is a Thursday, or a Wednesday of a leap year. -/
def hasLongYear (year : Nat) : Bool :=
  let weekday := (daysBeforeYear year + 1 + 6) % 7
  weekday = 3 || (weekday = 2 && isLeap year)

/-- The year, month and day of a weekday of a week; `none` if there is no such week or weekday.
The weeks of a year 0 lie before the calendar and are given no month. -/
def partsOfWeek? (year week weekday : Nat) : Option (Nat × Nat × Nat) :=
  if week < 1 ∨ 53 < week ∨ (week = 53 ∧ (year = 0 ∨ ¬hasLongYear year)) then none
  else if weekday < 1 ∨ 7 < weekday then none
  else if year = 0 then some (1, 0, 0)
  else
    let n : Int := firstMonday year + (week - 1) * 7 + (weekday - 1)
    some (partsOfOrdinal n.toNat)

example : partsOfOrdinal (Date.mk 2024 12 31).ordinal = (2024, 12, 31) := by decide
example : partsOfWeek? 2024 1 1 = some (2024, 1, 1) := by decide

end Date

end CauseTrail
