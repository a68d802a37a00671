import CauseTrail.Calendar.Timestamp
import CauseTrail.Decimal.Shortest
import CauseTrail.Text.Digit
import CauseTrail.Text.Quoted

/-!
# Timestamps as ISO 8601 texts

A timestamp is written with a `T` between date and time, six digits of a second only if they are
not all zero, and the offset to the finest part that is not zero.

A text is read more freely. The date may be written with or without hyphens, and by weeks; any
single character separates it from the time; the time may be written with or without colons and
may stop after any of its parts; a fraction is cut to six digits. Before the offset one ASCII
character that fits nothing is passed over, and so is all that follows six digits of a fraction.

## Main definitions

* `Timestamp.iso`: the text of a timestamp
* `Timestamp.ofIso?`: the timestamp of a text, or what is wrong with the text
-/

namespace CauseTrail

/-- A length of time as the parts that are not zero. -/
def Duration.literal (d : Duration) : String :=
  let parts := (if d.days ≠ 0 then [s!"days={d.days}"] else []) ++
    (if d.seconds ≠ 0 then [s!"seconds={d.seconds}"] else []) ++
    (if d.micros ≠ 0 then [s!"microseconds={d.micros}"] else [])
  "datetime.timedelta(" ++ (if parts = [] then "0" else ", ".intercalate parts) ++ ")"

/-- A date as year, month and day with hyphens between them. -/
def Date.iso (d : Date) : String :=
  padDigits 4 d.year ++ "-" ++ padDigits 2 d.month ++ "-" ++ padDigits 2 d.day

namespace Timestamp

/-- What is wrong with a text that is to be read as a timestamp. -/
inductive ReadError where
  | malformed (text : String)
  | outOfRange (part : Date.RangeError)
  | offset (micros : Int)
deriving DecidableEq, Repr

/-- The wording of a failure to read a timestamp. -/
def ReadError.message : ReadError → String
  | .malformed text => "Invalid isoformat string: " ++ Text.quote text
  | .outOfRange part => part.message
  | .offset micros =>
    "offset must be a timedelta strictly between -timedelta(hours=24) and " ++
      "timedelta(hours=24), not " ++ (Duration.ofMicros micros).literal ++ "."

/-! ## Writing -/

/-- An offset as sign, hours, minutes and the finer parts that are not zero. -/
def offsetText (offset : Int) : String :=
  let n := offset.natAbs
  let seconds := n / 1000000
  let micros := n % 1000000
  let hourMinute := padDigits 2 (seconds / 3600) ++ ":" ++ padDigits 2 (seconds / 60 % 60)
  let second := if seconds % 60 ≠ 0 ∨ micros ≠ 0 then ":" ++ padDigits 2 (seconds % 60) else ""
  let fraction := if micros ≠ 0 then "." ++ padDigits 6 micros else ""
  (if offset < 0 then "-" else "+") ++ hourMinute ++ second ++ fraction

/-- A timestamp with the given character between date and time. -/
def written (separator : String) (t : Timestamp) : String :=
  t.date.iso ++ separator ++ padDigits 2 t.hour ++ ":" ++ padDigits 2 t.minute ++ ":" ++
    padDigits 2 t.second ++ (if t.micro ≠ 0 then "." ++ padDigits 6 t.micro else "") ++
    (t.offset?.map offsetText).getD ""

/-- The text of a timestamp. -/
def iso (t : Timestamp) : String := t.written "T"

/-! ## Reading -/

/-- The number that the first `n` characters make, if they are ASCII digits, and the rest. -/
def digits? : (n : Nat) → (value : Nat) → List Char → Option (Nat × List Char)
  | 0, value, cs => some (value, cs)
  | _ + 1, _, [] => none
  | n + 1, value, c :: cs => do
    let d ← Text.asciiDigit? c
    digits? n (10 * value + d) cs

/-- Where the date ends, judged by the fifth character and those from the sixth on. -/
def dateLength (cs : List Char) : Nat :=
  let isDigit (c : Char) : Bool := (Text.asciiDigit? c).isSome
  match cs.drop 4 with
  -- a week, with the number of a day behind it or without
  | '-' :: 'W' :: more =>
    match more.drop 2 with
    | '-' :: _ :: c :: _ => if isDigit c then 8 else 10
    | '-' :: _ => 10
    | _ => 8
  | '-' :: _ => 10
  | 'W' :: more =>
    -- without hyphens, the count of the digits tells whether a day or the time comes next
    let pos := 7 + ((more.drop 2).takeWhile isDigit).length
    if pos < 9 then pos else if pos % 2 = 0 then 7 else 8
  | _ => 8

/-- Year, month and day of a date. -/
def readDate? (cs : List Char) : Option (Nat × Nat × Nat) := do
  let (year, cs) ← digits? 4 0 cs
  let (hyphens, cs) := match cs with
    | '-' :: cs => (true, cs)
    | cs => (false, cs)
  match cs with
  | 'W' :: cs =>
    let (week, cs) ← digits? 2 0 cs
    match cs with
    | [] => Date.partsOfWeek? year week 1
    | cs =>
      let cs ← hyphen? hyphens cs
      let (weekday, _) ← digits? 1 0 cs
      Date.partsOfWeek? year week weekday
  | cs =>
    let (month, cs) ← digits? 2 0 cs
    let cs ← hyphen? hyphens cs
    let (day, _) ← digits? 2 0 cs
    some (year, month, day)
where
  /-- The characters behind a hyphen where one is called for. -/
  hyphen? (hyphens : Bool) (cs : List Char) : Option (List Char) :=
    if hyphens then
      match cs with
      | '-' :: cs => some cs
      | _ => none
    else some cs

/-- A reading of a clock: hour, minute, second and microsecond. -/
structure Clock where
  hour : Nat
  minute : Nat
  second : Nat
  micro : Nat
deriving DecidableEq, Repr

/-- The fraction of a second, cut to six digits, and whether more follows its digits. -/
def fraction? (cs : List Char) (more : Bool) : Option (Nat × Bool) := do
  let count := min 6 cs.length
  let (value, rest) ← digits? count 0 cs
  let isDigit (c : Char) : Bool := (Text.asciiDigit? c).isSome
  let left := match rest.dropWhile isDigit with
    | [] => more
    | c :: _ => c ≠ '\x00'
  some (value * Nat.pow 10 (6 - count), left)

/-- Reads up to three parts of two digits from `cs`, then a fraction. The first two parts settle
whether colons are used. `more` says that text follows `cs`; the answer says whether something
is left over. -/
def readClock? (cs : List Char) (more : Bool) : Option (Clock × Bool) :=
  part 3 none [] cs
where
  /-- The clock with the parts read so far, the last one first, and a fraction. -/
  clock (parts : List Nat) (micro : Nat) : Clock :=
    match parts with
    | [s, m, h] => ⟨h, m, s, micro⟩
    | [m, h] => ⟨h, m, 0, micro⟩
    | [h] => ⟨h, 0, 0, micro⟩
    | _ => ⟨0, 0, 0, micro⟩
  /-- Reads one part and what stands behind it, then up to `left - 1` more. -/
  part : (left : Nat) → (colons : Option Bool) → List Nat → List Char → Option (Clock × Bool)
    | 0, _, parts, cs => do
      let (micro, left) ← fraction? cs more
      some (clock parts micro, left)
    | left + 1, colons, parts, cs => do
      let (value, cs) ← digits? 2 0 cs
      let parts := value :: parts
      match cs with
      | [] => some (clock parts 0, more)
      -- a single character that is left is passed over if it is ASCII
      | [c] => if c.toNat < 0x80 then some (clock parts 0, c ≠ '\x00') else none
      | c :: cs =>
        let colons := colons.getD (c = ':')
        if colons && c = ':' then part left (some colons) parts cs
        else if c = '.' ∨ c = ',' then do
          let (micro, left) ← fraction? cs more
          some (clock parts micro, left)
        else if colons then none
        else part left (some colons) parts (c :: cs)

/-- Whether an offset starts at the character. -/
def startsOffset (c : Char) : Bool := c = '+' || c = '-' || c = 'Z'

/-- The time of day and the offset of a text. -/
def readTime? (cs : List Char) : Option (Clock × Option Int) := do
  let front := cs.takeWhile fun c => !startsOffset c
  let back := cs.dropWhile fun c => !startsOffset c
  let (time, left) ← readClock? front (back ≠ [])
  match back with
  | [] => if left then none else some (time, none)
  | 'Z' :: rest => if rest = [] ∨ rest.head? = some '\x00' then some (time, some 0) else none
  | sign :: rest =>
    let (zone, left) ← readClock? rest false
    if left then none
    else
      let seconds := zone.hour * 3600 + zone.minute * 60 + zone.second
      -- without a whole second the offset is zero, whatever its fraction
      let size : Int := if seconds = 0 then 0 else seconds * 1000000 + zone.micro
      some (time, some (if sign = '-' then -size else size))

/-- The timestamp of a text. An offset out of range is reported before a date or time that is. -/
def ofIso? (s : String) : Except ReadError Timestamp := do
  let cs := s.toList
  let (front, back) := cs.splitAt (dateLength cs)
  let parts? : Option ((Nat × Nat × Nat) × Clock × Option Int) := do
    let date ← readDate? front
    match back with
    | [] => some (date, ⟨0, 0, 0, 0⟩, none)
    | _ :: time => some (date, ← readTime? time)
  match parts? with
  | none => .error (.malformed s)
  | some ((year, month, day), time, offset?) =>
    if offset?.any fun x => !offsetInRange x then .error (.offset (offset?.getD 0))
    else
      match ofParts? year month day time.hour time.minute time.second time.micro offset? with
      | .ok t => .ok t
      | .error e => .error (.outOfRange e)

end Timestamp

end CauseTrail
