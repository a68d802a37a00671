import CauseTrail.Calendar.Iso
import CauseTrail.Decimal.Numeral
import CauseTrail.Json.Reader
import CauseTrail.Value.Basic
import CauseTrail.Yaml.Tag

/-!
# The values of scalars

A scalar with a tag is read in the notation of that tag. Under a tag that a text called for itself
this can fail only for a number of impossible size or a date that does not exist; under a tag that
was written it fails for any text that is not in the notation.

## Main definitions

* `ReadError`: why a document has no value
* `integerOf`, `numberOf`, `truthOf`, `timestampOf`, `bytesOf`: the readers
-/

namespace CauseTrail.Yaml

/-- Why a document has no value. -/
inductive ReadError where
  /-- The text is not a document, or the document is not one of values. -/
  | malformed
  /-- The number of an escaped character is too great. -/
  | character (number : Nat)
  | integer (base : Nat) (text : String)
  /-- An integer has too many digits. -/
  | digits (count : Nat)
  | number (text : String)
  | truth (text : String)
  /-- A number is missing. -/
  | empty
  | timestamp
  | range (part : Date.RangeError)
  | offset (micros : Int)
deriving DecidableEq, Repr

/-- The wording of a failure. -/
def ReadError.message : ReadError → String
  | .malformed => "not a well-formed document"
  | .character n =>
    if n < 0x80000000 then "chr() arg not in range(0x110000)"
    else "Python int too large to convert to C int"
  | .integer base text => s!"invalid literal for int() with base {base}: " ++ Text.quote text
  | .digits count => Json.tooManyDigits count
  | .number text => "could not convert string to float: " ++ Text.quote text
  | .truth text => Text.quote text
  | .empty => "string index out of range"
  | .timestamp => "'NoneType' object has no attribute 'groupdict'"
  | .range part => part.message
  | .offset micros => (Timestamp.ReadError.offset micros).message

/-! ## Numbers -/

/-- The sign of a number and what follows it. -/
def takeSign : List Char → Bool × List Char
  | '-' :: cs => (true, cs)
  | '+' :: cs => (false, cs)
  | cs => (false, cs)

/-- The integer of a numeral; in base ten it may have 4300 digits. -/
def readInteger (base : Nat) (cs : List Char) : Except ReadError Int :=
  match Text.integer? base cs with
  | none => .error (.integer base (String.ofList cs))
  | some n =>
    let count := cs.countP fun c => (Text.digitIn? 10 c).isSome
    if base = 10 ∧ Text.maxDigits < count then .error (.digits count) else .ok n

/-- The pieces of a text between its colons. -/
def atColons : List Char → List (List Char)
  | [] => [[]]
  | c :: cs =>
    if c = ':' then [] :: atColons cs
    else
      match atColons cs with
      | [] => [[c]]
      | p :: ps => (c :: p) :: ps

/-- The integer of a scalar: the beginning tells the base, and colons set apart the parts of one in
base sixty. -/
def integerOf (s : String) : Except ReadError Int :=
  let (negative, cs) := takeSign (s.toList.filter (· ≠ '_'))
  let signed (n : Int) : Int := if negative then -n else n
  match cs with
  | [] => .error .empty
  | ['0'] => .ok 0
  | '0' :: 'b' :: more => signed <$> readInteger 2 more
  | '0' :: 'x' :: more => signed <$> readInteger 16 more
  | '0' :: _ => signed <$> readInteger 8 cs
  | _ => do
    let parts ← (atColons cs).mapM (readInteger 10)
    return signed (parts.foldl (fun n p => 60 * n + p) 0)

/-- The number of a numeral. -/
def readNumber (cs : List Char) : Except ReadError Binary64 :=
  match Binary64.ofText? cs with
  | some x => .ok x
  | none => .error (.number (String.ofList cs))

/-- The sum of the parts of a number in base sixty, the last part first. -/
def sumOfSixtieths : (base : Nat) → Binary64 → List Binary64 → Binary64
  | _, sum, [] => sum
  | base, sum, x :: xs =>
    sumOfSixtieths (60 * base) (sum.add (x.mul (Binary64.ofRatio false base 1))) xs

/-- The number of a scalar. -/
def numberOf (s : String) : Except ReadError Binary64 := do
  let cs := (s.toList.filter (· ≠ '_')).map Char.toLower
  if cs = [] then .error .empty
  else
    let (negative, cs) := takeSign cs
    let x ←
      if cs = ".inf".toList then pure (Binary64.infinite false)
      else if cs = ".nan".toList then pure Binary64.nan
      else if cs.contains ':' then do
        let parts ← (atColons cs).mapM readNumber
        pure (sumOfSixtieths 1 (Binary64.zero false) parts.reverse)
      else readNumber cs
    return if negative then x.neg else x

/-! ## Truth values -/

/-- The truth value of a scalar. -/
def truthOf (s : String) : Except ReadError Bool :=
  let word := String.ofList (s.toList.map Char.toLower)
  if ["yes", "true", "on"].contains word then .ok true
  else if ["no", "false", "off"].contains word then .ok false
  else .error (.truth word)

/-! ## Timestamps -/

/-- The number of the leading digits, of which there are at least `least` and count at most `most`,
and what follows them. -/
def takeNumber (least most : Nat) (cs : List Char) : Option (Nat × List Char) :=
  let ds := (cs.take most).takeWhile fun c => (Text.asciiDigit? c).isSome
  if ds.length < least then none
  else some (ds.foldl (fun n c => 10 * n + (Text.asciiDigit? c).getD 0) 0, cs.drop ds.length)

/-- What follows a given character. -/
def after (c : Char) : List Char → Option (List Char)
  | d :: cs => if c = d then some cs else none
  | [] => none

/-- The microseconds of a fraction, of which six digits count, and what follows it. -/
def takeFraction (cs : List Char) : Nat × List Char :=
  match cs with
  | '.' :: cs =>
    let ds := cs.takeWhile fun c => (Text.asciiDigit? c).isSome
    let six := (ds ++ "000000".toList).take 6
    (six.foldl (fun n c => 10 * n + (Text.asciiDigit? c).getD 0) 0, cs.drop ds.length)
  | cs => (0, cs)

/-- The offset at the end of a timestamp, in microseconds; the outer `none` is for a text that is
no offset. -/
def offset? (cs : List Char) : Option (Option Int) :=
  match cs with
  | [] => some none
  | _ =>
    match cs.dropWhile fun c => c = ' ' || c = '\t' with
    | ['Z'] => some (some 0)
    | sign :: more => do
      if sign ≠ '+' ∧ sign ≠ '-' then none
      else
        let (hours, more) ← takeNumber 1 2 more
        let minutes ← match more with
          | [] => some 0
          | _ => do
            let (m, more) ← takeNumber 2 2 (← after ':' more)
            if more = [] then some m else none
        let micros : Int := (hours * 60 + minutes) * 60000000
        return some (if sign = '-' then -micros else micros)
    | [] => none

/-- A date, with a time of day and an offset where these are written. -/
structure TimestampParts where
  year : Nat
  month : Nat
  day : Nat
  /-- Hour, minute, second, microsecond and offset. -/
  time? : Option (Nat × Nat × Nat × Nat × Option Int)

/-- The parts of a timestamp. -/
def timestampParts? (cs : List Char) : Option TimestampParts := do
  let (year, cs) ← takeNumber 4 4 cs
  let (month, cs) ← takeNumber 1 2 (← after '-' cs)
  let (day, cs) ← takeNumber 1 2 (← after '-' cs)
  match cs with
  | [] => return ⟨year, month, day, none⟩
  | c :: more =>
    let cs ← if c = 'T' ∨ c = 't' then some more
      else if c = ' ' ∨ c = '\t' then some (more.dropWhile fun c => c = ' ' || c = '\t')
      else none
    let (hour, cs) ← takeNumber 1 2 cs
    let (minute, cs) ← takeNumber 2 2 (← after ':' cs)
    let (second, cs) ← takeNumber 2 2 (← after ':' cs)
    let (micro, cs) := takeFraction cs
    let zone? ← offset? cs
    return ⟨year, month, day, some (hour, minute, second, micro, zone?)⟩

/-- The date or timestamp of a scalar. -/
def timestampOf (s : String) : Except ReadError Value :=
  match timestampParts? (Tag.decisive s.toList) with
  | none => .error .timestamp
  | some ⟨year, month, day, none⟩ =>
    ((Date.ofParts? year month day).map Value.date).mapError .range
  | some ⟨year, month, day, some (hour, minute, second, micro, offset?)⟩ =>
    match offset?.filter (!Timestamp.offsetInRange ·) with
    | some micros => .error (.offset micros)
    | none =>
      ((Timestamp.ofParts? year month day hour minute second micro offset?).map
        Value.timestamp).mapError .range

/-! ## Bytes -/

/-- The six bits that a character stands for. -/
def sixBits? (c : Char) : Option Nat :=
  if 'A' ≤ c ∧ c ≤ 'Z' then some (c.toNat - 'A'.toNat)
  else if 'a' ≤ c ∧ c ≤ 'z' then some (c.toNat - 'a'.toNat + 26)
  else if '0' ≤ c ∧ c ≤ '9' then some (c.toNat - '0'.toNat + 52)
  else if c = '+' then some 62
  else if c = '/' then some 63
  else none

/-- The bytes of six-bit characters. `count` characters of a group of four were read, of which
`left` are the bits not yet used, and `pads` padding characters followed them. Characters that
stand for nothing are passed over; padding that completes a group ends the text. -/
def bytesFrom : (count left pads : Nat) → List Char → Option (List UInt8)
  | count, _, _, [] => if count = 0 then some [] else none
  | count, left, pads, c :: cs =>
    if c = '=' then
      if 2 ≤ count then
        if 4 ≤ count + pads + 1 then some [] else bytesFrom count left (pads + 1) cs
      else bytesFrom count left pads cs
    else
      match sixBits? c with
      | none => bytesFrom count left pads cs
      | some b =>
        match count with
        | 0 => bytesFrom 1 b 0 cs
        | 1 => ((left * 4 + b / 16).toUInt8 :: ·) <$> bytesFrom 2 (b % 16) 0 cs
        | 2 => ((left * 16 + b / 4).toUInt8 :: ·) <$> bytesFrom 3 (b % 4) 0 cs
        | _ => ((left * 64 + b).toUInt8 :: ·) <$> bytesFrom 0 0 0 cs

/-- The bytes of a scalar. -/
def bytesOf (s : String) : Except ReadError (List UInt8) :=
  if s.toList.any (0x80 ≤ ·.toNat) then .error .malformed
  else
    match bytesFrom 0 0 0 s.toList with
    | some bytes => .ok bytes
    | none => .error .malformed

example : (integerOf "-1:30").toOption = some (-90) := by decide +kernel
example : (bytesOf "aGk=").toOption = some [0x68, 0x69] := by decide +kernel

end CauseTrail.Yaml
