/-!
# Binary64 numbers

A binary64 number is held as a significand and a power of two, so that reading a decimal, printing
the shortest digits and comparing with an integer are exact arithmetic on natural numbers.

## Main definitions

* `Binary64`: the numbers, with two infinities and one not-a-number
* `Binary64.ofRatio`: the number nearest to a ratio, a tie going to the even significand
* `Binary64.ofDecimal`: the number nearest to a decimal
* `Binary64.toInt?`: the integer that a number is
* `Binary64.equal`: the comparison in which the two zeros agree and not-a-number never does
-/

namespace CauseTrail

/-- A binary64 number. A finite one is `significand * 2 ^ exponent`, with `significand < 2 ^ 53`
and the least exponent that this allows, `-1074` being the least of all. -/
inductive Binary64 where
  | nan
  | infinite (negative : Bool)
  | finite (negative : Bool) (significand : Nat) (exponent : Int)
deriving DecidableEq, Repr, Inhabited

namespace Binary64

/-- The exponent of the numbers next to zero. -/
def leastExponent : Int := -1074

/-- The exponent of the greatest finite numbers. -/
def greatestExponent : Int := 971

/-- The least significand of 53 bits. -/
def leastFull : Nat := 0x10000000000000

/-- The zero of the given sign. -/
def zero (negative : Bool) : Binary64 := .finite negative 0 leastExponent

/-- The quotient of `num` and `den` rounded to the nearest integer, a half going to the even
neighbour. -/
def roundQuotient (num den : Nat) : Nat :=
  let q := num / den
  let r := num % den
  if 2 * r < den then q
  else if 2 * r > den then q + 1
  else if q % 2 = 0 then q else q + 1

/-- The ratio `num / den` divided by `2 ^ e`, as a ratio of natural numbers. -/
def scaled (num den : Nat) (e : Int) : Nat × Nat :=
  if 0 ≤ e then (num, den * Nat.pow 2 e.toNat) else (num * Nat.pow 2 (-e).toNat, den)

/-- The exponent with which the ratio has a significand of 53 bits, or the least exponent. -/
def exponentFor (num den : Nat) : Int :=
  let guess : Int := (num.log2 : Int) - den.log2 - 52
  let (n, d) := scaled num den guess
  max leastExponent (if n / d < leastFull then guess - 1 else guess)

/-- The number nearest to the ratio `num / den`, with the given sign. -/
def ofRatio (negative : Bool) (num den : Nat) : Binary64 :=
  if num = 0 then zero negative
  else
    let e := exponentFor num den
    let (n, d) := scaled num den e
    let m := roundQuotient n d
    -- rounding up may need one more bit
    let (m, e) := if m = 2 * leastFull then (leastFull, e + 1) else (m, e)
    if greatestExponent < e then .infinite negative else .finite negative m e

/-- The number nearest to `digits * 10 ^ exponent`, with the given sign. The powers far outside
the range are settled without computing them. -/
def ofDecimal (negative : Bool) (digits : Nat) (exponent : Int) : Binary64 :=
  if digits = 0 then zero negative
  else if 400 < exponent then .infinite negative
  else if exponent < -(400 + (digits.log2 : Int)) then zero negative
  else if 0 ≤ exponent then ofRatio negative (digits * Nat.pow 10 exponent.toNat) 1
  else ofRatio negative digits (Nat.pow 10 (-exponent).toNat)

/-- The integer that the number is, if it is one. -/
def toInt? : Binary64 → Option Int
  | .finite negative m e =>
    let whole : Option Nat :=
      if 0 ≤ e then some (m * Nat.pow 2 e.toNat)
      else
        let d := Nat.pow 2 (-e).toNat
        if m % d = 0 then some (m / d) else none
    whole.map fun n => if negative then -(n : Int) else n
  | _ => none

/-- Whether the number is a zero of either sign. -/
def isZero : Binary64 → Bool
  | .finite _ 0 _ => true
  | _ => false

/-- Equality of numbers: the two zeros are equal, and not-a-number equals nothing. -/
def equal (x y : Binary64) : Bool :=
  match x, y with
  | .nan, _ | _, .nan => false
  | x, y => decide (x = y) || (x.isZero && y.isZero)

example : ofDecimal false 1 (-1) = .finite false 7205759403792794 (-56) := by decide
example : ofDecimal true 0 5 = .finite true 0 (-1074) := by decide
example : (ofDecimal false 25 (-1)).toInt? = none := by decide
example : (ofDecimal false 25 1).toInt? = some 250 := by decide

end Binary64

end CauseTrail
