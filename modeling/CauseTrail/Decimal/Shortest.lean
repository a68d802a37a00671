import CauseTrail.Decimal.Binary64

/-!
# The fewest digits that read back

A binary64 number is shown with the fewest decimal digits whose nearest binary64 number it is, and
among the decimals of that length with the one nearest to it. On each grid of decimals with a
given number of digits only the two neighbours of the number can be nearest, so the search looks
at those two, on finer and finer grids; seventeen digits always suffice.

## Main definitions

* `Decimal`: digits and a power of ten
* `Binary64.shortest`: the shortest decimal of a positive number
* `FloatFormat`: how a decimal is laid out as text
* `Binary64.text`: the text of a number
-/

namespace CauseTrail

/-- The decimal `digits * 10 ^ exponent`. -/
structure Decimal where
  digits : Nat
  exponent : Int
deriving DecidableEq, Repr

namespace Decimal

/-- Trailing zeros of the digits moved into the exponent, at most `fuel` of them. -/
def strip : (fuel : Nat) → Decimal → Decimal
  | 0, d => d
  | fuel + 1, d =>
    if d.digits ≠ 0 ∧ d.digits % 10 = 0 then strip fuel ⟨d.digits / 10, d.exponent + 1⟩ else d

end Decimal

namespace Binary64

/-- How `a * 10 ^ p` and `b * 2 ^ e` compare. -/
def compareScaled (a : Nat) (p : Int) (b : Nat) (e : Int) : Ordering :=
  compare (a * Nat.pow 10 p.toNat * Nat.pow 2 (-e).toNat)
    (b * Nat.pow 2 e.toNat * Nat.pow 10 (-p).toNat)

/-- The numbers, in quarters of the unit of the last place, that bound the reals which round to
`m * 2 ^ e`: below a power of two the neighbours are twice as close. -/
def bounds (m : Nat) (e : Int) : Nat × Nat :=
  (if m = leastFull ∧ leastExponent < e then 4 * m - 1 else 4 * m - 2, 4 * m + 2)

/-- Whether `a * 10 ^ p` rounds to `m * 2 ^ e`; the bounds themselves do when `m` is even. -/
def roundsTo (m : Nat) (e : Int) (a : Nat) (p : Int) : Bool :=
  let (lo, hi) := bounds m e
  let low := compareScaled a p lo (e - 2)
  let high := compareScaled a p hi (e - 2)
  if m % 2 = 0 then low.isGE && high.isLE else low.isGT && high.isLT

/-- The power of ten just above `m * 2 ^ e`: the least `k` with `m * 2 ^ e < 10 ^ k`. -/
def decimalPoint (m : Nat) (e : Int) : Int :=
  let guess : Int := ((m.log2 : Int) + e) * 30103 / 100000
  -- the guess is by logarithms of two, and low by a few steps at most
  let up (k : Int) : Int := if (compareScaled 1 k m e).isLE then k + 1 else k
  up (up (up (guess - 1)))

/-- The decimal with `count` digits that is nearest to `m * 2 ^ e` and rounds to it, if one does;
`point` is the power of ten just above the number. -/
def onGrid? (m : Nat) (e point : Int) (count : Nat) : Option Decimal :=
  let p := point - count
  let num := m * Nat.pow 2 e.toNat * Nat.pow 10 (-p).toNat
  let den := Nat.pow 10 p.toNat * Nat.pow 2 (-e).toNat
  let below := num / den
  let above := below + 1
  -- the nearest decimal may miss the interval where the other neighbour does not
  let nearest := roundQuotient num den
  let other := if nearest = below then above else below
  let ok (a : Nat) : Bool := a ≠ 0 && roundsTo m e a p
  if ok nearest then some ⟨nearest, p⟩ else if ok other then some ⟨other, p⟩ else none

/-- The shortest decimal that reads back as `m * 2 ^ e`, for a positive `m`. -/
def shortest (m : Nat) (e : Int) : Decimal :=
  let point := decimalPoint m e
  let found := (List.range 17).findSome? fun n => onGrid? m e point (n + 1)
  (found.getD ⟨m, 0⟩).strip 20

end Binary64

/-- How the text of a number is laid out. -/
structure FloatFormat where
  /-- The text of not-a-number. -/
  nan : String
  /-- The text of infinity. -/
  infinity : String
  /-- The least and the greatest power of ten of a first digit that is written positionally. -/
  positionalFrom : Int
  positionalTo : Int
  /-- The least number of digits in an exponent. -/
  exponentWidth : Nat

/-- The digits of a number, filled with zeros on the left up to `width`. -/
def padDigits (width n : Nat) : String :=
  let s := toString n
  String.ofList (List.replicate (width - s.length) '0') ++ s

namespace FloatFormat

/-- A decimal without an exponent; a whole number ends in a point and a zero. -/
def positional (d : Decimal) : String :=
  let s := toString d.digits
  if 0 ≤ d.exponent then
    s ++ String.ofList (List.replicate d.exponent.toNat '0') ++ ".0"
  else
    let places := (-d.exponent).toNat
    let padded := padDigits (places + 1) d.digits
    let cut := padded.length - places
    String.ofList (padded.toList.take cut) ++ "." ++ String.ofList (padded.toList.drop cut)

/-- A decimal with one digit before the point and a signed exponent. -/
def scientific (f : FloatFormat) (d : Decimal) : String :=
  let s := (toString d.digits).toList
  let power : Int := d.exponent + (s.length : Int) - 1
  let sign := if power < 0 then "-" else "+"
  let mantissa := match s with
    | [] => ""
    | [c] => String.ofList [c]
    | c :: cs => String.ofList (c :: '.' :: cs)
  mantissa ++ "e" ++ sign ++ padDigits f.exponentWidth power.natAbs

/-- The text of a positive decimal. -/
def decimalText (f : FloatFormat) (d : Decimal) : String :=
  let power : Int := d.exponent + ((toString d.digits).length : Int) - 1
  if f.positionalFrom ≤ power ∧ power ≤ f.positionalTo then positional d else f.scientific d

end FloatFormat

/-- The text of a number in the given format. -/
def Binary64.text (f : FloatFormat) : Binary64 → String
  | .nan => f.nan
  | .infinite negative => (if negative then "-" else "") ++ f.infinity
  | .finite negative 0 _ => (if negative then "-" else "") ++ "0.0"
  | .finite negative m e =>
    (if negative then "-" else "") ++ f.decimalText (Binary64.shortest m e)

end CauseTrail
