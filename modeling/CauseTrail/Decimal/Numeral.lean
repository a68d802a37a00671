import CauseTrail.Decimal.Binary64
import CauseTrail.Text.Numeral

/-!
# Binary64 numerals

A binary64 number is read from decimal digits with an optional point and exponent, or from a word
for infinity or not-a-number, and sums and products of such numbers are rounded once from the
exact result.

## Main definitions

* `Binary64.ofText?`: the number of a numeral
* `Binary64.neg`, `Binary64.add`, `Binary64.mul`: arithmetic
-/

namespace CauseTrail.Binary64

/-! ## Arithmetic -/

/-- The number with its sign turned. -/
def neg : Binary64 → Binary64
  | nan => nan
  | infinite negative => infinite !negative
  | finite negative m e => finite (!negative) m e

/-- The number nearest to `n * 2 ^ e`; `negativeZero` is the sign of a result that is zero. -/
def ofScaled (negativeZero : Bool) (n : Int) (e : Int) : Binary64 :=
  let negative := if n = 0 then negativeZero else decide (n < 0)
  if 0 ≤ e then ofRatio negative (n.natAbs * Nat.pow 2 e.toNat) 1
  else ofRatio negative n.natAbs (Nat.pow 2 (-e).toNat)

/-- A significand with its sign. -/
def signed (negative : Bool) (m : Nat) : Int := if negative then -(m : Int) else m

/-- The sum of two numbers. -/
def add : Binary64 → Binary64 → Binary64
  | nan, _ | _, nan => nan
  | infinite a, infinite b => if a = b then infinite a else nan
  | infinite a, _ | _, infinite a => infinite a
  | finite a m e, finite b n f =>
    let low := min e f
    ofScaled (a && b)
      (signed a m * Int.pow 2 (e - low).toNat + signed b n * Int.pow 2 (f - low).toNat) low

/-- The product of two numbers. -/
def mul : Binary64 → Binary64 → Binary64
  | nan, _ | _, nan => nan
  | infinite a, infinite b => infinite (a != b)
  | infinite a, finite b n _ | finite b n _, infinite a =>
    if n = 0 then nan else infinite (a != b)
  | finite a m e, finite b n f => ofScaled (a != b) (signed a m * signed b n) (e + f)

/-! ## Reading -/

/-- The leading decimal digits of any script, as their values, and the rest. -/
def takeDigits : List Char → List Nat × List Char
  | [] => ([], [])
  | c :: cs =>
    match Text.digitIn? 10 c with
    | some d => let (ds, rest) := takeDigits cs; (d :: ds, rest)
    | none => ([], c :: cs)

/-- The number of a row of digits. -/
def ofDigits (ds : List Nat) : Nat := ds.foldl (fun n d => 10 * n + d) 0

/-- The exponent at the end of a numeral. -/
def exponent? (cs : List Char) : Option Int :=
  let whole (cs : List Char) : Option Nat :=
    match takeDigits cs with
    | ([], _) | (_, _ :: _) => none
    | (ds, []) => some (ofDigits ds)
  match cs with
  | [] => some 0
  | e :: more =>
    if e = 'e' ∨ e = 'E' then
      match more with
      | '+' :: cs => (whole cs).map Int.ofNat
      | '-' :: cs => (whole cs).map fun n => -Int.ofNat n
      | cs => (whole cs).map Int.ofNat
    else none

/-- The number of a numeral without its sign. -/
def unsigned? (negative : Bool) (cs : List Char) : Option Binary64 :=
  let word := String.ofList (cs.map Char.toLower)
  if word = "inf" ∨ word = "infinity" then some (.infinite negative)
  else if word = "nan" then some .nan
  else
    let (whole, rest) := takeDigits cs
    let (fraction, rest) := match rest with
      | '.' :: rest => takeDigits rest
      | rest => ([], rest)
    if whole = [] ∧ fraction = [] then none
    else (exponent? rest).map fun e =>
      ofDecimal negative (ofDigits (whole ++ fraction)) (e - fraction.length)

/-- The number of a numeral. -/
def ofText? (cs : List Char) : Option Binary64 :=
  match Text.strip cs with
  | '+' :: cs => unsigned? false cs
  | '-' :: cs => unsigned? true cs
  | cs => unsigned? false cs

end CauseTrail.Binary64
