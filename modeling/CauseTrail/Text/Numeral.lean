import CauseTrail.Text.Digit

/-!
# Numerals

An integer is written in digits of a base between two and sixteen. Blanks around it are passed
over; a sign, a prefix for the base, and single underscores between the digits are allowed. Decimal
digits of every script count.

## Main definitions

* `isSpace`, `strip`: the blanks around a numeral
* `integer?`: the integer of a numeral
-/

namespace CauseTrail.Text

/-- Blanks around a numeral: those of ASCII, and beyond it all that are spaces. -/
def isSpace (c : Char) : Bool :=
  c = ' ' || (decide ('\t' ≤ c) && decide (c ≤ '\r')) ||
    [0x85, 0xa0, 0x1680, 0x2028, 0x2029, 0x202f, 0x205f, 0x3000].contains c.toNat ||
    (decide (0x2000 ≤ c.toNat) && decide (c.toNat ≤ 0x200a))

/-- The characters without the blanks around them. -/
def strip (cs : List Char) : List Char :=
  ((cs.dropWhile isSpace).reverse.dropWhile isSpace).reverse

/-- The value of a digit: hexadecimal in ASCII, or decimal of any script, below the base. -/
def digitIn? (base : Nat) (c : Char) : Option Nat :=
  (if c.toNat < 0x80 then hexValue? c else digitValue? c).filter (· < base)

/-- The number of a row of digits with single underscores between them; a digit must come where
one is needed, which is at the beginning and after every underscore. -/
def digits? (base : Nat) : (value : Nat) → (needed : Bool) → List Char → Option Nat
  | value, needed, [] => if needed then none else some value
  | value, needed, c :: cs =>
    if c = '_' then (if needed then none else digits? base value true cs)
    else do
      let d ← digitIn? base c
      digits? base (base * value + d) false cs

/-- The letter that tells a base after a zero of any script. -/
def baseLetter? (base : Nat) : Option Char :=
  if base = 2 then some 'b' else if base = 8 then some 'o' else if base = 16 then some 'x'
  else none

/-- The number of a numeral without sign: a prefix, behind which one underscore may stand, and
digits. -/
def natural? (base : Nat) (cs : List Char) : Option Nat :=
  match cs with
  | zero :: x :: more =>
    if digitIn? base zero = some 0 ∧ baseLetter? base = some x.toLower then
      match more with
      | '_' :: more => digits? base 0 true more
      | more => digits? base 0 true more
    else digits? base 0 true cs
  | cs => digits? base 0 true cs

/-- The integer of a numeral. -/
def integer? (base : Nat) (cs : List Char) : Option Int :=
  match strip cs with
  | '+' :: cs => (natural? base cs).map Int.ofNat
  | '-' :: cs => (natural? base cs).map fun n => -Int.ofNat n
  | cs => (natural? base cs).map Int.ofNat

example : integer? 10 " -1_2\n".toList = some (-12) := by decide
example : integer? 16 "0x_fF".toList = some 255 ∧ integer? 8 "09".toList = none := by decide
example : integer? 16 "\u0660x1\u0662".toList = some 18 := by decide

end CauseTrail.Text
