import CauseTrail.Text.Digit
import CauseTrail.Text.Printable

/-!
# Quoted texts

A text is quoted between single quotes, or between double quotes when it holds a single quote and
no double one. The backslash, the quote in use, line feed, carriage return and tab are escaped by
a backslash; any other character that is not printable is written by its number, in the shortest
of three forms.

## Main definitions

* `quoteMark`: the quote that a text calls for
* `escapeChar`: a character between quotes
* `quote`: a quoted text
* `quoteBytes`: a quoted string of bytes
-/

namespace CauseTrail.Text

/-- The quote that a text is put between. -/
def quoteMark (cs : List Char) : Char :=
  if cs.contains '\'' && !cs.contains '"' then '"' else '\''

/-- The escape of a character by its number: two, four or eight hexadecimal digits. -/
def numberEscape (n : Nat) : List Char :=
  if n < 0x100 then '\\' :: 'x' :: hexDigits 2 n
  else if n < 0x10000 then '\\' :: 'u' :: hexDigits 4 n
  else '\\' :: 'U' :: hexDigits 8 n

/-- The escapes that a backslash and a letter make, and the backslash itself. -/
def shortEscape? (c : Char) : Option Char :=
  if c = '\\' then some '\\'
  else if c = '\n' then some 'n'
  else if c = '\r' then some 'r'
  else if c = '\t' then some 't'
  else none

/-- A character as it stands between two quotes `mark`. -/
def escapeChar (mark c : Char) : List Char :=
  match shortEscape? c with
  | some e => ['\\', e]
  | none =>
    if c = mark then ['\\', c]
    else if isPrintable c then [c]
    else numberEscape c.toNat

/-- A text between quotes. -/
def quote (s : String) : String :=
  let cs := s.toList
  let mark := quoteMark cs
  String.ofList (mark :: cs.flatMap (escapeChar mark) ++ [mark])

/-- A byte as it stands between two quotes `mark`: only ASCII is shown as itself. -/
def escapeByte (mark : Char) (b : UInt8) : List Char :=
  let c := Char.ofNat b.toNat
  match shortEscape? c with
  | some e => ['\\', e]
  | none =>
    if c = mark then ['\\', c]
    else if 0x20 ≤ b ∧ b < 0x7f then [c]
    else '\\' :: 'x' :: hexDigits 2 b.toNat

/-- A string of bytes between quotes, after the letter that marks it. -/
def quoteBytes (bs : List UInt8) : String :=
  let mark := quoteMark (bs.map fun b => Char.ofNat b.toNat)
  String.ofList ('b' :: mark :: bs.flatMap (escapeByte mark) ++ [mark])

example : quote "it's" = "\"it's\"" := by decide
example : quote "a\tb\\" = "'a\\tb\\\\'" := by decide

end CauseTrail.Text
