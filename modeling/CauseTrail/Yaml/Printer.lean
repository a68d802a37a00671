import CauseTrail.Text.Quoted
import CauseTrail.Value.Literal
import CauseTrail.Yaml.Tag

/-!
# Writing YAML

A mapping of names to texts, truth values and nulls is written with one entry after the other. A
text is written as it is where that reads back as the same text; otherwise it is put between single
quotes, and between double quotes with escapes if it holds characters that are not plain ASCII or
blanks beside a line end. A text that reaches beyond a width goes on, indented, in the next line.

## Main definitions

* `Yaml.Style`, `Yaml.styleOf`: how a text is written
* `Yaml.writeText`, `Yaml.writeEntry`, `Yaml.write`: writing
-/

namespace CauseTrail.Yaml

/-- How a text is written. -/
inductive Style where
  | plain
  | single
  | double
deriving DecidableEq, Repr

/-! ## The choice of a style -/

/-- Whether a character is written in double quotes only. -/
def isSpecial (c : Char) : Bool := c ≠ '\n' && (c < ' ' || '~' < c)

/-- Whether a character separates words or lines. -/
def separates (c : Char) : Bool := c = ' ' || c = '\n'

/-- Whether a blank and a line end stand side by side. -/
def blankAtBreak : List Char → Bool
  | c :: d :: cs => (separates c && separates d && c ≠ d) || blankAtBreak (d :: cs)
  | _ => false

/-- Whether a word ends here. -/
def atWordEnd (cs : List Char) : Bool := (cs.head?.map separates).getD true

/-- Whether a text begins like a mark of another notation. -/
def beginsWithMark (cs : List Char) : Bool :=
  "---".toList.isPrefixOf cs || "...".toList.isPrefixOf cs ||
  match cs with
  | [] => false
  | c :: cs =>
    "#,[]\x7b\x7d&*!|>'\"%@`".toList.contains c || ("?-".toList.contains c && atWordEnd cs)

/-- Whether a colon at the end of a word or a number sign at the beginning of one is in a text. -/
def holdsMark : (wordBegins : Bool) → List Char → Bool
  | _, [] => false
  | wordBegins, c :: cs =>
    (c = ':' && atWordEnd cs) || (c = '#' && wordBegins) || holdsMark (separates c) cs

/-- Whether a text begins or ends with a blank or a line end. -/
def looseEnds (cs : List Char) : Bool := cs.head?.any separates || cs.getLast?.any separates

/-- Whether a text reads back as itself when it is written as it is. -/
def isBare (cs : List Char) : Bool :=
  !looseEnds cs && !cs.contains '\n' && !beginsWithMark cs && !holdsMark true cs &&
    Tag.ofPlain (String.ofList cs) = .string

/-- How a text is written. -/
def styleOf (cs : List Char) : Style :=
  if cs.any isSpecial || blankAtBreak cs then .double
  else if isBare cs then .plain
  else .single

/-! ## Lines -/

/-- The column behind which a text goes on in the next line. -/
def width : Nat := 80

/-- What the next line of a text begins with. -/
def indentation : List Char := "  ".toList

/-- The column at which the next line of a text begins. -/
def indent : Nat := indentation.length

/-- A text from `column` on as it is written without quotes, or between single quotes when
`quoted`. A single blank between words may become the end of a line, and each run of line ends has
one more. `previous` is the character before, a blank at the beginning. -/
def foldedFrom (quoted : Bool) : (column : Nat) → (previous : Char) → List Char → List Char
  | _, _, [] => []
  | column, previous, c :: cs =>
    if c = ' ' then
      let alone := previous ≠ ' ' && cs.head?.any (· ≠ ' ')
      if alone && width < column then '\n' :: indentation ++ foldedFrom quoted indent c cs
      else c :: foldedFrom quoted (column + 1) c cs
    else if c = '\n' then
      let first := if previous = '\n' then [] else ['\n']
      let last := if cs.head? = some '\n' then [] else indentation
      first ++ '\n' :: last ++ foldedFrom quoted indent c cs
    else if quoted && c = '\'' then c :: c :: foldedFrom quoted (column + 2) c cs
    else c :: foldedFrom quoted (column + 1) c cs

/-- The letters of the short escapes. -/
def escapeLetters : List (Char × Char) :=
  [('\x00', '0'), ('\x07', 'a'), ('\x08', 'b'), ('\t', 't'), ('\n', 'n'), ('\x0b', 'v'),
    ('\x0c', 'f'), ('\r', 'r'), ('\x1b', 'e'), ('"', '"'), ('\\', '\\'), ('\u0085', 'N'),
    ('\u00a0', '_'), ('\u2028', 'L'), ('\u2029', 'P')]

/-- Hexadecimal digits with capital letters. -/
def capitalDigits (count n : Nat) : List Char := (Text.hexDigits count n).map Char.toUpper

/-- The escape of a character between double quotes, if it has one. -/
def escapeOf? (c : Char) : Option (List Char) :=
  match escapeLetters.lookup c with
  | some letter => some ['\\', letter]
  | none =>
    let n := c.toNat
    if ' ' ≤ c ∧ c ≤ '~' then none
    else if n < 0x100 then some ('\\' :: 'x' :: capitalDigits 2 n)
    else if n < 0x10000 then some ('\\' :: 'u' :: capitalDigits 4 n)
    else some ('\\' :: 'U' :: capitalDigits 8 n)

/-- The end of a line between double quotes, and the beginning of the next one: a blank at its
beginning is marked as part of the text. -/
def brokenLine (next? : Option Char) : List Char :=
  '\\' :: '\n' :: indentation ++ if next? = some ' ' then ['\\'] else []

/-- The column behind `brokenLine`. -/
def columnAfterBreak (next? : Option Char) : Nat := if next? = some ' ' then indent + 1 else indent

/-- A text from `column` on as it is written between double quotes. A line may end before a blank
and on either side of an escape, but neither before the first nor around the last character.
`first` tells whether the character is the first one, and `escaped` whether an escape comes
before. -/
def escapedFrom : (first escaped : Bool) → (column : Nat) → List Char → List Char
  | _, _, _, [] => []
  | first, escaped, column, c :: cs =>
    let inside := !first && cs ≠ []
    match escapeOf? c with
    | some word =>
      let column := column + word.length
      if inside && width + 1 < column then
        word ++ brokenLine cs.head? ++ escapedFrom false true (columnAfterBreak cs.head?) cs
      else word ++ escapedFrom false true column cs
    | none =>
      if inside && (c = ' ' || escaped) && width < column then
        brokenLine (some c) ++ c :: escapedFrom false false (columnAfterBreak (some c) + 1) cs
      else c :: escapedFrom false false (column + 1) cs

/-! ## Writing -/

/-- A text written from `column` on. -/
def writeText (column : Nat) (cs : List Char) : List Char :=
  match styleOf cs with
  | .plain => foldedFrom false column ' ' cs
  | .single => '\'' :: foldedFrom true (column + 1) ' ' cs ++ ['\'']
  | .double => '"' :: escapedFrom true false (column + 1) cs ++ ['"']

/-- A value written from `column` on: all that is neither null nor a truth value as its plain
text. -/
def writeScalar (column : Nat) : Value → List Char
  | .null => "null".toList
  | .bool b => (if b then "true" else "false").toList
  | v => writeText column v.plain.toList

/-- An entry in a line of its own. -/
def writeEntry (e : Value × Value) : List Char :=
  let name := writeScalar 0 e.1
  name ++ ':' :: ' ' :: writeScalar (name.length + 2) e.2 ++ ['\n']

/-- A mapping with one entry after the other. -/
def write (m : Mapping) : String := String.ofList (List.flatMap writeEntry m)

example : styleOf "it's".toList = .plain ∧ styleOf "".toList = .single ∧
    styleOf "a: b".toList = .single ∧ styleOf "é".toList = .double := by decide +kernel
example : write [(.text "a", .text "two\nlines"), (.text "b", .null)] =
    "a: 'two\n\n  lines'\nb: null\n" := by decide +kernel

end CauseTrail.Yaml
