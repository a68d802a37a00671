import CauseTrail.Text.Pattern

/-!
# Tags

A tag says what a node is to be read as. A plain scalar without a tag gets the one that its text
calls for: null, a truth value, an integer or another number in one of several notations, a date
or timestamp, the mark of a merge or of a default, and a text otherwise.

## Main definitions

* `Tag`: the tags
* `Tag.ofText`: the tag of a name
* `Tag.ofPlain`: the tag that a text calls for
-/

namespace CauseTrail.Yaml

/-- What a node is to be read as. -/
inductive Tag where
  | null
  | truth
  | integer
  | number
  | binary
  | timestamp
  | orderedPairs
  | pairs
  | set
  | string
  | sequence
  | mapping
  | merge
  | default
  /-- A tag under which nothing is read. -/
  | unknown
deriving DecidableEq, Repr

namespace Tag

/-- What the handle of the common tags stands for. -/
def commonLead : String := "tag:yaml.org,2002:"

/-- The common tags with the ends of their names. -/
def commonNames : List (String × Tag) :=
  [("null", null), ("bool", truth), ("int", integer), ("float", number), ("binary", binary),
    ("timestamp", timestamp), ("omap", orderedPairs), ("pairs", pairs), ("set", set),
    ("str", string), ("seq", sequence), ("map", mapping), ("merge", merge), ("value", default)]

/-- The tag of a name. -/
def ofText (name : String) : Tag :=
  ((commonNames.find? fun t => commonLead ++ t.1 = name).map (·.2)).getD unknown

open Text Text.Pattern

/-- A sign or none. -/
def sign : Pattern := optional (oneOf "-+")

/-- The words for truth values. -/
def truthPattern : Pattern :=
  texts ["yes", "Yes", "YES", "no", "No", "NO", "true", "True", "TRUE", "false", "False", "FALSE",
    "on", "On", "ON", "off", "Off", "OFF"]

/-- Parts of base sixty behind the first one. -/
def sixtieths : Pattern := plus (all [one (· == ':'), optional (oneOf "012345"), digit])

/-- Digits and underscores. -/
def digitsAndUnderscores : Pattern := star (oneOf "0123456789_")

/-- Integers: binary, octal, decimal, hexadecimal and of base sixty. -/
def integerPattern : Pattern :=
  all [sign, anyOf [
    all [text "0b", plus (oneOf "01_")],
    all [text "0", plus (oneOf "01234567_")],
    text "0",
    all [oneOf "123456789", digitsAndUnderscores, optional sixtieths],
    all [text "0x", plus (oneOf "0123456789abcdefABCDEF_")]]]

/-- An exponent with its sign. -/
def exponent : Pattern := optional (all [oneOf "eE", oneOf "-+", plus digit])

/-- Other numbers: with a point, of base sixty with a point, infinities and not-a-number. -/
def numberPattern : Pattern :=
  anyOf [
    all [sign, digit, digitsAndUnderscores, text ".", digitsAndUnderscores, exponent],
    all [text ".", digit, digitsAndUnderscores, exponent],
    all [sign, digit, digitsAndUnderscores, sixtieths, text ".", digitsAndUnderscores],
    all [sign, texts [".inf", ".Inf", ".INF"]],
    texts [".nan", ".NaN", ".NAN"]]

/-- One or two digits. -/
def oneOrTwoDigits : Pattern := all [digit, optional digit]

/-- Dates, and dates with a time of day and an offset. -/
def timestampPattern : Pattern :=
  let year := all [digit, digit, digit, digit, text "-"]
  let twoDigits := all [digit, digit]
  let offset := all [oneOf "-+", oneOrTwoDigits, optional (all [text ":", twoDigits])]
  anyOf [
    all [year, twoDigits, text "-", twoDigits],
    all [year, oneOrTwoDigits, text "-", oneOrTwoDigits,
      alt (oneOf "Tt") (plus (oneOf " \t")),
      oneOrTwoDigits, text ":", twoDigits, text ":", twoDigits,
      optional (all [text ".", star digit]),
      optional (all [star (oneOf " \t"), alt (text "Z") offset])]]

/-- The patterns of plain scalars that are no texts. -/
def plainPatterns : List (Pattern × Tag) :=
  [(truthPattern, truth), (numberPattern, number), (integerPattern, integer),
    (text "<<", merge), (texts ["~", "null", "Null", "NULL", ""], null),
    (timestampPattern, timestamp), (text "=", default), (texts ["!", "&", "*"], unknown)]

/-- The text that decides about a tag: a line end at the end of others does not count. -/
def decisive (cs : List Char) : List Char :=
  if cs.length > 1 ∧ cs.getLast? = some '\n' then cs.dropLast else cs

/-- The tag that the text of a plain scalar calls for. -/
def ofPlain (s : String) : Tag :=
  ((plainPatterns.find? fun p => p.1.accepts (decisive s.toList)).map (·.2)).getD string

example : ofPlain "1_000" = integer ∧ ofPlain "1e3" = string ∧ ofPlain "1.5e+3" = number := by
  decide +kernel
example : ofPlain "2024-1-2 3:04:05 +01:30" = timestamp ∧ ofPlain "-1:30" = integer := by
  decide +kernel

end Tag

end CauseTrail.Yaml
