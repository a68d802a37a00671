import CauseTrail.Calendar.Iso
import CauseTrail.Text.Quoted
import CauseTrail.Value.Basic

/-!
# Values as texts

A value has two texts. Its literal shows its structure: texts are quoted, `None`, `True` and
`False` stand for null and the truth values, and a date or timestamp names its parts. Its plain
text is the same except that a text stands for itself and a date or timestamp is written in the
ISO form.

Every integer has a text here. Where an integer of more digits than `Text.maxDigits` is refused, as
in lines of JSON, the refusal is part of the step that asks for its text.

## Main definitions

* `Value.literal`: the literal of a value
* `Value.plain`: the plain text of a value
-/

namespace CauseTrail

namespace Value

/-- Numbers are shown positionally from `1e-4` up to `1e16`, with two digits of exponent beyond. -/
def floatFormat : FloatFormat := ⟨"nan", "inf", -4, 15, 2⟩

/-- Arguments between parentheses after a name. -/
def call (name : String) (args : List String) : String :=
  name ++ "(" ++ ", ".intercalate args ++ ")"

/-- The literal of a date. -/
def dateLiteral (d : Date) : String :=
  call "datetime.date" [toString d.year, toString d.month, toString d.day]

/-- The literal of an offset. -/
def offsetLiteral (offset : Int) : String :=
  if offset = 0 then "datetime.timezone.utc"
  else call "datetime.timezone" [(Duration.ofMicros offset).literal]

/-- The literal of a timestamp: seconds and microseconds are shown as far as they are needed. -/
def timestampLiteral (t : Timestamp) : String :=
  let numbers := [t.date.year, t.date.month, t.date.day, t.hour, t.minute] ++
    (if t.micro ≠ 0 then [t.second, t.micro] else if t.second ≠ 0 then [t.second] else [])
  let zone := t.offset?.toList.map fun x => "tzinfo=" ++ offsetLiteral x
  call "datetime.datetime" (numbers.map toString ++ zone)

mutual

/-- The literal of a value. -/
def literal : Value → String
  | null => "None"
  | bool b => if b then "True" else "False"
  | int n => toString n
  | float x => x.text floatFormat
  | text s => Text.quote s
  | bytes bs => Text.quoteBytes bs
  | date d => dateLiteral d
  | timestamp t => timestampLiteral t
  | list xs => "[" ++ ", ".intercalate (literals xs) ++ "]"
  | tuple [x] => "(" ++ x.literal ++ ",)"
  | tuple xs => "(" ++ ", ".intercalate (literals xs) ++ ")"
  | set [] => "set()"
  | set xs => "\x7b" ++ ", ".intercalate (literals xs) ++ "\x7d"
  | map es => "\x7b" ++ ", ".intercalate (entryLiterals es) ++ "\x7d"

/-- The literals of the members of a collection. -/
def literals : List Value → List String
  | [] => []
  | x :: xs => x.literal :: literals xs

/-- The literals of the entries of a mapping. -/
def entryLiterals : List (Value × Value) → List String
  | [] => []
  | (k, v) :: es => (k.literal ++ ": " ++ v.literal) :: entryLiterals es

end

/-- The plain text of a value. -/
def plain : Value → String
  | text s => s
  | date d => d.iso
  | timestamp t => t.written " "
  | v => v.literal

end Value

end CauseTrail
