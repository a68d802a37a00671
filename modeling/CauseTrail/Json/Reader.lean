import CauseTrail.Text.Digit
import CauseTrail.Value.Basic

/-!
# Reading JSON

A JSON text is read into a value. Besides the standard's numbers the words `NaN`, `Infinity` and
`-Infinity` are read; a number without point and exponent is an integer of any size up to 4300
digits; of two members with one name the last counts, at the place of the first. A failure names
what was expected and where.

## Main definitions

* `Json.Expected`, `Json.ReadError`: the failures
* `Json.read`: the value of a text
-/

namespace CauseTrail.Json

/-- What a JSON text lacks at the place where reading stopped. -/
inductive Expected where
  | value
  | name
  | colon
  | comma
  | nothingMore
  | noControl
  | escape
  | unicodeEscape
  | closingQuote
  | noByteOrderMark
deriving DecidableEq, Repr

/-- The wording of what is lacking. -/
def Expected.message : Expected → String
  | .value => "Expecting value"
  | .name => "Expecting property name enclosed in double quotes"
  | .colon => "Expecting ':' delimiter"
  | .comma => "Expecting ',' delimiter"
  | .nothingMore => "Extra data"
  | .noControl => "Invalid control character at"
  | .escape => "Invalid \\escape"
  | .unicodeEscape => "Invalid \\uXXXX escape"
  | .closingQuote => "Unterminated string starting at"
  | .noByteOrderMark => "Unexpected UTF-8 BOM (decode using utf-8-sig)"

/-- A failure to read a JSON text: what was lacking, with the line and column, counted from one,
and the position, counted from zero, or an integer with too many digits. -/
inductive ReadError where
  | unexpected (lacking : Expected) (line column position : Nat)
  | numeral (digits : Nat)
deriving DecidableEq, Repr

/-- The wording of an integer with too many digits. -/
def tooManyDigits (digits : Nat) : String :=
  s!"Exceeds the limit ({Text.maxDigits} digits) for integer string conversion: value has " ++
    s!"{digits} digits; use sys.set_int_max_str_digits() to increase the limit"

/-- The wording of a failure. -/
def ReadError.message : ReadError → String
  | .unexpected lacking line column position =>
    s!"{lacking.message}: line {line} column {column} (char {position})"
  | .numeral digits => tooManyDigits digits

/-- A failure with the characters from its place to the end. -/
inductive Stop where
  | lacking (what : Expected) (at' : List Char)
  | numeral (digits : Nat)

/-- Whether a character may stand between two tokens. -/
def isSpace (c : Char) : Bool := c = ' ' || c = '\t' || c = '\n' || c = '\r'

/-- The characters from the first token on. -/
def skip (cs : List Char) : List Char := cs.dropWhile isSpace

/-! ## Texts -/

/-- The number of four hexadecimal digits, and the rest. -/
def hex4? (cs : List Char) : Option (Nat × List Char) :=
  match cs with
  | a :: b :: c :: d :: cs => do
    let a ← Text.hexValue? a
    let b ← Text.hexValue? b
    let c ← Text.hexValue? c
    let d ← Text.hexValue? d
    some (((a * 16 + b) * 16 + c) * 16 + d, cs)
  | _ => none

/-- The character of a single-letter escape. -/
def simpleEscape? : Char → Option Char
  | '"' => some '"'
  | '\\' => some '\\'
  | '/' => some '/'
  | 'b' => some '\x08'
  | 'f' => some '\x0c'
  | 'n' => some '\n'
  | 'r' => some '\r'
  | 't' => some '\t'
  | _ => none

/-- The character that two halves of a surrogate pair make. -/
def joinSurrogates (high low : Nat) : Char :=
  Char.ofNat (0x10000 + (high - 0xd800) * 0x400 + (low - 0xdc00))

/-- The second half of a surrogate pair at the front of a text, if it holds one. -/
def lowSurrogate? : List Char → Except Stop (Option (Nat × List Char))
  | '\\' :: 'u' :: digits =>
    match hex4? digits with
    | none => .error (.lacking .unicodeEscape ('u' :: digits))
    | some (n, rest) => .ok (if 0xdc00 ≤ n ∧ n ≤ 0xdfff then some (n, rest) else none)
  | _ => .ok none

/-- Reads a text up to its closing quote. `start` holds the characters from the opening quote on,
for the failure to find the closing one. A surrogate that is not one of a pair becomes the
replacement character. -/
def readText (start : List Char) : (fuel : Nat) → List Char → List Char →
    Except Stop (List Char × List Char)
  | 0, _, _ => .error (.lacking .closingQuote start)
  | fuel + 1, acc, cs =>
    match cs with
    | [] => .error (.lacking .closingQuote start)
    | '"' :: rest => .ok (acc.reverse, rest)
    | ['\\'] => .error (.lacking .closingQuote start)
    | '\\' :: 'u' :: digits =>
      match hex4? digits with
      | none => .error (.lacking .unicodeEscape ('u' :: digits))
      | some (_, []) => .error (.lacking .unicodeEscape ('u' :: digits))
      | some (n, rest) =>
        if n < 0xd800 ∨ 0xdfff < n then readText start fuel (Char.ofNat n :: acc) rest
        -- a second half without a first one, or else a first half
        else if 0xdc00 ≤ n then readText start fuel ('\ufffd' :: acc) rest
        else
          match lowSurrogate? rest with
          | .error stop => .error stop
          | .ok none => readText start fuel ('\ufffd' :: acc) rest
          | .ok (some (low, rest)) => readText start fuel (joinSurrogates n low :: acc) rest
    | '\\' :: c :: rest =>
      match simpleEscape? c with
      | none => .error (.lacking .escape ('\\' :: c :: rest))
      | some e => readText start fuel (e :: acc) rest
    | c :: rest =>
      if c.toNat < 0x20 then .error (.lacking .noControl (c :: rest))
      else readText start fuel (c :: acc) rest

/-! ## Numbers -/

/-- Whether a character is an ASCII digit. -/
def isDigit (c : Char) : Bool := (Text.asciiDigit? c).isSome

/-- The number that ASCII digits make. -/
def numeral (cs : List Char) : Nat :=
  cs.foldl (fun n c => 10 * n + (c.toNat - '0'.toNat)) 0

/-- The parts of a number: digits before and behind the point, and an exponent. -/
structure NumberParts where
  whole : List Char
  fraction? : Option (List Char)
  exponent? : Option Int

/-- The digits behind a point, if there are any. -/
def fraction? : List Char → Option (List Char × List Char)
  | '.' :: c :: cs =>
    if isDigit c then some ((c :: cs).takeWhile isDigit, (c :: cs).dropWhile isDigit) else none
  | _ => none

/-- The exponent of a number, if there is one. -/
def exponent? : List Char → Option (Int × List Char)
  | c :: cs =>
    if c = 'e' ∨ c = 'E' then
      let (negative, cs) := match cs with
        | '-' :: cs => (true, cs)
        | '+' :: cs => (false, cs)
        | cs => (false, cs)
      let digits := cs.takeWhile isDigit
      if digits = [] then none
      else some (if negative then -(numeral digits : Int) else numeral digits,
        cs.dropWhile isDigit)
    else none
  | [] => none

/-- The parts of a number without its sign, and the rest. A leading zero stands alone. -/
def numberParts? (cs : List Char) : Option (NumberParts × List Char) :=
  match cs with
  | [] => none
  | c :: cs' =>
    if !isDigit c then none
    else
      let whole := if c = '0' then [c] else cs.takeWhile isDigit
      let rest := if c = '0' then cs' else cs.dropWhile isDigit
      let (fraction?, rest) := match fraction? rest with
        | some (ds, rest) => (some ds, rest)
        | none => (none, rest)
      let (exponent?, rest) := match exponent? rest with
        | some (e, rest) => (some e, rest)
        | none => (none, rest)
      some (⟨whole, fraction?, exponent?⟩, rest)

/-- The value of a number, or the count of its digits if it is an integer with too many. -/
def numberValue (negative : Bool) (p : NumberParts) : Except Stop Value :=
  match p.fraction?, p.exponent? with
  | none, none =>
    if Text.maxDigits < p.whole.length then .error (.numeral p.whole.length)
    else .ok (.int (if negative then -(numeral p.whole : Int) else numeral p.whole))
  | f, e =>
    let f := f.getD []
    .ok (.float (Binary64.ofDecimal negative (numeral (p.whole ++ f)) (e.getD 0 - f.length)))

/-- Reads a number; `cs` starts with its sign, if it has one. -/
def readNumber (cs : List Char) : Except Stop (Value × List Char) :=
  let (negative, digits) := match cs with
    | '-' :: cs' => (true, cs')
    | cs => (false, cs)
  match numberParts? digits with
  | none => .error (.lacking .value cs)
  | some (p, rest) => (·, rest) <$> numberValue negative p

/-- The words that stand for values. -/
def words : List (List Char × Value) :=
  [("null".toList, .null), ("true".toList, .bool true), ("false".toList, .bool false),
    ("NaN".toList, .float .nan), ("Infinity".toList, .float (.infinite false)),
    ("-Infinity".toList, .float (.infinite true))]

/-- The value of a word at the front of a text, and the rest. -/
def word? (cs : List Char) : Option (Value × List Char) :=
  words.findSome? fun w => if w.1.isPrefixOf cs then some (w.2, cs.drop w.1.length) else none

/-! ## Values -/

mutual

/-- Reads one value; a nesting takes one of `fuel`. -/
def readValue : (fuel : Nat) → List Char → Except Stop (Value × List Char)
  | 0, cs => .error (.lacking .value cs)
  | fuel + 1, cs =>
    match cs with
    | '"' :: rest => do
      let (s, rest) ← readText cs (rest.length + 1) [] rest
      .ok (.text (String.ofList s), rest)
    | '{' :: rest =>
      match skip rest with
      | '}' :: rest => .ok (.map [], rest)
      | rest => do
        let (es, rest) ← readMembers fuel [] rest
        .ok (.map (Mapping.ofEntries es), rest)
    | '[' :: rest =>
      match skip rest with
      | ']' :: rest => .ok (.list [], rest)
      | rest => do
        let (xs, rest) ← readItems fuel [] rest
        .ok (.list xs, rest)
    | cs =>
      match word? cs with
      | some r => .ok r
      | none => readNumber cs

/-- Reads the members of an object up to its brace. -/
def readMembers : (fuel : Nat) → List (Value × Value) → List Char →
    Except Stop (List (Value × Value) × List Char)
  | 0, _, cs => .error (.lacking .name cs)
  | fuel + 1, acc, cs =>
    match cs with
    | '"' :: rest => do
      let (k, rest) ← readText cs (rest.length + 1) [] rest
      match skip rest with
      | ':' :: rest =>
        let (v, rest) ← readValue fuel (skip rest)
        let acc := (Value.text (String.ofList k), v) :: acc
        match skip rest with
        | '}' :: rest => .ok (acc.reverse, rest)
        | ',' :: rest => readMembers fuel acc (skip rest)
        | rest => .error (.lacking .comma rest)
      | rest => .error (.lacking .colon rest)
    | cs => .error (.lacking .name cs)

/-- Reads the items of an array up to its bracket. -/
def readItems : (fuel : Nat) → List Value → List Char → Except Stop (List Value × List Char)
  | 0, _, cs => .error (.lacking .value cs)
  | fuel + 1, acc, cs => do
    let (v, rest) ← readValue fuel cs
    match skip rest with
    | ']' :: rest => .ok ((v :: acc).reverse, rest)
    | ',' :: rest => readItems fuel (v :: acc) (skip rest)
    | rest => .error (.lacking .comma rest)

end

/-- A value that opens neither a text nor an object nor an array is a word or a number. -/
theorem readValue_other {c : Char} (quote : c ≠ '"') (brace : c ≠ '\x7b') (bracket : c ≠ '[')
    (fuel : Nat) (cs : List Char) :
    readValue (fuel + 1) (c :: cs) =
      match word? (c :: cs) with
      | some r => .ok r
      | none => readNumber (c :: cs) := by
  rw [readValue]
  · exact fun _ same => quote (List.cons.inj same).1
  · exact fun _ same => brace (List.cons.inj same).1
  · exact fun _ same => bracket (List.cons.inj same).1

/-- The failure with its line, column and position in the whole text. -/
def Stop.locate (whole : List Char) : Stop → ReadError
  | .lacking what at' =>
    let position := whole.length - at'.length
    let before := whole.take position
    let column := (before.reverse.takeWhile (· ≠ '\n')).length + 1
    .unexpected what (before.count '\n' + 1) column position
  | .numeral digits => .numeral digits

/-- Reads a whole text as one value. -/
def readAll (cs : List Char) : Except Stop Value := do
  match cs with
  | '\ufeff' :: _ => .error (.lacking .noByteOrderMark cs)
  | _ =>
    -- every nesting and every item takes a character at least
    let (v, rest) ← readValue (2 * cs.length + 2) (skip cs)
    match skip rest with
    | [] => .ok v
    | rest => .error (.lacking .nothingMore rest)

/-- The value of a JSON text. -/
def read (s : String) : Except ReadError Value :=
  (readAll s.toList).mapError (Stop.locate s.toList)

end CauseTrail.Json
