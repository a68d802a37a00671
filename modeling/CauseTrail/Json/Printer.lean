import CauseTrail.Value.Literal

/-!
# Writing JSON

A value is written with its mappings in order of insertion. On one line items are set apart by a
comma and a space; in the indented layout each item has a line of its own. Kinds that JSON lacks
are written as their plain texts, and a sequence of any kind as an array. As the name of a member
serve texts, numbers, truth values and null; any other key is refused, and so is an integer with too
many digits, wherever it stands.

## Main definitions

* `Json.Layout`: how a value is laid out
* `Json.WriteError`: why a value cannot be written
* `Json.write`: the text of a value, or the first thing in it that cannot be written
-/

namespace CauseTrail.Json

/-- How a value is laid out. -/
structure Layout where
  /-- Whether characters beyond ASCII are escaped. -/
  asciiOnly : Bool
  /-- The width of a step of indentation; `none` puts all on one line. -/
  indent? : Option Nat

/-- One line of ASCII. -/
def Layout.line : Layout := ⟨true, none⟩

/-- Two spaces of indentation, characters written as themselves. -/
def Layout.page : Layout := ⟨false, some 2⟩

/-- Numbers are written as in plain texts, except for the words for the infinities and NaN. -/
def floatFormat : FloatFormat := { Value.floatFormat with nan := "NaN", infinity := "Infinity" }

/-- The letter of a single-letter escape. -/
def escapeLetter? (c : Char) : Option Char :=
  if c = '"' then some '"'
  else if c = '\\' then some '\\'
  else if c = '\n' then some 'n'
  else if c = '\r' then some 'r'
  else if c = '\t' then some 't'
  else if c = '\x0c' then some 'f'
  else if c = '\x08' then some 'b'
  else none

/-- A character by its number, as one escape or as a surrogate pair. -/
def numberEscape (n : Nat) : List Char :=
  let unit (u : Nat) : List Char := '\\' :: 'u' :: Text.hexDigits 4 u
  if n < 0x10000 then unit n
  else unit (0xd800 + (n - 0x10000) / 0x400) ++ unit (0xdc00 + (n - 0x10000) % 0x400)

/-- A character between quotes. -/
def escapeChar (asciiOnly : Bool) (c : Char) : List Char :=
  match escapeLetter? c with
  | some e => ['\\', e]
  | none =>
    if c.toNat < 0x20 ∨ (asciiOnly ∧ 0x7e < c.toNat) then numberEscape c.toNat else [c]

/-- A text between quotes. -/
def writeText (asciiOnly : Bool) (s : String) : List Char :=
  '"' :: s.toList.flatMap (escapeChar asciiOnly) ++ ['"']

/-- Why a value cannot be written. -/
inductive WriteError where
  /-- A key of the given kind, which makes no name. -/
  | badKey (kind : String)
  /-- An integer with too many digits. -/
  | tooLong
deriving DecidableEq, Repr

/-- The wording of a refusal. -/
def WriteError.message : WriteError → String
  | badKey kind => s!"keys must be str, int, float, bool or None, not {kind}"
  | tooLong => s!"Exceeds the limit ({Text.maxDigits} digits) for integer string conversion; " ++
      "use sys.set_int_max_str_digits() to increase the limit"

/-- Whether an integer has too many digits. -/
def isLong (n : Int) : Bool := Text.maxDigits < (Nat.toDigits 10 n.natAbs).length

mutual

/-- Whether there is an integer with too many digits in a value. -/
def holdsLong : Value → Bool
  | .int n => isLong n
  | .list xs | .tuple xs | .set xs => anyHoldsLong xs
  | .map es => entryHoldsLong es
  | _ => false

def anyHoldsLong : List Value → Bool
  | [] => false
  | x :: xs => holdsLong x || anyHoldsLong xs

def entryHoldsLong : List (Value × Value) → Bool
  | [] => false
  | (k, v) :: es => holdsLong k || holdsLong v || entryHoldsLong es

end

/-- An integer in decimal digits. -/
def integerText (n : Int) : Except WriteError String :=
  if isLong n then .error .tooLong else .ok (toString n)

/-- An integer is written in its digits unless it has too many. -/
theorem integerText_eq_ok_iff {n : Int} {s : String} :
    integerText n = .ok s ↔ isLong n = false ∧ s = toString n := by
  rw [integerText]
  cases isLong n with
  | false => exact ⟨fun written => ⟨rfl, (Except.ok.inj written).symm⟩, fun h => by rw [h.2]; rfl⟩
  | true => exact ⟨fun written => (nomatch written), fun h => (nomatch h.1)⟩

/-- The name that a key makes. -/
def memberName : Value → Except WriteError String
  | .text s => .ok s
  | .null => .ok "null"
  | .bool b => .ok (if b then "true" else "false")
  | .int n => integerText n
  | .float x => .ok (x.text floatFormat)
  | v => .error (.badKey v.qualifiedKind)

/-- Items between brackets, at the depth of the brackets. -/
def enclose (l : Layout) (depth : Nat) (left right : Char) (items : List (List Char)) :
    List Char :=
  if items = [] then [left, right]
  else
    match l.indent? with
    | none => left :: ", ".toList.intercalate items ++ [right]
    | some step =>
      let line (d : Nat) : List Char := '\n' :: List.replicate (step * d) ' '
      left :: line (depth + 1) ++ (',' :: line (depth + 1)).intercalate items ++ line depth ++
        [right]

mutual

/-- The characters of a value at a depth of nesting. -/
def writeValue (l : Layout) (depth : Nat) : Value → Except WriteError (List Char)
  | .null => .ok "null".toList
  | .bool b => .ok (if b then "true" else "false").toList
  | .int n => String.toList <$> integerText n
  | .float x => .ok (x.text floatFormat).toList
  | .text s => .ok (writeText l.asciiOnly s)
  | .list xs | .tuple xs => enclose l depth '[' ']' <$> writeItems l (depth + 1) xs
  | .map es => enclose l depth '\x7b' '\x7d' <$> writeMembers l (depth + 1) es
  -- the text of a set has those of its members in it
  | .set xs =>
    if anyHoldsLong xs then .error .tooLong
    else .ok (writeText l.asciiOnly (Value.set xs).plain)
  | v => .ok (writeText l.asciiOnly v.plain)

/-- The characters of each item. -/
def writeItems (l : Layout) (depth : Nat) : List Value → Except WriteError (List (List Char))
  | [] => .ok []
  | x :: xs => do
    let x ← writeValue l depth x
    let xs ← writeItems l depth xs
    .ok (x :: xs)

/-- The characters of each member. -/
def writeMembers (l : Layout) (depth : Nat) :
    List (Value × Value) → Except WriteError (List (List Char))
  | [] => .ok []
  | (k, v) :: es => do
    let k ← memberName k
    let v ← writeValue l depth v
    let es ← writeMembers l depth es
    .ok ((writeText l.asciiOnly k ++ ": ".toList ++ v) :: es)

end

/-- The text of a value, or the first thing in it that cannot be written. -/
def write (l : Layout) (v : Value) : Except WriteError String :=
  String.ofList <$> writeValue l 0 v

end CauseTrail.Json
