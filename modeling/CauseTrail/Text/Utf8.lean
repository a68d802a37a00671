import CauseTrail.Text.Digit

/-!
# UTF-8

Texts as bytes and bytes as texts. Reading is strict: overlong forms, surrogates and numbers past
the last character are refused, and a refusal says which bytes are at fault and why.

## Main definitions

* `utf8Char`, `utf8`: the bytes of a character and of a text
* `ofUtf8?`: the text of a string of bytes
* `universalNewlines`: a text with every line end written as a line feed
-/

namespace CauseTrail.Text

/-- The bytes of a character. -/
def utf8Char (c : Char) : List UInt8 :=
  let n := c.toNat
  if n < 0x80 then [n.toUInt8]
  else if n < 0x800 then [(0xc0 + n / 0x40).toUInt8, (0x80 + n % 0x40).toUInt8]
  else if n < 0x10000 then
    [(0xe0 + n / 0x1000).toUInt8, (0x80 + n / 0x40 % 0x40).toUInt8, (0x80 + n % 0x40).toUInt8]
  else
    [(0xf0 + n / 0x40000).toUInt8, (0x80 + n / 0x1000 % 0x40).toUInt8,
      (0x80 + n / 0x40 % 0x40).toUInt8, (0x80 + n % 0x40).toUInt8]

/-- The bytes of a text. -/
def utf8 (s : String) : List UInt8 := s.toList.flatMap utf8Char

/-- Why bytes are no text. -/
inductive Utf8Fault where
  | startByte
  | continuation
  | endOfData
deriving DecidableEq, Repr

/-- Bytes that are no text: the first one, its position, how many are at fault, and why. -/
structure Utf8Error where
  byte : UInt8
  position : Nat
  count : Nat
  fault : Utf8Fault
deriving DecidableEq, Repr

/-- The wording of a fault. -/
def Utf8Fault.message : Utf8Fault → String
  | .startByte => "invalid start byte"
  | .continuation => "invalid continuation byte"
  | .endOfData => "unexpected end of data"

/-- The wording of a refusal. -/
def Utf8Error.message (e : Utf8Error) : String :=
  let place :=
    if e.count = 1 then
      s!"byte 0x" ++ String.ofList (hexDigits 2 e.byte.toNat) ++ s!" in position {e.position}"
    else s!"bytes in position {e.position}-{e.position + e.count - 1}"
  s!"'utf-8' codec can't decode " ++ place ++ ": " ++ e.fault.message

/-- The value that a first byte contributes, and the ranges in which the bytes after it must lie;
`none` for a byte that starts no character. -/
def lead? (b : UInt8) : Option (Nat × List (UInt8 × UInt8)) :=
  let any : UInt8 × UInt8 := (0x80, 0xbf)
  if b < 0x80 then some (b.toNat, [])
  else if b < 0xc2 then none
  else if b < 0xe0 then some (b.toNat - 0xc0, [any])
  -- no value is written with more bytes than it needs, and no surrogate is written
  else if b = 0xe0 then some (0, [(0xa0, 0xbf), any])
  else if b = 0xed then some (0xd, [(0x80, 0x9f), any])
  else if b < 0xf0 then some (b.toNat - 0xe0, [any, any])
  else if b = 0xf0 then some (0, [(0x90, 0xbf), any, any])
  else if b < 0xf4 then some (b.toNat - 0xf0, [any, any, any])
  else if b = 0xf4 then some (4, [(0x80, 0x8f), any, any])
  else none

/-- The state between two bytes: the character under way, if any, with its first byte, its
position, its value so far, how many of its bytes were read, and the ranges still open. -/
structure Utf8Pending where
  byte : UInt8
  position : Nat
  value : Nat
  count : Nat
  open' : List (UInt8 × UInt8)

/-- Reads bytes from `position` on; `pending` is the character under way. -/
def decodeFrom : (position : Nat) → (pending : Option Utf8Pending) → List UInt8 →
    Except Utf8Error (List Char)
  | _, none, [] => .ok []
  | _, some p, [] => .error ⟨p.byte, p.position, p.count, .endOfData⟩
  | n, none, b :: bs =>
    match lead? b with
    | none => .error ⟨b, n, 1, .startByte⟩
    | some (value, []) => (Char.ofNat value :: ·) <$> decodeFrom (n + 1) none bs
    | some (value, ranges) => decodeFrom (n + 1) (some ⟨b, n, value, 1, ranges⟩) bs
  | n, some p, b :: bs =>
    match p.open' with
    | [] => .error ⟨p.byte, p.position, p.count, .continuation⟩
    | (lo, hi) :: ranges =>
      if lo ≤ b ∧ b ≤ hi then
        let value := p.value * 0x40 + (b.toNat - 0x80)
        if ranges = [] then (Char.ofNat value :: ·) <$> decodeFrom (n + 1) none bs
        else decodeFrom (n + 1) (some ⟨p.byte, p.position, value, p.count + 1, ranges⟩) bs
      else .error ⟨p.byte, p.position, p.count, .continuation⟩

/-- The text of a string of bytes. -/
def ofUtf8? (bs : List UInt8) : Except Utf8Error String :=
  String.ofList <$> decodeFrom 0 none bs

/-- The characters with each carriage return, alone or before a line feed, made a line feed. -/
def universalNewlines : List Char → List Char
  | '\r' :: '\n' :: cs => '\n' :: universalNewlines cs
  | '\r' :: cs => '\n' :: universalNewlines cs
  | c :: cs => c :: universalNewlines cs
  | [] => []

end CauseTrail.Text
