import CauseTrail.Text.Numeral
import CauseTrail.Text.Quoted

/-!
# Identifiers

An event is identified by 128 bits, written as 32 hexadecimal digits. The identifier of zeros is
nil: it stands for "none yet". A text is read with or without hyphens, braces and the prefixes of
a URN; what is left must be 32 characters that make one hexadecimal number, in which a sign, a
`0x` prefix, blanks around the number, single underscores and the decimal digits of any script are
allowed.

## Main definitions

* `Uuid`: the identifiers, `Uuid.nil` among them
* `Uuid.hex`: the 32 digits
* `Uuid.ofText?`: the identifier of a text, or what is wrong with the text
-/

namespace CauseTrail

/-- An identifier of 128 bits. -/
structure Uuid where
  bits : BitVec 128
deriving DecidableEq, Repr, Inhabited

namespace Uuid

/-- The identifier that stands for none. -/
def nil : Uuid := ⟨0⟩

/-- The identifier of a number. -/
def ofNat (n : Nat) : Uuid := ⟨BitVec.ofNat 128 n⟩

/-- The 32 digits of an identifier. -/
def hex (u : Uuid) : String := String.ofList (Text.hexDigits 32 u.bits.toNat)

/-- What is wrong with a text that is to be read as an identifier. -/
inductive ReadError where
  | length
  | digits (text : String)
deriving DecidableEq, Repr

/-- The wording of a failure to read an identifier. -/
def ReadError.message : ReadError → String
  | .length => "badly formed hexadecimal UUID string"
  | .digits text => "invalid literal for int() with base 16: " ++ Text.quote text

/-- The characters without every occurrence of `word`, found from the left. -/
def without (word : List Char) : (skip : Nat) → List Char → List Char
  | _, [] => []
  | skip + 1, _ :: cs => without word skip cs
  | 0, c :: cs =>
    if word.isPrefixOf (c :: cs) then without word (word.length - 1) cs
    else c :: without word 0 cs

/-- The characters without the braces at both ends. -/
def stripBraces (cs : List Char) : List Char :=
  let isBrace (c : Char) : Bool := c = '\x7b' || c = '\x7d'
  ((cs.dropWhile isBrace).reverse.dropWhile isBrace).reverse

/-- The characters that are to be one number. -/
def payload (s : String) : List Char :=
  (stripBraces (without "uuid:".toList 0 (without "urn:".toList 0 s.toList))).filter (· ≠ '-')

/-- The identifier of a text. -/
def ofText? (s : String) : Except ReadError Uuid :=
  let cs := payload s
  if cs.length ≠ 32 then .error .length
  else
    match Text.integer? 16 cs with
    | none => .error (.digits (String.ofList cs))
    | some n => .ok (ofNat n.toNat)

end Uuid

end CauseTrail
