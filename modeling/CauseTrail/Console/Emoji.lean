import CauseTrail.Console.EmojiTable
import CauseTrail.Text.Blank

/-!
# Emoji

A text for the console may hold codes of emoji: a name between two colons, without a gap in it.
Where the name is that of an emoji, the emoji is shown and not the code; any other code is shown as
it is. Small letters and capitals are alike in a name, and an ending chooses whether the emoji looks
like a picture or like a letter.

A text is shown in parts, and no code reaches from one part into the next. The seams between them
stand among the characters.

## Main definitions

* `Emoji`, `Emoji.ofName?`: the emoji, and the one of a name
* `Emoji.signs`: a text as characters and codes
* `Emoji.replace`: a text with emoji for their codes
-/

namespace CauseTrail

/-- An emoji: characters that begin no code and end no line. -/
structure Emoji where
  chars : List Char
  uncoded : ':' ∉ chars
  single : '\n' ∉ chars

/-- The characters of a text, and `none` where one of its parts ends. -/
abbrev Seamed := List (Option Char)

namespace Emoji

def ofChars? (cs : List Char) : Option Emoji :=
  if h : ':' ∉ cs ∧ '\n' ∉ cs then some ⟨cs, h.1, h.2⟩ else none

/-- The small letter of a capital, for the letters that names are made of. -/
def small (c : Char) : Char :=
  let n := c.toNat
  if (0x41 ≤ n && n ≤ 0x5a) || (0xc0 ≤ n && n ≤ 0xde && n ≠ 0xd7) then .ofNat (n + 0x20)
  else if n = 0x212a then 'k'
  else if n = 0x212b then '\u00e5'
  else c

/-- The endings of names that choose how an emoji looks, each with the character that says so. -/
def variants : List (String × Char) := [("-emoji", '\ufe0f'), ("-text", '\ufe0e')]

/-- The emoji of a name. -/
def ofName? (name : List Char) : Option Emoji :=
  let (bare, variant) :=
    match variants.find? fun v => v.1.toList.isSuffixOf name with
    | some v => (name.take (name.length - v.1.length), [v.2])
    | none => (name, [])
  let key := String.ofList (bare.map small)
  (names.find? (·.1 = key)).bind fun n => ofChars? (n.2 ++ variant)

/-! ## Codes -/

/-- A character of a text, or a code with the name in it. -/
inductive Sign where
  | char (c : Char)
  | code (name : List Char)
deriving DecidableEq, Repr

/-- The name up to the next colon, if no gap and no seam come first. -/
def name? : Seamed → Option (List Char)
  | [] => none
  | none :: _ => none
  | some c :: cs =>
    if c = ':' then some []
    else if Text.isGap c then none
    else (name? cs).map (c :: ·)

/-- The signs of a text, of which `skip` characters belong to a code that was read. -/
def signsFrom : (skip : Nat) → Seamed → List Sign
  | _, [] => []
  | skip + 1, _ :: cs => signsFrom skip cs
  | 0, none :: cs => signsFrom 0 cs
  | 0, some c :: cs =>
    if c = ':' then
      match name? cs with
      | some name => .code name :: signsFrom (name.length + 1) cs
      | none => .char c :: signsFrom 0 cs
    else .char c :: signsFrom 0 cs

/-- The signs of a text. -/
def signs (cs : Seamed) : List Sign := signsFrom 0 cs

/-- A sign as it is written. -/
def Sign.source : Sign → List Char
  | char c => [c]
  | code name => ':' :: name ++ [':']

/-- What is shown of a sign. -/
def Sign.shown : Sign → List Char
  | char c => [c]
  | code name =>
    match ofName? name with
    | some emoji => emoji.chars
    | none => (code name).source

/-- A text with emoji for their codes. -/
def replace (cs : Seamed) : List Char := (signs cs).flatMap Sign.shown

-- a code that is none of an emoji takes its second colon with it, and a gap ends no code
example : signs ("a:b:c: d:".toList.map some) =
    [.char 'a', .code ['b'], .char 'c', .char ':', .char ' ', .char 'd', .char ':'] := by
  decide +kernel

end Emoji

end CauseTrail
