import CauseTrail.Console.Emoji

/-!
# Markup

A text for the console may hold tags in brackets that style what is between them. A tag begins
with a small letter or one of three signs and holds no further bracket; one that begins with a
slash closes the last open tag, or the last one of its name. An odd number of backslashes before a
tag makes it text.

Escaping puts a backslash before each tag, doubles the backslashes that are there, and adds one to
a text that ends in a single one. Rendering drops the tags and a backslash before each bracket that
begins no tag, and resolves the backslashes before tags. What is left in front of a tag, between two
tags and behind one is shown with emoji for their codes, and so is a tag that is a text, each by
itself; characters that move the cursor of a terminal are dropped as well.

## Main definitions

* `Markup.Piece`, `Markup.pieces`: a text as characters and tags
* `Markup.escape`: the text that is shown as the given one
* `Markup.render`: what is shown of a text
-/

namespace CauseTrail.Markup

/-- Whether a tag may begin with the character. -/
def beginsTag (c : Char) : Bool :=
  ('a' ≤ c && c ≤ 'z') || c = '#' || c = '/' || c = '@'

/-- The characters up to the next closing bracket, if no opening one comes first. -/
def upToBracket : List Char → Option (List Char)
  | [] => none
  | c :: cs =>
    if c = ']' then some []
    else if c = '[' then none
    else (upToBracket cs).map (c :: ·)

/-- What is between the brackets of a tag, from behind the opening one. -/
def inner? : List Char → Option (List Char)
  | [] => none
  | c :: cs => if beginsTag c then (upToBracket cs).map (c :: ·) else none

/-- A piece of a text. -/
inductive Piece where
  | char (c : Char)
  /-- An opening bracket that begins no tag, with the backslashes before it. -/
  | bracket (slashes : Nat)
  /-- A tag with the backslashes before it and what is between its brackets. -/
  | tag (slashes : Nat) (inner : List Char)
deriving DecidableEq, Repr

/-- The pieces of a text: `skip` characters belong to a tag that was read, and `slashes`
backslashes come before the next one. -/
def piecesFrom : (skip slashes : Nat) → List Char → List Piece
  | _, slashes, [] => List.replicate slashes (.char '\\')
  | skip + 1, slashes, _ :: cs => piecesFrom skip slashes cs
  | 0, slashes, c :: cs =>
    if c = '\\' then piecesFrom 0 (slashes + 1) cs
    else if c = '[' then
      match inner? cs with
      | some inner => .tag slashes inner :: piecesFrom (inner.length + 1) 0 cs
      | none => .bracket slashes :: piecesFrom 0 0 cs
    else List.replicate slashes (.char '\\') ++ .char c :: piecesFrom 0 0 cs

/-- The pieces of a text. -/
def pieces (cs : List Char) : List Piece := piecesFrom 0 0 cs

/-- A piece as it is written. -/
def Piece.source : Piece → List Char
  | char c => [c]
  | bracket slashes => List.replicate slashes '\\' ++ ['[']
  | tag slashes inner => List.replicate slashes '\\' ++ '[' :: inner ++ [']']

/-! ## Escaping -/

/-- A piece as it is written to be shown as it is. -/
def Piece.escaped : Piece → List Char
  | tag slashes inner => List.replicate (2 * slashes + 1) '\\' ++ '[' :: inner ++ [']']
  | p => p.source

/-- A text with a backslash more if it ends in exactly one. -/
def guardEnd (cs : List Char) : List Char :=
  match cs.reverse with
  | '\\' :: '\\' :: _ => cs
  | '\\' :: _ => cs ++ ['\\']
  | _ => cs

/-- The text that is shown as the given one. -/
def escapeChars (cs : List Char) : List Char := guardEnd ((pieces cs).flatMap Piece.escaped)

/-- The text that is shown as the given one. -/
def escape (s : String) : String := String.ofList (escapeChars s.toList)

/-! ## Rendering -/

/-- A closing tag without an open one: what is between its brackets, and where it is. -/
structure Unmatched where
  inner : List Char
  position : Nat
deriving DecidableEq, Repr

/-- The short names of styles. -/
def shortStyles : List (String × String) :=
  [("b", "bold"), ("c", "conceal"), ("d", "dim"), ("i", "italic"), ("o", "overline"),
    ("r", "reverse"), ("s", "strike"), ("u", "underline"), ("uu", "underline2")]

/-- The words of a text, small. -/
def words : (word : List Char) → List Char → List String
  | word, [] => if word = [] then [] else [String.ofList word.reverse]
  | word, c :: cs =>
    if c.isWhitespace then
      if word = [] then words [] cs else String.ofList word.reverse :: words [] cs
    else words (c.toLower :: word) cs

/-- The name of a style, by which an open tag is found: its words with the short names written
out. -/
def styleName (cs : List Char) : String :=
  " ".intercalate ((words [] cs).map fun w =>
    ((shortStyles.find? (·.1 = w)).map (·.2)).getD w)

/-- The name in a tag, which ends before an equals sign. -/
def tagName (inner : List Char) : List Char := inner.takeWhile (· ≠ '=')

/-- The open tags, the last one first, after a closing tag; `none` if it closes none. -/
def close? (name : List Char) (stack : List String) : Option (List String) :=
  let name := styleName name
  if name = "" then
    match stack with
    | [] => none
    | _ :: rest => some rest
  else if stack.contains name then some (stack.erase name) else none

/-- The wording of a closing tag without an open one. -/
def Unmatched.message (e : Unmatched) : String :=
  if styleName (tagName e.inner).tail = "" then
    s!"closing tag '[/]' at position {e.position} has nothing to close"
  else
    s!"closing tag '[{String.ofList e.inner}]' at position {e.position} " ++
      "doesn't match any open tag"

/-- Whether a character is passed on to the terminal. -/
def isShown (c : Char) : Bool := !([7, 8, 11, 12, 13].contains c.toNat)

/-- What is left of pieces from `position` on, with the open tags, the last one first. -/
def renderPieces : (position : Nat) → (stack : List String) → List Piece →
    Except Unmatched Seamed
  | _, _, [] => .ok []
  | position, stack, .char c :: ps => (some c :: ·) <$> renderPieces (position + 1) stack ps
  | position, stack, .bracket slashes :: ps =>
    (List.replicate (slashes - 1) (some '\\') ++ some '[' :: ·) <$>
      renderPieces (position + slashes + 1) stack ps
  | position, stack, .tag slashes inner :: ps =>
    let behind := position + slashes + inner.length + 2
    -- two backslashes show one, and one that is left shows the tag as a text
    let shown := none :: List.replicate (slashes / 2) (some '\\') ++ [none]
    if slashes % 2 = 1 then
      (shown ++ ('[' :: inner ++ [']']).map some ++ none :: ·) <$> renderPieces behind stack ps
    else
      match tagName inner with
      | '/' :: name =>
        match close? name stack with
        | none => .error ⟨inner, position + slashes⟩
        | some stack => (shown ++ ·) <$> renderPieces behind stack ps
      | name => (shown ++ ·) <$> renderPieces behind (styleName name :: stack) ps

/-- What is shown of a text. -/
def render (cs : List Char) : Except Unmatched (List Char) :=
  (fun left => (Emoji.replace left).filter isShown) <$> renderPieces 0 [] (pieces cs)

example : (render "a[b]c[/b]".toList).toOption = some "ac".toList := by decide +kernel
example : (render (escapeChars "[b]\\[i]".toList)).toOption = some "[b]\\[i]".toList := by
  decide +kernel

end CauseTrail.Markup
