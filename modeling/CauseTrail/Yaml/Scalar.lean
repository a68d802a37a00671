import CauseTrail.Text.Digit

/-!
# Scalars

A scalar is written between single quotes, between double quotes, as a block of lines, or plainly.
Each form has a reader from the characters behind the one that opens it to the text of the scalar
and the characters behind it.

Line ends inside a scalar are folded: the blanks around a line end are dropped, a single line end
becomes a space, and of several the first is dropped. The two separators of Unicode are line ends
that are kept.

## Main definitions

* `quoted`: the text between quotes
* `plain`: the text of a plain scalar
* `blockHeader`, `block`: the text of a block
-/

namespace CauseTrail.Yaml

/-- Why a text is no document. Where a number of a character is too great for one, that number is
told. -/
inductive ScanError where
  | malformed
  | character (number : Nat)
deriving DecidableEq, Repr

/-! ## Classes of characters -/

/-- Whether a character ends a line. -/
def isBreak (c : Char) : Bool := c = '\n' || c = '\u0085' || c = '\u2028' || c = '\u2029'

/-- The line end that a character stands for: two are kept, the others are one. -/
def lineEnd (c : Char) : Char := if c = '\u2028' ∨ c = '\u2029' then c else '\n'

/-- Whether a character is a space or a tab. -/
def isBlank (c : Char) : Bool := c = ' ' || c = '\t'

/-- Whether a line ends here. -/
def atBreak : List Char → Bool
  | [] => true
  | c :: _ => isBreak c

/-- Whether a word ends here. -/
def atBlank : List Char → Bool
  | [] => true
  | c :: _ => isBlank c || isBreak c

/-- Whether a line or a word ends here, tabs being part of words. -/
def atSpace : List Char → Bool
  | [] => true
  | c :: _ => c = ' ' || isBreak c

/-- Whether a mark between documents begins here. -/
def atDocumentMark : List Char → Bool
  | '-' :: '-' :: '-' :: cs | '.' :: '.' :: '.' :: cs => atBlank cs
  | _ => false

/-! ## Folding -/

/-- The blanks and line ends read since the last character of a text. -/
inductive Gap where
  | none
  /-- Blanks within a line, the last one first. -/
  | blanks (blanks : List Char)
  /-- Line ends: the first one, which is missing if it was escaped, and the others, the last one
  first; then the column that was reached. -/
  | lines (first? : Option Char) (more : List Char) (column : Nat)

/-- What a gap contributes to the text. -/
def Gap.text : Gap → List Char
  | none => []
  | blanks bs => bs.reverse
  | lines Option.none more _ => more.reverse
  | lines (some c) more _ => if c ≠ '\n' then c :: more.reverse else
      if more = [] then [' '] else more.reverse

/-- The gap with one more line end. -/
def Gap.addBreak (c : Char) : Gap → Gap
  | none | blanks _ => lines (some (lineEnd c)) [] 0
  | lines first? more _ => lines first? (lineEnd c :: more) 0

/-- The gap with one more blank. -/
def Gap.addBlank (c : Char) : Gap → Gap
  | none => blanks [c]
  | blanks bs => blanks (c :: bs)
  | lines first? more column => lines first? more (column + 1)

/-- Whether a gap ends at the beginning of a line. -/
def Gap.atLineStart : Gap → Bool
  | lines _ _ 0 => true
  | _ => false

/-! ## Quoted scalars -/

/-- What a letter stands for behind a backslash. -/
def escapes : List (Char × Char) :=
  [('0', '\x00'), ('a', '\x07'), ('b', '\x08'), ('t', '\t'), ('\t', '\t'), ('n', '\n'),
    ('v', '\x0b'), ('f', '\x0c'), ('r', '\r'), ('e', '\x1b'), (' ', ' '), ('"', '"'),
    ('\\', '\\'), ('/', '/'), ('N', '\u0085'), ('_', '\u00a0'), ('L', '\u2028'),
    ('P', '\u2029')]

/-- The number of digits that follow a letter behind a backslash. -/
def escapeDigits? (c : Char) : Option Nat :=
  if c = 'x' then some 2 else if c = 'u' then some 4 else if c = 'U' then some 8 else none

/-- What was read last between quotes. -/
inductive QuotedState where
  | text (gap : Gap)
  | backslash
  /-- Digits of a number, of which some are still to come. -/
  | number (left value : Nat)

/-- Puts characters before a text that was read. -/
def before (cs : List Char) : Except ScanError (List Char × List Char) →
    Except ScanError (List Char × List Char)
  | .ok (text, rest) => .ok (cs ++ text, rest)
  | .error e => .error e

/-- The text up to the closing quote, and the characters behind it. Between double quotes the
backslash escapes; between single quotes two quotes stand for one. -/
def quoted (double : Bool) : QuotedState → List Char → Except ScanError (List Char × List Char)
  | _, [] => .error .malformed
  | .number left value, c :: cs =>
    match Text.hexValue? c with
    | none => .error .malformed
    | some d =>
      let value := 16 * value + d
      if 1 < left then quoted double (.number (left - 1) value) cs
      else if 0x10ffff < value then .error (.character value)
      else before [Char.ofNat value] (quoted double (.text .none) cs)
  | .backslash, c :: cs =>
    -- an escaped line end leaves no space
    if isBreak c then quoted double (.text (.lines none [] 0)) cs
    else
      match escapes.find? (·.1 = c), escapeDigits? c with
      | some (_, e), _ => before [e] (quoted double (.text .none) cs)
      | none, some n => quoted double (.number n 0) cs
      | none, none => .error .malformed
  | .text gap, c :: cs =>
    if gap.atLineStart && atDocumentMark (c :: cs) then .error .malformed
    else if isBreak c then quoted double (.text (gap.addBreak c)) cs
    else if isBlank c then quoted double (.text (gap.addBlank c)) cs
    else
      match double, c, cs with
      | true, '"', cs => .ok (gap.text, cs)
      | true, '\\', cs => before gap.text (quoted double .backslash cs)
      | false, '\'', '\'' :: cs => before (gap.text ++ ['\'']) (quoted double (.text .none) cs)
      | false, '\'', cs => .ok (gap.text, cs)
      | _, c, cs => before (gap.text ++ [c]) (quoted double (.text .none) cs)

/-- A digit goes to the number, which stands for a character once its last digit is read. -/
theorem quoted_digit {c : Char} {d : Nat} (digit : Text.hexValue? c = some d) (double : Bool)
    (left value : Nat) (cs : List Char) :
    quoted double (.number left value) (c :: cs) =
      if 1 < left then quoted double (.number (left - 1) (16 * value + d)) cs
      else if 0x10ffff < 16 * value + d then .error (.character (16 * value + d))
      else before [Char.ofNat (16 * value + d)] (quoted double (.text .none) cs) := by
  rw [quoted, digit]

/-! ## Plain scalars -/

/-- Whether a plain scalar goes on with the first of the characters. In a flow collection the
characters that shape such collections end it. -/
def isPlain (flow : Bool) : List Char → Bool
  | [] => false
  | c :: cs =>
    !isBlank c && !isBreak c &&
    !(c = ':' && (atBlank cs || (flow && cs.head?.any ",[]\x7b\x7d".toList.contains))) &&
    !(flow && ",?[]\x7b\x7d".toList.contains c)

/-- Whether the line that a gap leads to belongs to the scalar: in a block it has to be indented
by `margin`. -/
def Gap.goesOn (flow : Bool) (margin : Nat) : Gap → Bool
  | lines _ _ column => flow || decide (margin ≤ column)
  | _ => true

/-- The text of a plain scalar and the characters behind it; `back` are the characters behind the
last one of the text. A tab ends the scalar. -/
def plain (flow : Bool) (margin : Nat) : Gap → (back : List Char) → List Char →
    List Char × List Char
  | _, back, [] => ([], back)
  | gap, back, c :: cs =>
    if gap.atLineStart && atDocumentMark (c :: cs) then ([], back)
    else if isBreak c then plain flow margin (gap.addBreak c) back cs
    else if c = ' ' then plain flow margin (gap.addBlank c) back cs
    else
      -- behind a gap a number sign begins a comment, and the line may belong to something else
      let fresh := match gap with
        | .none => true
        | _ => gap.goesOn flow margin && c ≠ '#'
      if fresh && isPlain flow (c :: cs) then
        let (text, rest) := plain flow margin .none cs cs
        (gap.text ++ c :: text, rest)
      else ([], back)

/-! ## Blocks -/

/-- What becomes of the line ends at the end of a block. -/
inductive Chomp where
  | clip
  | strip
  | keep
deriving DecidableEq, Repr

/-- The chomping that a sign asks for. -/
def chompOf? (c : Char) : Option Chomp :=
  if c = '+' then some .keep else if c = '-' then some .strip else none

/-- The indentation that a digit asks for. -/
def indentOf? (c : Char) : Option Nat := Text.asciiDigit? c

/-- The signs behind the one that opens a block: chomping and indentation in either order. -/
def blockSigns : List Char → Chomp × Option Nat × List Char
  | [] => (.clip, none, [])
  | c :: cs =>
    match chompOf? c, indentOf? c with
    | some chomp, _ =>
      match cs.head?.bind indentOf? with
      | some n => (chomp, some n, cs.tail)
      | none => (chomp, none, cs)
    | none, some n =>
      match cs.head?.bind chompOf? with
      | some chomp => (chomp, some n, cs.tail)
      | none => (.clip, some n, cs)
    | none, none => (.clip, none, c :: cs)

/-- The characters behind the spaces, the comment and the line end that may close a line; nothing
else may stand before its end. -/
def closeLine (cs : List Char) : Except ScanError (List Char) :=
  let cs := cs.dropWhile (· = ' ')
  let cs := if cs.head? = some '#' then cs.dropWhile (!isBreak ·) else cs
  if atBreak cs then .ok cs.tail else .error .malformed

/-- The first line of a block: chomping, indentation and the lines of the block. -/
def blockHeader (cs : List Char) : Except ScanError (Chomp × Option Nat × List Char) := do
  let (chomp, indent?, rest) := blockSigns cs
  if indent? = some 0 ∨ ¬atSpace rest then .error .malformed
  else
    let rest ← closeLine rest
    return (chomp, indent?, rest)

/-- The line ends before the first line that is not empty, the greatest indentation met, the
column that was reached and the characters from there on. -/
def measure : (column greatest : Nat) → List Char → List Char × Nat × Nat × List Char
  | column, greatest, [] => ([], greatest, column, [])
  | column, greatest, c :: cs =>
    if c = ' ' then measure (column + 1) (max greatest (column + 1)) cs
    else if isBreak c then
      let (ends, rest) := measure 0 greatest cs
      (lineEnd c :: ends, rest)
    else ([], greatest, column, c :: cs)

/-- Where the reading of a block stands. -/
inductive BlockState where
  /-- In a line, which begins with no blank if `flush`. -/
  | line (flush : Bool)
  /-- Behind the line end `first` of such a line, with further line ends, the last one first, at
  a column not beyond the indentation. -/
  | gap (flush : Bool) (first : Char) (more : List Char) (column : Nat)
  /-- Before the first line, with the line ends before it, the last one first. -/
  | start (more : List Char) (column : Nat)

/-- What stands between two lines of a block. When folding, a line end between two lines that
begin with no blank becomes a space, or nothing if more line ends follow. -/
def between (folded flush : Bool) (first : Char) (more : List Char) (next : Char) : List Char :=
  if folded ∧ first = '\n' ∧ flush ∧ ¬isBlank next then
    (if more = [] then [' '] else more.reverse)
  else first :: more.reverse

/-- What is left of the line ends behind the last line. -/
def chomped (chomp : Chomp) (first : Char) (more : List Char) : List Char :=
  match chomp with
  | .strip => []
  | .clip => [first]
  | .keep => first :: more.reverse

/-- What is left of the line ends of a block without lines. -/
def chompedEmpty (chomp : Chomp) (more : List Char) : List Char :=
  if chomp = .keep then more.reverse else []

/-- The text of a block whose lines are indented by `indent`, and the characters behind it. -/
def block (folded : Bool) (chomp : Chomp) (indent : Nat) : BlockState → List Char →
    List Char × List Char
  | .line _, [] => ([], [])
  | .line flush, c :: cs =>
    if isBreak c then block folded chomp indent (.gap flush (lineEnd c) [] 0) cs
    else
      let (text, rest) := block folded chomp indent (.line flush) cs
      (c :: text, rest)
  | .gap _ first more _, [] => (chomped chomp first more, [])
  | .gap flush first more column, c :: cs =>
    if isBreak c then block folded chomp indent (.gap flush first (lineEnd c :: more) 0) cs
    else if c = ' ' ∧ column < indent then
      block folded chomp indent (.gap flush first more (column + 1)) cs
    else if column = indent then
      let (text, rest) := block folded chomp indent (.line (!isBlank c)) cs
      (between folded flush first more c ++ c :: text, rest)
    else (chomped chomp first more, c :: cs)
  | .start more _, [] => (chompedEmpty chomp more, [])
  | .start more column, c :: cs =>
    if isBreak c then block folded chomp indent (.start (lineEnd c :: more) 0) cs
    else if c = ' ' ∧ column < indent then
      block folded chomp indent (.start more (column + 1)) cs
    else if column = indent then
      let (text, rest) := block folded chomp indent (.line (!isBlank c)) cs
      (more.reverse ++ c :: text, rest)
    else (chompedEmpty chomp more, c :: cs)

/-- The text of a block, from its first line on. Without an indentation in the first line, the
block is indented as its first line that is not empty, and by at least `margin`. -/
def blockText (folded : Bool) (chomp : Chomp) (indent? : Option Nat) (margin : Nat)
    (cs : List Char) : List Char × List Char :=
  let margin := max 1 margin
  match indent? with
  | some n => block folded chomp (margin + n - 1) (.start [] 0) cs
  | none =>
    -- the line ends before the first line are read already
    let (ends, greatest, column, rest) := measure 0 0 cs
    block folded chomp (max margin greatest) (.start ends.reverse column) rest

example : (quoted false (.text .none) "it''s\n  a' x".toList).toOption =
    some ("it's a".toList, " x".toList) := by decide +kernel
example : (quoted true (.text .none) "\\u00e9\\\n  b\"".toList).toOption =
    some ("éb".toList, []) := by decide +kernel
example : plain false 1 .none [] "a b # c".toList = ("a b".toList, " # c".toList) := by
  decide +kernel

end CauseTrail.Yaml
