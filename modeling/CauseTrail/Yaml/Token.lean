import CauseTrail.Text.Utf8
import CauseTrail.Yaml.Scalar

/-!
# Tokens

A document is read as tokens: the signs of flow collections, the marks of entries, keys and values,
scalars, anchors, aliases and tags, directives and the marks between documents, and tokens for the
beginning and the end of block collections, which follow from the indentation of the lines.

A key need not be marked. A token that may begin an unmarked key is remembered until a colon shows
that it did; then the mark of the key, and the beginning of the block mapping that it opens, are
put before that token. A key that is not marked ends on its line, within 1024 characters.

## Main definitions

* `Token`: the tokens
* `Cursor`: a place in the text
* `Scan`: how far the tokens are found, with the open collections
* `Token.ofText`: the tokens of a text
-/

namespace CauseTrail.Yaml

/-- What a directive says. -/
inductive Directive where
  /-- The major number of the version. -/
  | version (major : Nat)
  /-- What a handle of tags stands for. -/
  | tagHandle (handle lead : String)
  | unknown
deriving DecidableEq, Repr

/-- A tag as it is written: a handle, if any, and what follows it. -/
structure WrittenTag where
  handle? : Option String
  rest : String
deriving DecidableEq, Repr

/-- The tokens of a document. -/
inductive Token where
  | directive (d : Directive)
  | documentStart
  | documentEnd
  | blockSequenceStart
  | blockMappingStart
  | blockEnd
  | flowSequenceStart
  | flowSequenceEnd
  | flowMappingStart
  | flowMappingEnd
  | blockEntry
  | flowEntry
  | key
  | value
  | reference (name : String)
  | anchor (name : String)
  | tag (t : WrittenTag)
  | scalar (text : String) (isPlain : Bool)
deriving DecidableEq, Repr

/-! ## Names, tags and directives -/

/-- Whether a character may be part of the name of an anchor, a handle or a directive. -/
def isWordChar (c : Char) : Bool :=
  ('0' ≤ c && c ≤ '9') || ('A' ≤ c && c ≤ 'Z') || ('a' ≤ c && c ≤ 'z') || c = '-' || c = '_'

/-- A word, which must not be empty, and what follows it. -/
def word (cs : List Char) : Except ScanError (String × List Char) :=
  let name := cs.takeWhile isWordChar
  if name = [] then .error .malformed
  else .ok (String.ofList name, cs.dropWhile isWordChar)

/-- The name of an anchor or an alias and what follows it. -/
def anchorName (cs : List Char) : Except ScanError (String × List Char) := do
  let (name, rest) ← word cs
  if atBlank rest || rest.head?.any "?:,]\x7d%@\x60".toList.contains then return (name, rest)
  else .error .malformed

/-- A handle of tags: a single exclamation mark or a word between two of them. -/
def handle (cs : List Char) : Except ScanError (String × List Char) :=
  match cs with
  | '!' :: ' ' :: rest => .ok ("!", ' ' :: rest)
  | '!' :: rest =>
    let name := rest.takeWhile isWordChar
    match rest.dropWhile isWordChar with
    | '!' :: rest => .ok ("!" ++ String.ofList name ++ "!", rest)
    | _ => .error .malformed
  | _ => .error .malformed

/-- Whether a character may be part of a tag. -/
def isTagChar (c : Char) : Bool :=
  isWordChar c || ";/?:@&=+$,.!~*'()[]%".toList.contains c

/-- The bytes of a row of escapes, each a percent sign and two digits, and what follows them. -/
def escapedBytes : (fuel : Nat) → List Char → Except ScanError (List UInt8 × List Char)
  | fuel + 1, '%' :: a :: b :: cs =>
    match Text.hexValue? a, Text.hexValue? b with
    | some a, some b => do
      let (bytes, rest) ← escapedBytes fuel cs
      return ((16 * a + b).toUInt8 :: bytes, rest)
    | _, _ => .error .malformed
  | _ + 1, '%' :: _ => .error .malformed
  | _, cs => .ok ([], cs)

/-- The characters of a tag, with the escapes resolved, and what follows them. -/
def tagChars : (fuel : Nat) → List Char → Except ScanError (List Char × List Char)
  | fuel + 1, c :: cs =>
    if c = '%' then do
      let (bytes, rest) ← escapedBytes (cs.length + 1) (c :: cs)
      match Text.ofUtf8? bytes with
      | .error _ => .error .malformed
      | .ok s => before s.toList (tagChars fuel rest)
    else if isTagChar c then before [c] (tagChars fuel cs)
    else .ok ([], c :: cs)
  | _, cs => .ok ([], cs)

/-- What a tag or a handle stands for, which must not be empty, and what follows it. -/
def tagText (cs : List Char) : Except ScanError (String × List Char) :=
  if cs.head?.any isTagChar then do
    let (text, rest) ← tagChars cs.length cs
    return (String.ofList text, rest)
  else .error .malformed

/-- A tag, from behind its exclamation mark, and what follows it. -/
def tag (cs : List Char) : Except ScanError (WrittenTag × List Char) := do
  let (t, rest) ← match cs with
    | '<' :: rest => do
      let (text, rest) ← tagText rest
      match rest with
      | '>' :: rest => pure (WrittenTag.mk none text, rest)
      | _ => .error .malformed
    | cs =>
      if atBlank cs then pure (⟨none, "!"⟩, cs)
      else do
        let word := cs.takeWhile fun c => c ≠ ' ' && !isBreak c
        let (handle, rest) ← if word.contains '!' then handle ('!' :: cs) else pure ("!", cs)
        let (text, rest) ← tagText rest
        pure (⟨some handle, text⟩, rest)
  if atSpace rest then return (t, rest) else .error .malformed

/-- The number at the beginning of a text and what follows it. -/
def number (cs : List Char) : Except ScanError (Nat × List Char) :=
  let ds := cs.takeWhile fun c => (Text.asciiDigit? c).isSome
  if ds = [] then .error .malformed
  else .ok (ds.foldl (fun n c => 10 * n + (Text.asciiDigit? c).getD 0) 0, cs.drop ds.length)

/-- The version that a directive names and what follows it. -/
def version (cs : List Char) : Except ScanError (Directive × List Char) := do
  let (major, rest) ← number (cs.dropWhile (· = ' '))
  match rest with
  | '.' :: rest =>
    let (_, rest) ← number rest
    if atSpace rest then return (.version major, rest) else .error .malformed
  | _ => .error .malformed

/-- The handle that a directive explains and what follows the explanation. -/
def tagHandle (cs : List Char) : Except ScanError (Directive × List Char) := do
  let (handle, rest) ← handle (cs.dropWhile (· = ' '))
  match rest with
  | ' ' :: rest =>
    let (lead, rest) ← tagText (rest.dropWhile (· = ' '))
    if atSpace rest then return (.tagHandle handle lead, rest) else .error .malformed
  | _ => .error .malformed

/-- A directive, from behind its percent sign, and what follows its line. -/
def directive (cs : List Char) : Except ScanError (Directive × List Char) := do
  let (name, rest) ← word cs
  if !atSpace rest then .error .malformed
  else
    let (d, rest) ←
      if name = "YAML" then version rest
      else if name = "TAG" then tagHandle rest
      else pure (.unknown, rest.dropWhile (!isBreak ·))
    let rest ← closeLine rest
    return (d, rest)

/-! ## Places -/

/-- A place in a text: the characters from there on, how many are before it, and its line and
column, counted from zero. -/
structure Cursor where
  rest : List Char
  index : Nat
  line : Nat
  column : Nat

namespace Cursor

/-- The place behind one more character. A byte order mark takes no column. -/
def step (p : Cursor) : Cursor :=
  match p.rest with
  | [] => p
  | c :: cs =>
    if isBreak c then ⟨cs, p.index + 1, p.line + 1, 0⟩
    else if c = '\ufeff' then ⟨cs, p.index + 1, p.line, p.column⟩
    else ⟨cs, p.index + 1, p.line, p.column + 1⟩

/-- The place that lies `n` characters further on. -/
def advance (p : Cursor) : Nat → Cursor
  | 0 => p
  | n + 1 => p.step.advance n

/-- The place at which the given characters, an end of the text, begin. -/
def moveTo (p : Cursor) (rest : List Char) : Cursor := p.advance (p.rest.length - rest.length)

end Cursor

/-! ## Finding the tokens -/

/-- A token that may begin an unmarked key: how many tokens stand before it, where it is, and
whether it has to begin a key because nothing else could stand there. -/
structure PossibleKey where
  before : Nat
  required : Bool
  index : Nat
  line : Nat
  column : Nat

/-- How far the tokens are found: the place, the tokens, the last one first, the columns of the
open block collections, the innermost one first, whether an unmarked key may begin, and the
possible keys of the innermost flow collection and of those around it. -/
structure Scan where
  place : Cursor
  tokens : List Token
  indents : List Nat
  keyAllowed : Bool
  key? : Option PossibleKey
  outerKeys : List (Option PossibleKey)

namespace Scan

/-- Whether the place is within a flow collection. -/
def inFlow (s : Scan) : Bool := !s.outerKeys.isEmpty

/-- The first column beyond the innermost block collection. -/
def margin (s : Scan) : Nat :=
  match s.indents with
  | [] => 0
  | n :: _ => n + 1

/-- The scan with one more token, read up to the given characters. -/
def emit (s : Scan) (t : Token) (rest : List Char) : Scan :=
  { s with tokens := t :: s.tokens, place := s.place.moveTo rest }

/-- The scan with a token put behind the first `n`. -/
def insert (s : Scan) (n : Nat) (t : Token) : Scan :=
  -- the last token is the first of the list
  let later := s.tokens.length - n
  { s with tokens := s.tokens.take later ++ t :: s.tokens.drop later }

/-- The scan in which what begins at `column` is beyond no open block collection. -/
def unwind (column : Nat) (s : Scan) : Scan :=
  let closed := (s.indents.takeWhile (column < ·)).length
  { s with tokens := List.replicate closed .blockEnd ++ s.tokens,
           indents := s.indents.drop closed }

/-- The scan in which all block collections are closed. -/
def unwindAll (s : Scan) : Scan :=
  { s with tokens := List.replicate s.indents.length .blockEnd ++ s.tokens, indents := [] }

/-- The scan that has forgotten the possible key; one that was required is missed. -/
def dropKey (s : Scan) : Except ScanError Scan :=
  if s.key?.any (·.required) then .error .malformed else .ok { s with key? := none }

/-- Whether a possible key is too far back to be one. -/
def isStale (s : Scan) (k : PossibleKey) : Bool :=
  k.line ≠ s.place.line || decide (1024 < s.place.index - k.index)

/-- A possible key unless it is too far back; one that was required is missed. -/
def refreshKey (s : Scan) : Option PossibleKey → Except ScanError (Option PossibleKey)
  | none => .ok none
  | some k =>
    if !s.isStale k then .ok (some k) else if k.required then .error .malformed else .ok none

/-- The scan that has forgotten all possible keys that are too far back. -/
def dropStaleKeys (s : Scan) : Except ScanError Scan := do
  let key? ← s.refreshKey s.key?
  let outerKeys ← s.outerKeys.mapM s.refreshKey
  return { s with key?, outerKeys }

/-- The scan that remembers the next token as a possible key. -/
def saveKey (s : Scan) : Except ScanError Scan :=
  if s.keyAllowed then do
    -- in a block mapping nothing but a key stands at the column of the mapping
    let required := !s.inFlow && s.indents.head? = some s.place.column
    let s ← s.dropKey
    return { s with key? := some ⟨s.tokens.length, required, s.place.index, s.place.line,
      s.place.column⟩ }
  else .ok s

/-- The scan in which a block collection is open at `column`; `t` begins it behind the first `n`
tokens if it is new. -/
def openBlock (s : Scan) (column n : Nat) (t : Token) : Scan :=
  if s.margin ≤ column then { s.insert n t with indents := column :: s.indents } else s

/-- The spaces, comments and line ends before a token: whether a line end is among them, and what
follows them. -/
def skip : (comment : Bool) → List Char → Bool × List Char
  | _, [] => (false, [])
  | comment, c :: cs =>
    if isBreak c then (true, (skip false cs).2)
    else if comment then skip true cs
    else if c = ' ' then skip false cs
    else if c = '#' then skip true cs
    else (false, c :: cs)

/-- The scan at the next token. A line end allows a key in a block. -/
def skipGap (s : Scan) : Scan :=
  let (crossed, rest) := skip false s.place.rest
  { s with place := s.place.moveTo rest, keyAllowed := s.keyAllowed || (crossed && !s.inFlow) }

/-- A token that may begin an unmarked key, and behind which none may begin. -/
def emitKeyed (s : Scan) (t : Token) (rest : List Char) : Except ScanError Scan := do
  let s ← s.saveKey
  return { s.emit t rest with keyAllowed := false }

/-- A mark between documents, or a directive. -/
def emitMark (s : Scan) (t : Token) (rest : List Char) : Except ScanError Scan := do
  let s ← s.unwindAll.dropKey
  return { s.emit t rest with keyAllowed := false }

/-- The beginning of a flow collection. -/
def openFlow (s : Scan) (t : Token) (rest : List Char) : Except ScanError Scan := do
  let s ← s.saveKey
  return { s.emit t rest with keyAllowed := true, outerKeys := s.key? :: s.outerKeys,
                              key? := none }

/-- The end of a flow collection. -/
def closeFlow (s : Scan) (t : Token) (rest : List Char) : Except ScanError Scan := do
  let s ← s.dropKey
  match s.outerKeys with
  | [] => .error .malformed
  | k? :: ks => return { s.emit t rest with keyAllowed := false, key? := k?, outerKeys := ks }

/-- The mark of an entry of a flow collection. -/
def flowEntry (s : Scan) (rest : List Char) : Except ScanError Scan := do
  let s ← s.dropKey
  return { s.emit .flowEntry rest with keyAllowed := true }

/-- The mark of an entry of a block sequence. -/
def blockEntry (s : Scan) (rest : List Char) : Except ScanError Scan := do
  if !s.inFlow && !s.keyAllowed then .error .malformed
  else
    let s := if s.inFlow then s
      else s.openBlock s.place.column s.tokens.length .blockSequenceStart
    let s ← s.dropKey
    return { s.emit .blockEntry rest with keyAllowed := true }

/-- The mark of a key. -/
def markedKey (s : Scan) (rest : List Char) : Except ScanError Scan := do
  if !s.inFlow && !s.keyAllowed then .error .malformed
  else
    let s := if s.inFlow then s
      else s.openBlock s.place.column s.tokens.length .blockMappingStart
    let s ← s.dropKey
    return { s.emit .key rest with keyAllowed := !s.inFlow }

/-- The mark of a value: it shows that the possible key was one. -/
def markedValue (s : Scan) (rest : List Char) : Except ScanError Scan :=
  match s.key? with
  | some k =>
    -- the mark of the key, and the beginning of its mapping, come late and go where the key began
    let s := { s.insert k.before .key with key? := none }
    let s := if s.inFlow then s else s.openBlock k.column k.before .blockMappingStart
    .ok { s.emit .value rest with keyAllowed := false }
  | none => do
    -- a value without a key, or behind a marked one
    if !s.inFlow && !s.keyAllowed then .error .malformed
    else
      let s := if s.inFlow then s
        else s.openBlock s.place.column s.tokens.length .blockMappingStart
      return { s.emit .value rest with keyAllowed := !s.inFlow }

/-- A block scalar, from behind the sign that opens it. -/
def blockScalar (s : Scan) (folded : Bool) (cs : List Char) : Except ScanError Scan := do
  let s ← s.dropKey
  let (chomp, indent?, lines) ← blockHeader cs
  let (text, rest) := blockText folded chomp indent? s.margin lines
  return { s.emit (.scalar (String.ofList text) false) rest with keyAllowed := true }

/-- Whether a plain scalar may begin with the first of the characters. -/
def startsPlain (flow : Bool) : List Char → Bool
  | [] => false
  | c :: cs =>
    if c = '-' then !atBlank cs
    else if c = '?' ∨ c = ':' then !flow && !atBlank cs
    else !isBlank c && !isBreak c && !",[]\x7b\x7d#&*!|>'\"%@\x60".toList.contains c

/-- The scan behind the token that begins with the character `c`, which is followed by `cs`. -/
def token (s : Scan) (c : Char) (cs : List Char) : Except ScanError Scan :=
  -- Marks between documents come first, since a hyphen could begin an entry as well.
  let atMark := s.place.column = 0 && atDocumentMark (c :: cs)
  if s.place.column = 0 ∧ c = '%' then do
    let (d, rest) ← directive cs
    s.emitMark (.directive d) rest
  else if atMark && c = '-' then s.emitMark .documentStart (cs.drop 2)
  else if atMark then s.emitMark .documentEnd (cs.drop 2)
  else if c = '[' then s.openFlow .flowSequenceStart cs
  else if c = '\x7b' then s.openFlow .flowMappingStart cs
  else if c = ']' then s.closeFlow .flowSequenceEnd cs
  else if c = '\x7d' then s.closeFlow .flowMappingEnd cs
  else if c = ',' then s.flowEntry cs
  else if c = '-' ∧ atBlank cs then s.blockEntry cs
  else if c = '?' ∧ (s.inFlow ∨ atBlank cs) then s.markedKey cs
  else if c = ':' ∧ (s.inFlow ∨ atBlank cs) then s.markedValue cs
  else if c = '*' then do
    let (name, rest) ← anchorName cs
    s.emitKeyed (.reference name) rest
  else if c = '&' then do
    let (name, rest) ← anchorName cs
    s.emitKeyed (.anchor name) rest
  else if c = '!' then do
    let (t, rest) ← tag cs
    s.emitKeyed (.tag t) rest
  else if c = '|' ∧ !s.inFlow then s.blockScalar false cs
  else if c = '>' ∧ !s.inFlow then s.blockScalar true cs
  else if c = '\'' ∨ c = '"' then do
    let (text, rest) ← quoted (c = '"') (.text .none) cs
    s.emitKeyed (.scalar (String.ofList text) false) rest
  else if startsPlain s.inFlow (c :: cs) then
    let (text, rest) := plain s.inFlow s.margin .none cs cs
    s.emitKeyed (.scalar (String.ofList (c :: text)) true) rest
  else .error .malformed

/-- The scan at its next token. -/
def settle (s : Scan) : Except ScanError Scan := do
  let s ← s.skipGap.dropStaleKeys
  return if s.inFlow then s else s.unwind s.place.column

/-- All tokens from the place on; `fuel` bounds how many are left. -/
def run : (fuel : Nat) → Scan → Except ScanError (List Token)
  | 0, _ => .error .malformed
  | fuel + 1, s => do
    let s ← s.settle
    match s.place.rest with
    | [] => do
      let s ← s.unwindAll.dropKey
      return s.tokens.reverse
    | c :: cs =>
      let s ← s.token c cs
      run fuel s

/-- The scan at the beginning of a text, behind its byte order mark. -/
def start (cs : List Char) : Scan :=
  let rest := if cs.head? = some '\ufeff' then cs.tail else cs
  ⟨⟨rest, cs.length - rest.length, 0, 0⟩, [], [], true, none, []⟩

end Scan

/-- Whether a text may hold a character at all. -/
def isReadable (c : Char) : Bool :=
  c = '\t' || c = '\n' || c = '\r' || (' ' ≤ c && c ≤ '~') || c = '\u0085' ||
    ('\u00a0' ≤ c && c ≠ '\ufffe' && c ≠ '\uffff')

/-- The tokens of a text. -/
def Token.ofText (s : String) : Except ScanError (List Token) :=
  if !s.toList.all isReadable then .error .malformed
  else
    let cs := Text.universalNewlines s.toList
    (Scan.start cs).run (cs.length + 2)

end CauseTrail.Yaml
