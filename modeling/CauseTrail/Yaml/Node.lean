import CauseTrail.Yaml.Tag
import CauseTrail.Yaml.Token

/-!
# Nodes

The tokens of a document make one node: a scalar, a sequence or a mapping, each with a tag. A node
that was given a name stands wherever the name is referred to; no name is given twice. Within the
node that it names, a reference stands for an empty collection.

## Main definitions

* `Node`: the nodes
* `Node.ofTokens?`: the node of a document, or none of an empty one
-/

namespace CauseTrail.Yaml

/-- A node of a document. -/
inductive Node where
  | scalar (tag : Tag) (text : String)
  | sequence (tag : Tag) (items : List Node)
  | mapping (tag : Tag) (entries : List (Node × Node))
deriving Repr

namespace Node

/-- The node that stands where nothing is written. -/
def nothing : Node := scalar .null ""

/-- The tag of a node. -/
def tag : Node → Tag
  | scalar t _ | sequence t _ | mapping t _ => t

/-- What the handles of tags stand for. -/
abbrev Handles := List (String × String)

/-- What handles stand for unless a directive says otherwise. -/
def commonHandles : Handles := [("!", "!"), ("!!", Tag.commonLead)]

/-- What is left to read, and the nodes that were given names. -/
structure Reading where
  tokens : List Token
  named : List (String × Node)

/-- A reader of a part of a document. -/
abbrev Reader (α : Type) := Reading → Except ScanError (α × Reading)

/-- The next token. -/
def Reading.next? (r : Reading) : Option Token := r.tokens.head?

/-- What is left behind the next token. -/
def Reading.skip (r : Reading) : Reading := { r with tokens := r.tokens.tail }

/-- The reading in which a node has its name, if any. -/
def Reading.name (r : Reading) (name? : Option String) (n : Node) : Reading :=
  match name? with
  | none => r
  | some name => { r with named := (name, n) :: r.named }

/-- The name of a tag as it is written; `none` if its handle stands for nothing. -/
def tagName? (handles : Handles) (t : WrittenTag) : Option String :=
  match t.handle? with
  | none => some t.rest
  | some h => (handles.find? (·.1 = h)).map (·.2 ++ t.rest)

/-- The name and the tag before a node, in either order. The tag `!` says no more than none. -/
def properties (handles : Handles) (r : Reading) :
    Except ScanError (Option String × Option String × Reading) := do
  let (name?, tag?, r) := match r.tokens with
    | .anchor a :: .tag t :: ts => (some a, some t, { r with tokens := ts })
    | .tag t :: .anchor a :: ts => (some a, some t, { r with tokens := ts })
    | .anchor a :: ts => (some a, none, { r with tokens := ts })
    | .tag t :: ts => (none, some t, { r with tokens := ts })
    | _ => (none, none, r)
  match tag? with
  | none => return (name?, none, r)
  | some t =>
    match tagName? handles t with
    | none => .error .malformed
    | some name => return (name?, some name, r)

/-- The tag of a collection. -/
def collectionTag (name? : Option String) (usual : Tag) : Tag :=
  match name? with
  | none | some "!" => usual
  | some name => .ofText name

/-- The tag of a scalar. -/
def scalarTag (name? : Option String) (isPlain : Bool) (text : String) : Tag :=
  match name? with
  | none => if isPlain then .ofPlain text else .string
  | some "!" => .ofPlain text
  | some name => .ofText name

/-- Where a node may stand, which decides what it may be. -/
inductive Position where
  /-- In a flow collection. -/
  | flow
  /-- In a block. -/
  | block
  /-- In a block mapping, where a sequence need not be indented. -/
  | mappingValue
deriving DecidableEq

/-- Whether the next token is one of the given ones. -/
def Reading.at (r : Reading) (ts : List Token) : Bool := r.next?.any ts.contains

mutual

/-- Reads a node. -/
def read (handles : Handles) : (fuel : Nat) → Position → Reader Node
  | 0, _, _ => .error .malformed
  | fuel + 1, position, r =>
    match r.tokens with
    | .reference name :: _ =>
      match r.named.find? (·.1 = name) with
      | some (_, n) => .ok (n, r.skip)
      | none => .error .malformed
    | _ => do
      let (name?, tag?, r) ← properties handles r
      if name?.any fun name => r.named.any (·.1 = name) then .error .malformed
      else
        -- A collection has its name while its members are read, so that they may refer to it.
        let sequence (items : Reading → Except ScanError (List Node × Reading)) (r : Reading) :
            Except ScanError (Node × Reading) := do
          let tag := collectionTag tag? .sequence
          let (xs, r) ← items (r.name name? (.sequence tag []))
          return (.sequence tag xs, r.name name? (.sequence tag xs))
        let mapping (entries : Reading → Except ScanError (List (Node × Node) × Reading))
            (r : Reading) : Except ScanError (Node × Reading) := do
          let tag := collectionTag tag? .mapping
          let (es, r) ← entries (r.name name? (.mapping tag []))
          return (.mapping tag es, r.name name? (.mapping tag es))
        let scalar (text : String) (isPlain : Bool) (r : Reading) :
            Except ScanError (Node × Reading) :=
          let n := Node.scalar (scalarTag tag? isPlain text) text
          .ok (n, r.name name? n)
        match r.next?, position with
        | some (.scalar text isPlain), _ => scalar text isPlain r.skip
        | some .flowSequenceStart, _ => sequence (readFlowItems handles fuel true) r.skip
        | some .flowMappingStart, _ => mapping (readFlowEntries handles fuel true) r.skip
        | some .blockEntry, .mappingValue => sequence (readLooseItems handles fuel) r
        | some .blockSequenceStart, .block | some .blockSequenceStart, .mappingValue =>
          sequence (readItems handles fuel) r.skip
        | some .blockMappingStart, .block | some .blockMappingStart, .mappingValue =>
          mapping (readEntries handles fuel) r.skip
        | _, _ =>
          -- a name or a tag without anything behind it is that of an empty scalar
          if name?.isSome || tag?.isSome then scalar "" (tag?.isNone || tag? = some "!") r
          else .error .malformed

/-- Reads a node unless one of the given tokens follows, which leaves it out. -/
def readUnless (handles : Handles) : (fuel : Nat) → Position → List Token → Reader Node
  | 0, _, _, _ => .error .malformed
  | fuel + 1, position, stops, r =>
    if r.at stops then .ok (nothing, r) else read handles fuel position r

/-- Reads the items of a block sequence up to its end. -/
def readItems (handles : Handles) : (fuel : Nat) → Reader (List Node)
  | 0, _ => .error .malformed
  | fuel + 1, r =>
    match r.next? with
    | some .blockEntry => do
      let (n, r) ← readUnless handles fuel .block [.blockEntry, .blockEnd] r.skip
      let (ns, r) ← readItems handles fuel r
      return (n :: ns, r)
    | some .blockEnd => .ok ([], r.skip)
    | _ => .error .malformed

/-- Reads the items of a sequence that is not indented. -/
def readLooseItems (handles : Handles) : (fuel : Nat) → Reader (List Node)
  | 0, _ => .error .malformed
  | fuel + 1, r =>
    match r.next? with
    | some .blockEntry => do
      let (n, r) ← readUnless handles fuel .block [.blockEntry, .key, .value, .blockEnd] r.skip
      let (ns, r) ← readLooseItems handles fuel r
      return (n :: ns, r)
    | _ => .ok ([], r)

/-- Reads the entries of a block mapping up to its end. -/
def readEntries (handles : Handles) : (fuel : Nat) → Reader (List (Node × Node))
  | 0, _ => .error .malformed
  | fuel + 1, r =>
    let stops : List Token := [.key, .value, .blockEnd]
    match r.next? with
    | some .key => do
      let (k, r) ← readUnless handles fuel .mappingValue stops r.skip
      let (v, r) ← if r.next? = some .value then
          readUnless handles fuel .mappingValue stops r.skip
        else .ok (nothing, r)
      let (es, r) ← readEntries handles fuel r
      return ((k, v) :: es, r)
    | some .blockEnd => .ok ([], r.skip)
    | _ => .error .malformed

/-- Reads the items of a flow sequence up to its bracket. A marked key makes an item that is a
mapping of one entry. -/
def readFlowItems (handles : Handles) : (fuel : Nat) → (first : Bool) → Reader (List Node)
  | 0, _, _ => .error .malformed
  | fuel + 1, first, r =>
    if r.next? = some .flowSequenceEnd then .ok ([], r.skip)
    else if !first && r.next? ≠ some .flowEntry then .error .malformed
    else
      let r := if first then r else r.skip
      let stops : List Token := [.flowEntry, .flowSequenceEnd]
      match r.next? with
      | some .flowSequenceEnd => .ok ([], r.skip)
      | some .key => do
        let (k, r) ← readUnless handles fuel .flow (.value :: stops) r.skip
        let (v, r) ← if r.next? = some .value then readUnless handles fuel .flow stops r.skip
          else .ok (nothing, r)
        let (ns, r) ← readFlowItems handles fuel false r
        return (.mapping .mapping [(k, v)] :: ns, r)
      | _ => do
        let (n, r) ← read handles fuel .flow r
        let (ns, r) ← readFlowItems handles fuel false r
        return (n :: ns, r)

/-- Reads the entries of a flow mapping up to its brace. A node without the mark of a key is a key
without a value. -/
def readFlowEntries (handles : Handles) :
    (fuel : Nat) → (first : Bool) → Reader (List (Node × Node))
  | 0, _, _ => .error .malformed
  | fuel + 1, first, r =>
    if r.next? = some .flowMappingEnd then .ok ([], r.skip)
    else if !first && r.next? ≠ some .flowEntry then .error .malformed
    else
      let r := if first then r else r.skip
      let stops : List Token := [.flowEntry, .flowMappingEnd]
      match r.next? with
      | some .flowMappingEnd => .ok ([], r.skip)
      | some .key => do
        let (k, r) ← readUnless handles fuel .flow (.value :: stops) r.skip
        let (v, r) ← if r.next? = some .value then readUnless handles fuel .flow stops r.skip
          else .ok (nothing, r)
        let (es, r) ← readFlowEntries handles fuel false r
        return ((k, v) :: es, r)
      | _ => do
        let (k, r) ← read handles fuel .flow r
        let (es, r) ← readFlowEntries handles fuel false r
        return ((k, nothing) :: es, r)

end

/-- The handles that the directives before a document explain, whether they name a version, and
what follows them. Nothing is explained twice, and the version has to be the first. -/
def directives : (handles : Handles) → (hasVersion : Bool) → List Token →
    Except ScanError (Handles × List Token)
  | handles, hasVersion, .directive d :: ts =>
    match d with
    | .version major =>
      if hasVersion ∨ major ≠ 1 then .error .malformed else directives handles true ts
    | .tagHandle handle lead =>
      if handles.any (·.1 = handle) then .error .malformed
      else directives ((handle, lead) :: handles) hasVersion ts
    | .unknown => directives handles hasVersion ts
  | handles, _, ts => .ok (handles, ts)

/-- The document that the tokens begin with, and what follows it. -/
def readDocument (tokens : List Token) : Except ScanError (Node × List Token) := do
  -- reading a node takes a few steps before it takes a token
  let fuel := 4 * tokens.length + 4
  match tokens with
  | .directive _ :: _ | .documentStart :: _ =>
    let (handles, rest) ← directives [] false tokens
    match rest with
    | .documentStart :: rest =>
      match rest with
      | [] | .directive _ :: _ | .documentStart :: _ | .documentEnd :: _ =>
        return (nothing, rest)
      | _ =>
        let (n, r) ← read (handles ++ commonHandles) fuel .block ⟨rest, []⟩
        return (n, r.tokens)
    | _ => .error .malformed
  | _ =>
    let (n, r) ← read commonHandles fuel .block ⟨tokens, []⟩
    return (n, r.tokens)

/-- The node of the only document that the tokens hold, or none if they hold no document. -/
def ofTokens? (tokens : List Token) : Except ScanError (Option Node) := do
  if tokens = [] then return none
  else
    let (n, rest) ← readDocument tokens
    if (rest.dropWhile (· = .documentEnd)) = [] then return some n else .error .malformed

end Node

end CauseTrail.Yaml
