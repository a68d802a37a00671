import CauseTrail.Yaml.Node
import CauseTrail.Yaml.ScalarValue

/-!
# Reading YAML

A document is read into a value. A mapping under the key of a merge, or each mapping of a sequence
there, contributes its entries where the mapping around it has none of its own, earlier mappings
before later ones. Keys have to be scalars; of two entries with one key the last counts, at the
place of the first.

If several things are wrong with a document, the one is told that lies in the fewest collections,
and of those the first.

## Main definitions

* `Node.value`: the value of a node
* `read`: the value of a text
-/

namespace CauseTrail.Yaml

namespace Node

/-! ## Merging -/

mutual

/-- The entries of a node with what its merges contribute put first; `none` if something that is
no mapping is to be merged. -/
def merged : Node → Option (List (Node × Node))
  | mapping _ entries => do
    let (contributed, own) ← mergedEntries entries
    return contributed ++ own
  | _ => none

/-- What the merges among entries contribute, and the other entries. -/
def mergedEntries : List (Node × Node) → Option (List (Node × Node) × List (Node × Node))
  | [] => some ([], [])
  | (k, v) :: es =>
    if k.tag = .merge then do
      let contributed ← contribution v
      let (more, own) ← mergedEntries es
      return (contributed ++ more, own)
    else do
      let (more, own) ← mergedEntries es
      let k := match k with
        | scalar .default text => scalar .string text
        | k => k
      return (more, (k, v) :: own)

/-- What a node contributes under the key of a merge: the entries of a mapping, or of the mappings
of a sequence, the last one first. -/
def contribution : Node → Option (List (Node × Node))
  | mapping _ entries => do
    let (contributed, own) ← mergedEntries entries
    return contributed ++ own
  | sequence _ items => mergedItems items
  | scalar _ _ => none

/-- The entries of mappings, the last mapping first. -/
def mergedItems : List Node → Option (List (Node × Node))
  | [] => some []
  | n :: ns => do
    let es ← merged n
    let more ← mergedItems ns
    return more ++ es

end

/-- The text of a scalar; a mapping stands for its default, if that is one. -/
def scalarText? : Node → Option String
  | scalar _ text => some text
  | mapping _ entries => ofEntries entries
  | sequence _ _ => none
where
  /-- The text of the default among entries. -/
  ofEntries : List (Node × Node) → Option String
    | [] => none
    | (k, v) :: es => if k.tag = .default then scalarText? v else ofEntries es

/-! ## Values -/

/-- A value, or what is wrong together with the number of collections around it. -/
abbrev Outcome (α : Type) := Except (Nat × ReadError) α

/-- The outcome within one more collection. -/
def deeper {α : Type} (o : Outcome α) : Outcome α := o.mapError fun e => (e.1 + 1, e.2)

/-- Two outcomes together; of two failures the one in fewer collections counts, and the first of
equals. -/
def both {α β : Type} : Outcome α → Outcome β → Outcome (α × β)
  | .ok a, .ok b => .ok (a, b)
  | .error e, .ok _ | .ok _, .error e => .error e
  | .error e, .error f => .error (if f.1 < e.1 then f else e)

/-- Whether the values under a tag can be keys. -/
def isKeyTag : Tag → Bool
  | .sequence | .mapping | .set | .orderedPairs | .pairs => false
  | _ => true

/-- Outcomes in a row, together. -/
def allOf {α : Type} : List (Outcome α) → Outcome (List α)
  | [] => .ok []
  | o :: os => (both o (allOf os)).map fun p => p.1 :: p.2

/-- The outcome of a reader of scalars. -/
def ofScalar {α : Type} (n : Node) (reader : String → Except ReadError α) : Outcome α :=
  match n.scalarText? with
  | none => .error (0, .malformed)
  | some s => (reader s).mapError fun e => (0, e)

/-- The entries of a mapping, from the outcomes of its nodes. -/
def entries (value : Node → Outcome Value) (n : Node) : Outcome (List (Value × Value)) :=
  match merged n with
  | none => .error (0, .malformed)
  | some es =>
    (allOf (es.map fun (k, v) =>
      let key : Outcome Value :=
        if isKeyTag k.tag then value k
        else (both (value k) (.error (0, .malformed) : Outcome Unit)).map (·.1)
      both key (value v)))

/-- The pairs of a sequence of mappings with one entry each. -/
def pairsOf (value : Node → Outcome Value) (n : Node) : Outcome (List Value) :=
  match n with
  | sequence _ items =>
    allOf (items.map fun item =>
      match item with
      | mapping _ [(k, v)] => (both (value k) (value v)).map fun p => .tuple [p.1, p.2]
      | _ => .error (0, .malformed))
  | _ => .error (0, .malformed)

/-- The value of a node; `fuel` bounds how deep collections are nested. -/
def valueAt : (fuel : Nat) → Node → Outcome Value
  | 0, _ => .error (0, .malformed)
  | fuel + 1, n =>
    match n.tag with
    | .null => ofScalar n fun _ => .ok .null
    | .truth => ofScalar n fun s => Value.bool <$> truthOf s
    | .integer => ofScalar n fun s => Value.int <$> integerOf s
    | .number => ofScalar n fun s => Value.float <$> numberOf s
    | .binary => ofScalar n fun s => Value.bytes <$> bytesOf s
    | .timestamp => ofScalar n timestampOf
    | .string => ofScalar n fun s => .ok (.text s)
    | .sequence =>
      match n with
      | sequence _ items => deeper (.list <$> allOf (items.map (valueAt fuel)))
      | _ => .error (1, .malformed)
    | .mapping => deeper ((fun es => .map (Mapping.ofEntries es)) <$> entries (valueAt fuel) n)
    | .set =>
      deeper ((fun es => .set (List.map (·.1) (Mapping.ofEntries es))) <$>
        entries (valueAt fuel) n)
    | .orderedPairs | .pairs => deeper (.list <$> pairsOf (valueAt fuel) n)
    | .merge | .default | .unknown => .error (0, .malformed)

mutual

/-- How deep the collections of a node are nested. -/
def depth : Node → Nat
  | scalar _ _ => 0
  | sequence _ items => depthOfItems items + 1
  | mapping _ entries => depthOfEntries entries + 1

/-- How deep the collections among items are nested. -/
def depthOfItems : List Node → Nat
  | [] => 0
  | n :: ns => max (depth n) (depthOfItems ns)

/-- How deep the collections among entries are nested. -/
def depthOfEntries : List (Node × Node) → Nat
  | [] => 0
  | (k, v) :: es => max (max (depth k) (depth v)) (depthOfEntries es)

end

/-- The value of a node. -/
def value (n : Node) : Except ReadError Value := (valueAt (n.depth + 1) n).mapError (·.2)

end Node

/-- A text that is no document. -/
def ScanError.readError : ScanError → ReadError
  | .malformed => .malformed
  | .character n => .character n

/-- The value of a text; an empty document is null. -/
def read (s : String) : Except ReadError Value := do
  let tokens ← (Token.ofText s).mapError ScanError.readError
  match ← (Node.ofTokens? tokens).mapError ScanError.readError with
  | none => return .null
  | some n => n.value

end CauseTrail.Yaml
