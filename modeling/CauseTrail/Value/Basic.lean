import CauseTrail.Calendar.Timestamp
import CauseTrail.Decimal.Binary64

/-!
# Dynamic values

Event payloads and configuration files hold values of no fixed shape. A mapping keeps its entries
in the order of insertion, with any value as a key; two keys are the same when they are equal as
values, so that `1`, `1.0` and `true` are one key.

## Main definitions

* `Value`: the values
* `Value.kind`, `Value.qualifiedKind`: the name of the kind of a value, as messages spell it
* `Value.equal`: equality, with numbers compared across kinds and mappings without regard to order
* `Value.truthy`: whether a value counts as given
* `Mapping.insert`, `Mapping.lookup?`, `Mapping.update`: the operations on mappings
-/

namespace CauseTrail

/-- A value of a payload or of a configuration file. -/
inductive Value where
  | null
  | bool (b : Bool)
  | int (n : Int)
  | float (x : Binary64)
  | text (s : String)
  | bytes (bs : List UInt8)
  | date (d : Date)
  | timestamp (t : Timestamp)
  | list (xs : List Value)
  | tuple (xs : List Value)
  | set (xs : List Value)
  | map (entries : List (Value × Value))
deriving Repr, Inhabited

/-- The entries of a mapping, in the order of insertion. -/
abbrev Mapping := List (Value × Value)

namespace Value

/-- The name of the kind of a value, as most messages spell it. -/
def kind : Value → String
  | null => "NoneType"
  | bool _ => "bool"
  | int _ => "int"
  | float _ => "float"
  | text _ => "str"
  | bytes _ => "bytes"
  | date _ => "date"
  | timestamp _ => "datetime"
  | list _ => "list"
  | tuple _ => "tuple"
  | set _ => "set"
  | map _ => "dict"

/-- The name of the kind of a value with the name of a module before it where there is one, as
messages about attributes, iteration and keys spell it. -/
def qualifiedKind : Value → String
  | date _ => "datetime.date"
  | timestamp _ => "datetime.datetime"
  | v => v.kind

/-- Whether a value counts as given: nulls, false, zeros and empty collections do not. -/
def truthy : Value → Bool
  | null => false
  | bool b => b
  | int n => n ≠ 0
  | float x => !x.isZero
  | text s => s ≠ ""
  | bytes bs => !bs.isEmpty
  | list xs | tuple xs | set xs => !xs.isEmpty
  | map es => !es.isEmpty
  | date _ | timestamp _ => true

/-- The integer that a truth value or an integer counts as. -/
def integer? : Value → Option Int
  | bool b => some (if b then 1 else 0)
  | int n => some n
  | _ => none

/-- Whether a value is null. -/
def isNull : Value → Bool
  | null => true
  | _ => false

mutual

/-- Equality of values. Truth values count as the numbers zero and one. -/
def equal : Value → Value → Bool
  | null, null => true
  | bool a, v => scalarEqual (if a then 1 else 0) v
  | int a, v => scalarEqual a v
  | float x, float y => x.equal y
  | float x, v => (v.integer?.map fun n => decide (x.toInt? = some n)).getD false
  | text a, text b => decide (a = b)
  | bytes a, bytes b => decide (a = b)
  | date a, date b => decide (a = b)
  | timestamp a, timestamp b => a.same b
  | list xs, list ys => equalList xs ys
  | tuple xs, tuple ys => equalList xs ys
  | set xs, set ys => decide (xs.length = ys.length) && containedIn xs ys
  | map es, map fs => decide (es.length = fs.length) && entriesIn es fs
  | _, _ => false
where
  /-- Equality of an integer with a value. -/
  scalarEqual (n : Int) : Value → Bool
    | bool b => decide (n = if b then 1 else 0)
    | int m => decide (n = m)
    | float y => decide (y.toInt? = some n)
    | _ => false

/-- Equality of lists, member by member. -/
def equalList : List Value → List Value → Bool
  | [], [] => true
  | x :: xs, y :: ys => x.equal y && equalList xs ys
  | _, _ => false

/-- Whether every member of the first list equals one of the second. -/
def containedIn : List Value → List Value → Bool
  | [], _ => true
  | x :: xs, ys => ys.any (fun y => x.equal y) && containedIn xs ys

/-- Whether every entry of the first mapping is in the second. -/
def entriesIn : List (Value × Value) → List (Value × Value) → Bool
  | [], _ => true
  | (k, v) :: es, fs => fs.any (fun f => k.equal f.1 && v.equal f.2) && entriesIn es fs

end

end Value

namespace Mapping

/-- The value under a key that equals `k`. -/
def lookup? (m : Mapping) (k : Value) : Option Value :=
  (List.find? (fun e => e.1.equal k) m).map (·.2)

/-- The value under a name. -/
def get? (m : Mapping) (name : String) : Option Value := m.lookup? (.text name)

/-- The mapping with `v` under the key `k`: an entry keeps its place and its key when its value is
replaced, and a new entry comes last. -/
def insert : Mapping → Value → Value → Mapping
  | [], k, v => [(k, v)]
  | e :: es, k, v => if e.1.equal k then (e.1, v) :: es else e :: insert es k v

/-- The mapping with all entries of another one inserted in order. -/
def update (m other : Mapping) : Mapping := other.foldl (fun m e => Mapping.insert m e.1 e.2) m

/-- The mapping of a list of entries, of which the last one under a key counts. -/
def ofEntries (es : List (Value × Value)) : Mapping := update [] es

end Mapping

end CauseTrail
