import CauseTrail.Event.Basic
import CauseTrail.Value.Literal

/-!
# Events as payloads

An event is handed on as a mapping of names to values. Reading a payload takes what has the right
shape and fills in the rest: a field that is missing, null or of a wrong kind is left open, other
kinds of values are turned into their plain texts. Four mistakes alone are refused, in this order:
an identifier or a timestamp that cannot be read, a list of records that is no collection, and an
unknown level.

## Main definitions

* `Record.payload`, `Event.payload`: writing
* `Record.ofPayload?`, `Event.ofPayload?`: reading
* `PayloadError`: what is refused
-/

namespace CauseTrail

/-- Why a payload is refused. -/
inductive PayloadError where
  /-- The payload is a value of the given kind and no mapping. -/
  | notAMapping (kind : String)
  | id (e : Uuid.ReadError)
  | timestamp (e : Timestamp.ReadError)
  /-- The records are a value of the given kind and no collection. -/
  | notACollection (kind : String)
  | level (name : String)
deriving DecidableEq, Repr

/-- The wording of a refusal. -/
def PayloadError.message : PayloadError → String
  | .notAMapping kind => s!"'{kind}' object has no attribute 'get'"
  | .id e => e.message
  | .timestamp e => e.message
  | .notACollection kind => s!"'{kind}' object is not iterable"
  | .level name => Text.quote name ++ " is not a valid Level"

/-- A text or null. -/
def Value.ofText? (s? : Option String) : Value := (s?.map Value.text).getD .null

/-- The text of a field: null and missing fields have none. -/
def Mapping.plainText? (m : Mapping) (name : String) : Option String :=
  (m.get? name).bind fun v => if v.isNull then none else some v.plain

/-- The text of a field, null included; `missing` if there is no such field. -/
def Mapping.plainTextD (m : Mapping) (name missing : String) : String :=
  ((m.get? name).map Value.plain).getD missing

namespace Record

/-- The payload of a record: optional fields that are not set are left out. -/
def payload (r : Record) : Mapping :=
  [(.text "type", .text r.type)] ++
    (r.value?.map fun s => (Value.text "value", Value.text s)).toList ++
    (r.module?.map fun s => (Value.text "module", Value.text s)).toList ++
    (r.threadId?.map fun s => (Value.text "thread_id", Value.text s)).toList ++
    (r.mechanism?.map fun m => (Value.text "mechanism", Value.map m)).toList

/-- The record of a mapping. -/
def ofMapping (m : Mapping) : Record where
  type := m.plainTextD "type" ""
  value? := m.plainText? "value"
  module? := m.plainText? "module"
  threadId? := m.plainText? "thread_id"
  mechanism? := match m.get? "mechanism" with
    | some (.map es) => some es
    | _ => none

/-- The record of a payload. -/
def ofPayload? : Value → Except PayloadError Record
  | .map m => .ok (ofMapping m)
  | v => .error (.notAMapping v.qualifiedKind)

end Record

namespace Event

/-- The payload of an event. -/
def payload (e : Event) : Mapping :=
  [(.text "event_id", .text e.id.hex),
    (.text "level", .text e.level.name),
    (.text "exception",
      .map [(.text "values", .list (e.records.map fun r => .map r.payload))]),
    (.text "message", .ofText? e.message?),
    (.text "logger", .ofText? e.logger?),
    (.text "platform", .text e.platform),
    (.text "timestamp", .ofText? (e.timestamp?.map (·.iso))),
    (.text "server_name", .ofText? e.serverName?),
    (.text "release", .ofText? e.release?),
    (.text "environment", .ofText? e.environment?),
    (.text "tags", .map (e.tags.map fun t => (.text t.1, .text t.2))),
    (.text "extra", .map e.extra),
    (.text "fingerprint", .list (e.fingerprint.map .text))]

/-- The identifier of a field: a value that counts as missing stands for nil. -/
def readId (v? : Option Value) : Except PayloadError Uuid :=
  match v? with
  | none => .ok .nil
  | some v => if v.truthy then (Uuid.ofText? v.plain).mapError .id else .ok .nil

/-- The timestamp of a field: only texts and timestamps count. -/
def readTimestamp (v? : Option Value) : Except PayloadError (Option Timestamp) :=
  match v? with
  | some (.text s) => match Timestamp.ofIso? s with
    | .ok t => .ok (some t)
    | .error e => .error (.timestamp e)
  | some (.timestamp t) => .ok (some t)
  | _ => .ok none

/-- The mappings among the members of a collection, or the kind of a value that is none. A text, a
string of bytes, a set and a mapping are collections without such members. -/
def memberMappings : Value → Except PayloadError (List Mapping)
  | .list xs | .tuple xs => .ok (xs.filterMap fun x =>
      match x with
      | .map m => some m
      | _ => none)
  | .text _ | .bytes _ | .set _ | .map _ => .ok []
  | v => .error (.notACollection v.qualifiedKind)

/-- The records of a field. -/
def readRecords (v? : Option Value) : Except PayloadError (List Record) :=
  match v? with
  | some (.map m) =>
    match Mapping.get? m "values" with
    | none => .ok []
    | some v => List.map Record.ofMapping <$> memberMappings v
  | _ => .ok []

/-- The level of a field. -/
def readLevel (m : Mapping) : Except PayloadError Level :=
  let name := m.plainTextD "level" Level.error.name
  match Level.ofName? name with
  | some l => .ok l
  | none => .error (.level name)

/-- The tag of a name set to a text, at the place it has or at the end. -/
def setTag (tags : List (String × String)) (name text : String) : List (String × String) :=
  if tags.any fun t => t.1 = name then
    tags.map fun t => if t.1 = name then (name, text) else t
  else tags ++ [(name, text)]

/-- The tags of a field: names and values as plain texts. -/
def readTags : Option Value → List (String × String)
  | some (.map m) => m.foldl (fun tags t => setTag tags t.1.plain t.2.plain) []
  | _ => []

/-- The annotations of a field. -/
def readExtra : Option Value → Mapping
  | some (.map m) => m
  | _ => []

/-- The fingerprint of a field. -/
def readFingerprint : Option Value → List String
  | some (.list xs) => xs.map Value.plain
  | _ => defaultFingerprint

/-- The event of a mapping. -/
def ofMapping? (m : Mapping) : Except PayloadError Event := do
  let id ← readId (m.get? "event_id")
  let timestamp? ← readTimestamp (m.get? "timestamp")
  let records ← readRecords (m.get? "exception")
  let level ← readLevel m
  return {
    records, level, id, timestamp?
    message? := m.plainText? "message"
    logger? := m.plainText? "logger"
    platform := m.plainTextD "platform" defaultPlatform
    serverName? := m.plainText? "server_name"
    release? := m.plainText? "release"
    environment? := m.plainText? "environment"
    tags := readTags (m.get? "tags")
    extra := readExtra (m.get? "extra")
    fingerprint := readFingerprint (m.get? "fingerprint") }

/-- The event of a payload. -/
def ofPayload? : Value → Except PayloadError Event
  | .map m => ofMapping? m
  | v => .error (.notAMapping v.qualifiedKind)

end Event

end CauseTrail
