import CauseTrail.Uuid
import CauseTrail.Value.Basic

/-!
# Events

An event is the diagnostic record of an error: one record for each link of its chain of causes,
the root cause first, with a level, an identifier, a timestamp and free annotations. Until an
event is captured its identifier is nil and its timestamp is missing.

## Main definitions

* `Level`: the five levels of severity
* `Record`: what an event says about one error
* `Event`: the events
* `Event.equal`: equality, with free annotations compared as values
-/

namespace CauseTrail

/-- The severity of an event. -/
inductive Level where
  | debug
  | info
  | warning
  | error
  | fatal
deriving DecidableEq, Repr, Inhabited

namespace Level

/-- All levels. -/
def all : List Level := [debug, info, warning, error, fatal]

/-- The name of a level. -/
def name : Level → String
  | debug => "debug"
  | info => "info"
  | warning => "warning"
  | error => "error"
  | fatal => "fatal"

/-- The level of a name. -/
def ofName? (s : String) : Option Level := all.find? fun l => l.name = s

theorem ofName?_name (l : Level) : ofName? l.name = some l := by
  cases l <;> decide

end Level

/-- What an event says about one error. -/
structure Record where
  type : String
  value? : Option String
  module? : Option String
  threadId? : Option String
  mechanism? : Option Mapping
deriving Repr, Inhabited

/-- The record of an error of the given type with the given message. -/
def Record.ofTexts (type value : String) : Record := ⟨type, some value, none, none, none⟩

/-- The mark that asks for the default grouping of events. -/
def defaultFingerprint : List String := ["\x7b\x7b default \x7d\x7d"]

/-- The platform of an event that names none. -/
def defaultPlatform : String := "python"

/-- The diagnostic record of an error. -/
structure Event where
  records : List Record
  level : Level
  id : Uuid
  message? : Option String
  logger? : Option String
  platform : String
  timestamp? : Option Timestamp
  serverName? : Option String
  release? : Option String
  environment? : Option String
  tags : List (String × String)
  extra : Mapping
  fingerprint : List String
deriving Repr, Inhabited

namespace Record

/-- Equality of records. -/
def equal (a b : Record) : Bool :=
  decide (a.type = b.type ∧ a.value? = b.value? ∧ a.module? = b.module? ∧
    a.threadId? = b.threadId?) &&
  match a.mechanism?, b.mechanism? with
  | none, none => true
  | some m, some n => (Value.map m).equal (.map n)
  | _, _ => false

end Record

namespace Event

/-- The event of the given records, with everything else left open. -/
def ofRecords (records : List Record) (level : Level) : Event :=
  ⟨records, level, .nil, none, none, defaultPlatform, none, none, none, none, [], [],
    defaultFingerprint⟩

/-- Equality of lists of records. -/
def equalRecords : List Record → List Record → Bool
  | [], [] => true
  | a :: as, b :: bs => a.equal b && equalRecords as bs
  | _, _ => false

/-- Equality of timestamps that may be missing. -/
def equalTimestamps : Option Timestamp → Option Timestamp → Bool
  | none, none => true
  | some a, some b => a.same b
  | _, _ => false

/-- Equality of tags, without regard to their order. -/
def equalTags (a b : List (String × String)) : Bool :=
  decide (a.length = b.length) && a.all fun t => b.contains t

/-- Equality of events. -/
def equal (a b : Event) : Bool :=
  equalRecords a.records b.records &&
  decide (a.level = b.level ∧ a.id = b.id ∧ a.message? = b.message? ∧ a.logger? = b.logger? ∧
    a.platform = b.platform ∧ a.serverName? = b.serverName? ∧ a.release? = b.release? ∧
    a.environment? = b.environment? ∧ a.fingerprint = b.fingerprint) &&
  equalTimestamps a.timestamp? b.timestamp? && equalTags a.tags b.tags &&
  (Value.map a.extra).equal (.map b.extra)

end Event

end CauseTrail
