import CauseTrail.Value.Basic

/-!
# Client options

The options of a client decide whether it sends, over which transport, and what it adds to the
events it sends. Every option has a default. Options are read from files, variables and arguments
under their names and written under the same names.

## Main definitions

* `TransportKind`: the built-in transports
* `Options`: the options with their defaults
* `Options.Field`: the names of the options
* `Options.get`: the value of an option
* `Options.dump`: the options as a mapping, in the order of declaration
-/

namespace CauseTrail

/-- The built-in transports. -/
inductive TransportKind where
  | null
  | memory
  | console
  | jsonl
deriving DecidableEq, Repr, Inhabited

namespace TransportKind

/-- All built-in transports. -/
def all : List TransportKind := [null, memory, console, jsonl]

/-- The name of a transport. -/
def name : TransportKind → String
  | null => "null"
  | memory => "memory"
  | console => "console"
  | jsonl => "jsonl"

/-- The transport of a name. -/
def ofName? (s : String) : Option TransportKind := all.find? fun k => k.name = s

theorem ofName?_name (k : TransportKind) : ofName? k.name = some k := by
  cases k <;> decide

end TransportKind

/-- The options of a client. -/
structure Options where
  /-- Whether the client sends at all. -/
  enabled : Bool := true
  /-- Whether each event sent is logged. -/
  debug : Bool := false
  /-- The release of events that name none. -/
  release? : Option String := none
  /-- The environment of events that name none. -/
  environment? : Option String := none
  /-- The server of events that name none. -/
  serverName? : Option String := none
  /-- The transport that is built when none is given. -/
  transport : TransportKind := .null
  /-- The file that events are appended to. -/
  transportPath? : Option String := none
  /-- Whether contexts count as causes. -/
  followContext : Bool := true
deriving DecidableEq, Repr, Inhabited

namespace Options

/-- The names of the options. -/
inductive Field where
  | enabled
  | debug
  | release
  | environment
  | serverName
  | transport
  | transportPath
  | followContext
deriving DecidableEq, Repr, Inhabited

namespace Field

/-- All options in the order of declaration. -/
def all : List Field :=
  [enabled, debug, release, environment, serverName, transport, transportPath, followContext]

/-- The name under which an option is read and written. -/
def name : Field → String
  | enabled => "enabled"
  | debug => "debug"
  | release => "release"
  | environment => "environment"
  | serverName => "server_name"
  | transport => "transport"
  | transportPath => "transport_path"
  | followContext => "follow_implicit_context"

/-- The option of a name. -/
def ofName? (s : String) : Option Field := all.find? fun f => f.name = s

/-- Whether an option is a truth value. -/
def isTruth : Field → Bool
  | enabled | debug | followContext => true
  | _ => false

theorem ofName?_name (f : Field) : ofName? f.name = some f := by
  cases f <;> decide

theorem mem_all (f : Field) : f ∈ all := by
  cases f <;> decide

end Field

/-- A text or null. -/
def textOrNull (s? : Option String) : Value := (s?.map Value.text).getD .null

/-- The value of an option. -/
def get (o : Options) : Field → Value
  | .enabled => .bool o.enabled
  | .debug => .bool o.debug
  | .release => textOrNull o.release?
  | .environment => textOrNull o.environment?
  | .serverName => textOrNull o.serverName?
  | .transport => .text o.transport.name
  | .transportPath => textOrNull o.transportPath?
  | .followContext => .bool o.followContext

/-- The options as a mapping, in the order of declaration. -/
def dump (o : Options) : Mapping := Field.all.map fun f => (.text f.name, o.get f)

end Options

end CauseTrail
