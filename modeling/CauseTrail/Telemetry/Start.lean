import CauseTrail.Telemetry.Layers

/-!
# Starting

To start is to make a client of options that are given or loaded, with some of them overridden,
and of the transport that they choose, and to bind it to the main hub and to the current hub of the
thread. Options and a file cannot be given together. Whatever fails does so before any hub is
touched.

## Main definitions

* `Start`: what is given
* `Start.options`: the options that come of it
* `Telemetry.start`: the new client
-/

namespace CauseTrail

/-- What is given to start with. -/
structure Start where
  options? : Option Options := none
  /-- The file to read. -/
  file? : Option String := none
  /-- Where a file is searched. -/
  directory? : Option String := none
  overrides : Mapping := []

/-- Why nothing is started. -/
inductive StartError where
  | load (e : LoadError)
  /-- The overrides are rejected. -/
  | overrides (issues : List Issue)
  /-- The options choose no transport. -/
  | transport (e : Transport.ChoiceError)
deriving Repr

namespace Start

/-- The path of the file that is given. -/
def path? (s : Start) : Option Path := s.file?.map Path.ofText

/-- The path of the directory that is given. -/
def directoryPath? (s : Start) : Option Path := s.directory?.map Path.ofText

/-- The options before any of them is overridden. -/
def base (s : Start) (h : Host) : Except LoadError Options :=
  match s.options?, s.file? with
  | some _, some file => .error (.refused (.optionsAndFile file))
  | some o, none => .ok o
  | none, _ => ({} : Loader).load h s.path? s.directoryPath?

/-- What is logged while the options are loaded. -/
def log (s : Start) (h : Host) : List LogEntry :=
  if s.options?.isSome then [] else ({} : Loader).loadLog h s.path? s.directoryPath?

/-- The options with the overrides laid over them. -/
def options (s : Start) (h : Host) : Except StartError Options := do
  let o ← (s.base h).mapError .load
  if s.overrides = [] then return o
  else (o.override? s.overrides).mapError .overrides

/-- The options and the transport that they choose. -/
def parts (s : Start) (h : Host) : Except StartError (Options × Transport) := do
  let o ← s.options h
  let transport ← (Transport.ofOptions? o).mapError .transport
  return (o, transport)

end Start

namespace Telemetry

/-- The state with a client of its own transport put in. -/
def addClientOver (t : Telemetry) (o : Options) (r : Transport) : Telemetry × Ref Client :=
  let added := t.addTransport r
  added.1.addClient ⟨o, added.2⟩

/-- The state with a client bound to the main hub and to the current hub of a thread. -/
def install (t : Telemetry) (thread : Thread) (c : Ref Client) : Telemetry :=
  let found := t.main
  let found := (found.1.bind found.2 (some c)).current thread
  found.1.bind found.2 (some c)

/-- The state after a thread started telemetry, with the new client. -/
def start (t : Telemetry) (thread : Thread) (s : Start) :
    Telemetry × Except StartError (Ref Client) :=
  let logged := { t with log := t.log ++ s.log t.host }
  match s.parts t.host with
  | .error e => (logged, .error e)
  | .ok (o, r) =>
    let added := logged.addClientOver o r
    (added.1.install thread added.2, .ok added.2)

end Telemetry

end CauseTrail
