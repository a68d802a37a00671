import CauseTrail.Files.Tree
import CauseTrail.Json.Reader
import CauseTrail.Options.Validation
import CauseTrail.Yaml.ScalarValue

/-!
# What is wrong with a configuration

A configuration is refused with a message and with a context that names the file, the variable or
the source at fault. Some failures are not taken for faults of the configuration: bytes that are
no text, values that their notation cannot hold, and paths that the system cannot even look up.

## Main definitions

* `ConfigError`: the refusals, with `ConfigError.message` and `ConfigError.context`
* `LoadError`: the refusals and the other failures
-/

namespace CauseTrail

/-- An issue as a mapping. -/
def Issue.entry (i : Issue) : Value :=
  .map [(.text "type", .text i.kind.name), (.text "loc", .list (i.location.map .text)),
    (.text "msg", .text i.kind.message), (.text "input", .text i.input.literal)]

/-- Why the text of a file is no document. -/
inductive ParseError where
  | json (e : Json.ReadError)
  | yaml
deriving DecidableEq, Repr

/-- The wording of a parse error. -/
def ParseError.message : ParseError → String
  | .json e => e.message
  | .yaml => Yaml.ReadError.malformed.message

/-- Why a configuration is refused. -/
inductive ConfigError where
  | unsupportedType (path : Path)
  | unreadable (path : Path) (e : FileError)
  | unparsable (path : Path) (e : ParseError)
  | notAMapping (path : Path) (kind : String)
  /-- A variable names a file that is not there. -/
  | missingFile (name : String) (path : Path)
  | rejected (issues : List Issue)
  | rejectedFrom (source : String) (issues : List Issue)
  /-- Options are given together with a file. -/
  | optionsAndFile (file : String)
  /-- The transport that writes files has no path. -/
  | pathRequired
  | unknownTransport (kind : Value)
deriving Repr

namespace ConfigError

/-- The wording of rejected options. -/
def rejection (issues : List Issue) : String :=
  "Options validation failed: " ++ Issue.summary issues

/-- The wording of a refusal. -/
def message : ConfigError → String
  | unsupportedType path =>
    "Unsupported config file type " ++ Text.quote path.suffix ++ ": " ++ path.text
  | unreadable path e => s!"Cannot read config file {path.text}: {e.message}"
  | unparsable path e => s!"Cannot parse config file {path.text}: {e.message}"
  | notAMapping path kind => s!"Config file {path.text} must hold a mapping, not {kind}"
  | missingFile name path => s!"{name} points at a missing file: {path.text}"
  | rejected issues => rejection issues
  | rejectedFrom source issues =>
    s!"Invalid errorchain options from {source}: " ++ rejection issues
  | optionsAndFile _ => "Pass either options or a config file to init(), not both."
  | pathRequired => "The 'jsonl' transport requires transport_path."
  | unknownTransport kind => s!"Unknown transport {kind.literal}."

/-- The context of a refusal. -/
def context : ConfigError → Mapping
  | unsupportedType path | unreadable path _ | unparsable path _ | notAMapping path _ =>
    [(.text "path", .text path.text)]
  | missingFile name path =>
    [(.text "path", .text path.text), (.text "variable", .text name)]
  | rejected issues => [(.text "errors", .list (issues.map Issue.entry))]
  | rejectedFrom source issues =>
    [(.text "errors", .list (issues.map Issue.entry)), (.text "source", .text source)]
  | optionsAndFile file => [(.text "config", .text file)]
  | pathRequired => [(.text "transport", .text TransportKind.jsonl.name)]
  | unknownTransport kind => [(.text "transport", kind)]

end ConfigError

/-- Why no options were loaded. -/
inductive LoadError where
  | refused (e : ConfigError)
  /-- The bytes of a file are no text. -/
  | undecodable (e : Text.Utf8Error)
  /-- An integer of a JSON file has too many digits. -/
  | numeral (digits : Nat)
  /-- A scalar of a YAML file has no value. -/
  | scalar (e : Yaml.ReadError)
  /-- A path cannot be looked up. -/
  | inaccessible (e : FileError)
deriving Repr

/-- The wording of a failure. -/
def LoadError.message : LoadError → String
  | .refused e => e.message
  | .undecodable e => e.message
  | .numeral digits => Json.tooManyDigits digits
  | .scalar e => e.message
  | .inaccessible e => e.message

end CauseTrail
