import CauseTrail.Config.Environment
import CauseTrail.Config.Error
import CauseTrail.Log
import CauseTrail.Yaml.Reader

/-!
# Loading options

Options are put together from three layers: the defaults, one file, and the variables of the
environment, each laid over the ones before it key by key. The file is the one that is given, or
the one that a variable names, or the first of six names that is a file in a directory. The whole
is validated once, after all layers are laid over each other.

A relative path for events that a file gives is taken from the directory of that file.

## Main definitions

* `Host`: the files, the working directory and the variables
* `Loader.findFile`, `Loader.rawOptions`: which file, and what it gives
* `Loader.baseline`: the lowest layer
* `Loader.load`, `Loader.loadFile`, `Loader.loadEnvironment`: the options
* `Loader.loadLog`, `Loader.readLog`: what is logged meanwhile

## Main results

* `Loader.baseline_eq`: the lowest layer has the defaults of the options
-/

namespace CauseTrail

/-- What a program finds around it. -/
structure Host where
  files : FileTree
  directory : Location
  environment : Environment

/-- The working directory as a path. -/
def Host.here (h : Host) : Path := ⟨.top, h.directory⟩

/-- Whether a path leads to a file. -/
def Host.isFile (h : Host) (p : Path) : Except FileError Bool := h.files.isFile h.directory p

/-- A way to load options: with what the names of the variables begin. -/
structure Loader where
  lead : String := "ERRORCHAIN_"
deriving DecidableEq, Repr, Inhabited

namespace Loader

/-- The name under which a file is searched first, and under which a new one is written. -/
def mainFileName : String := "errorchain.yaml"

/-- The names under which a file is searched, in order. -/
def fileNames : List String :=
  [mainFileName, "errorchain.yml", "errorchain.json", ".errorchain.yaml", ".errorchain.yml",
    ".errorchain.json"]

/-- The variable that names a file. -/
def fileVariable (l : Loader) : String := l.lead ++ "CONFIG"

/-- The first of some paths that leads to a file. -/
def firstFile (h : Host) : List Path → Except LoadError (Option Path)
  | [] => .ok none
  | p :: ps =>
    match h.isFile p with
    | .error e => .error (.inaccessible e)
    | .ok true => .ok (some p)
    | .ok false => firstFile h ps

/-- The paths at which a file is searched in a directory. -/
def candidates (directory : Path) : List Path := fileNames.map directory.child

/-- The file that is read when none is given: the one that the variable names unless its text is
empty, else the first one in the directory, which is the working directory by default. -/
def findFile (l : Loader) (h : Host) (directory? : Option Path) :
    Except LoadError (Option Path) :=
  match (h.environment.get? l.fileVariable).filter (· ≠ "") with
  | some named =>
    let path := Path.ofText named
    match h.isFile path with
    | .error e => .error (.inaccessible e)
    | .ok true => .ok (some path)
    | .ok false => .error (.refused (.missingFile l.fileVariable path))
  | none => firstFile h (candidates (directory?.getD h.here))

/-- The formats of files. -/
inductive Format where
  | json
  | yaml
deriving DecidableEq, Repr

/-- The format that the suffix of a path tells, in any ASCII case. -/
def formatOf? (p : Path) : Option Format :=
  let suffix := Options.lower p.suffix
  if suffix = ".json" then some .json
  else if suffix = ".yaml" ∨ suffix = ".yml" then some .yaml
  else none

/-- The text of a file. -/
def textOf (h : Host) (p : Path) : Except LoadError String :=
  match h.files.read h.directory p with
  | .error e =>
    .error (if e.fault.number?.isSome then .refused (.unreadable p e) else .inaccessible e)
  | .ok bytes =>
    match Text.ofUtf8? bytes with
    | .error e => .error (.undecodable e)
    | .ok s => .ok (String.ofList (Text.universalNewlines s.toList))

/-- The value of the text of a file. -/
def parse (p : Path) (f : Format) (s : String) : Except LoadError Value :=
  match f with
  | .json =>
    match Json.read s with
    | .ok v => .ok v
    | .error (.numeral digits) => .error (.numeral digits)
    | .error e => .error (.refused (.unparsable p (.json e)))
  | .yaml =>
    match Yaml.read s with
    | .ok v => .ok v
    | .error .malformed => .error (.refused (.unparsable p .yaml))
    | .error e => .error (.scalar e)

/-- The mapping that the value of a file is; null is the empty one. -/
def mappingOf (p : Path) : Value → Except LoadError Mapping
  | .null => .ok []
  | .map m => .ok m
  | v => .error (.refused (.notAMapping p v.kind))

/-- The mapping of a file with its relative path for events taken from the file's directory. -/
def anchorPath (p : Path) (m : Mapping) : Mapping :=
  match Mapping.get? m Options.Field.transportPath.name with
  | some (.text t) =>
    let path := Path.ofText t
    if path.isAbsolute then m
    else Mapping.insert m (.text Options.Field.transportPath.name)
      (.text (p.parent.join path).text)
  | _ => m

/-- What a file gives. -/
def rawOptions (h : Host) (p : Path) : Except LoadError Mapping :=
  match formatOf? p with
  | none => .error (.refused (.unsupportedType p))
  | some f => do
    let s ← textOf h p
    let v ← parse p f s
    let m ← mappingOf p v
    return anchorPath p m

/-- The options of a mapping that came from `source`. -/
def validate (source : String) (m : Mapping) : Except LoadError Options :=
  (Options.ofMapping? m).mapError fun issues => .refused (.rejectedFrom source issues)

/-- The options of a file alone. -/
def loadFile (h : Host) (file : String) : Except LoadError Options := do
  validate file (← rawOptions h (Path.ofText file))

/-- The options that the variables give. -/
def environmentValues (l : Loader) (h : Host) : Mapping := h.environment.optionValues l.lead

/-- The options of the variables alone. -/
def loadEnvironment (l : Loader) (h : Host) : Except LoadError Options :=
  validate (l.lead ++ "* environment") (l.environmentValues h)

/-- The file that is read: the given one, or the one that is found. -/
def chooseFile (l : Loader) (h : Host) (file? directory? : Option Path) :
    Except LoadError (Option Path) :=
  match file? with
  | some p => .ok (some p)
  | none => l.findFile h directory?

/-- What the chosen file gives: nothing if there is none. -/
def fileValues (h : Host) : Option Path → Except LoadError Mapping
  | none => .ok []
  | some p => rawOptions h p

/-- The options that all layers are laid over. They are spelled out here once more, apart from the
defaults in the declaration of the options, and are taken not to be assigned to. -/
def baseline : Options where
  enabled := true
  debug := false
  release? := none
  environment? := none
  serverName? := none
  transport := .null
  transportPath? := none
  followContext := true

/-- The two sets of defaults are the same. -/
theorem baseline_eq : baseline = {} := rfl

/-- The lowest layer with a file and the variables laid over it. -/
def layered (l : Loader) (h : Host) (file : Mapping) : Mapping :=
  Mapping.update (Mapping.update baseline.dump file) (l.environmentValues h)

/-- Where options come from, as messages name it. -/
def sourceName (file? : Option Path) : String := (file?.map Path.text).getD "defaults"

/-- The options of all layers. -/
def load (l : Loader) (h : Host) (file? directory? : Option Path) : Except LoadError Options := do
  let chosen? ← l.chooseFile h file? directory?
  let values ← fileValues h chosen?
  validate (sourceName chosen?) (l.layered h values)

/-! ## The log -/

/-- What is logged while a file is read. -/
def readLog (h : Host) (p : Path) : List LogEntry :=
  match rawOptions h p with
  | .ok _ => [.fileRead p]
  | .error _ => []

/-- The names of the options that the variables give, in alphabetical order. -/
def overriddenNames (l : Loader) (h : Host) : List String :=
  ((l.environmentValues h).map fun e => e.1.plain).mergeSort fun a b => decide (a ≤ b)

/-- What is logged of the variables. -/
def environmentLog (l : Loader) (h : Host) : List LogEntry :=
  if (l.environmentValues h).isEmpty then [] else [.overridden (l.overriddenNames h)]

/-- What is logged while options are loaded. -/
def loadLog (l : Loader) (h : Host) (file? directory? : Option Path) : List LogEntry :=
  match l.chooseFile h file? directory? with
  | .error _ => []
  | .ok none => .noFile :: l.environmentLog h
  | .ok (some p) =>
    match rawOptions h p with
    | .error _ => []
    | .ok _ => .fileRead p :: .fileLoaded p :: l.environmentLog h

end Loader

end CauseTrail
