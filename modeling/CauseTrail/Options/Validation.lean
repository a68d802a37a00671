import CauseTrail.Options.Basic
import CauseTrail.Text.Utf8
import CauseTrail.Value.Literal

/-!
# Validation of options

Options are made of a mapping of names to values. Each option takes values of its own kind and
those that plainly stand for one: a truth value may be written as zero or one or as one of twelve
words, and a text as its bytes. Whatever is wrong with a mapping is found at once: first the
options that are refused, in the order of declaration, then the keys that name no option, in the
order given.

## Main definitions

* `Issue`: one thing that is wrong
* `Options.assign`: an option set to a value
* `Options.ofMapping?`, `Options.ofValue?`: the options of a mapping and of any value
-/

namespace CauseTrail

/-- What is wrong with a value. -/
inductive IssueKind where
  | truthText
  | truthKind
  | textKind
  | textBytes
  | transport
  | unknownName
  | keyKind
  | notAMapping
  /-- There is no option of this name to assign to. -/
  | noSuchOption (name : String)
deriving DecidableEq, Repr

namespace IssueKind

/-- The name of what is wrong. -/
def name : IssueKind → String
  | truthText => "bool_parsing"
  | truthKind => "bool_type"
  | textKind => "string_type"
  | textBytes => "string_unicode"
  | transport => "literal_error"
  | unknownName => "extra_forbidden"
  | keyKind => "invalid_key"
  | notAMapping => "model_type"
  | noSuchOption _ => "no_such_attribute"

/-- The wording of what is wrong. -/
def message : IssueKind → String
  | truthText => "Input should be a valid boolean, unable to interpret input"
  | truthKind => "Input should be a valid boolean"
  | textKind => "Input should be a valid string"
  | textBytes => "Input should be a valid string, unable to parse raw data as a unicode string"
  | transport => "Input should be 'null', 'memory', 'console' or 'jsonl'"
  | unknownName => "Extra inputs are not permitted"
  | keyKind => "Keys should be strings"
  | notAMapping => "Input should be a valid dictionary or instance of ClientOptions"
  | noSuchOption name => s!"Object has no attribute '{name}'"

end IssueKind

/-- One thing that is wrong: where, with which value, and what. -/
structure Issue where
  kind : IssueKind
  location : List String
  input : Value
deriving Repr

/-- The wording of a list of issues without the issues themselves. -/
def Issue.summary (issues : List Issue) : String :=
  let count := issues.length
  toString count ++ (if count = 1 then " validation error" else " validation errors") ++
    " for ClientOptions"

namespace Options

/-- The words that stand for true and false. -/
def truthWords : List (String × Bool) :=
  [("1", true), ("on", true), ("t", true), ("true", true), ("y", true), ("yes", true),
    ("0", false), ("off", false), ("f", false), ("false", false), ("n", false), ("no", false)]

/-- The text with ASCII capitals made small. -/
def lower (s : String) : String := String.ofList (s.toList.map Char.toLower)

/-- The truth value of a word in any ASCII case. -/
def truthOfText (s : String) : Except IssueKind Bool :=
  match truthWords.find? fun w => w.1 = lower s with
  | some (_, b) => .ok b
  | none => .error .truthText

/-- The least integer of a machine word. -/
def leastWord : Int := -0x8000000000000000

/-- The truth value of an integer: of those that fit a machine word, zero and one have one. -/
def truthOfInt (n : Int) : Except IssueKind Bool :=
  if n = 0 then .ok false
  else if n = 1 then .ok true
  else if leastWord ≤ n ∧ n < -leastWord then .error .truthText
  else .error .truthKind

/-- The truth value that a value stands for. -/
def readTruth : Value → Except IssueKind Bool
  | .bool b => .ok b
  | .int n => truthOfInt n
  | .float x =>
    match x.toInt? with
    | some n => if n = leastWord then .error .truthKind else truthOfInt n
    | none => .error .truthKind
  | .text s => truthOfText s
  | .bytes bs =>
    match Text.ofUtf8? bs with
    | .ok s => truthOfText s
    | .error _ => .error .truthText
  | _ => .error .truthKind

/-- The text that a value stands for, or none for null. -/
def readText? : Value → Except IssueKind (Option String)
  | .null => .ok none
  | .text s => .ok (some s)
  | .bytes bs =>
    match Text.ofUtf8? bs with
    | .ok s => .ok (some s)
    | .error _ => .error .textBytes
  | _ => .error .textKind

/-- The transport that a value names. -/
def readTransport : Value → Except IssueKind TransportKind
  | .text s =>
    match TransportKind.ofName? s with
    | some k => .ok k
    | none => .error .transport
  | _ => .error .transport

/-- The options with one of them set to what a value stands for. -/
def assign (o : Options) (f : Field) (v : Value) : Except IssueKind Options :=
  match f with
  | .enabled => (fun b => { o with enabled := b }) <$> readTruth v
  | .debug => (fun b => { o with debug := b }) <$> readTruth v
  | .release => (fun s? => { o with release? := s? }) <$> readText? v
  | .environment => (fun s? => { o with environment? := s? }) <$> readText? v
  | .serverName => (fun s? => { o with serverName? := s? }) <$> readText? v
  | .transport => (fun k => { o with transport := k }) <$> readTransport v
  | .transportPath => (fun s? => { o with transportPath? := s? }) <$> readText? v
  | .followContext => (fun b => { o with followContext := b }) <$> readTruth v

/-- What is wrong with a value for an option, if anything. -/
def issue? (f : Field) (v : Value) : Option IssueKind :=
  match ({} : Options).assign f v with
  | .ok _ => none
  | .error kind => some kind

/-- The issues of the options that a mapping gives, in the order of declaration. -/
def fieldIssues (m : Mapping) : List Issue :=
  Field.all.filterMap fun f => do
    let v ← m.get? f.name
    let kind ← issue? f v
    return ⟨kind, [f.name], v⟩

/-- The place of a key that is no text. -/
def keyLocation (k : Value) : String :=
  match k.integer? with
  | some n => toString n
  | none => k.literal

/-- The issue of a key that names no option. -/
def keyIssue? : Value × Value → Option Issue
  | (.text name, v) =>
    match Field.ofName? name with
    | some _ => none
    | none => some ⟨.unknownName, [name], v⟩
  | (k, _) => some ⟨.keyKind, [keyLocation k], k⟩

/-- All issues of a mapping. -/
def issues (m : Mapping) : List Issue := fieldIssues m ++ List.filterMap keyIssue? m

/-- The options with every option that a mapping gives set, as far as its value is taken. -/
def overlay (o : Options) (m : Mapping) : Options :=
  Field.all.foldl (fun o f => ((m.get? f.name).bind fun v => (o.assign f v).toOption).getD o) o

/-- The options of a mapping, or all that is wrong with it. -/
def ofMapping? (m : Mapping) : Except (List Issue) Options :=
  match issues m with
  | [] => .ok (({} : Options).overlay m)
  | found => .error found

/-- The options of a value. -/
def ofValue? : Value → Except (List Issue) Options
  | .map m => ofMapping? m
  | v => .error [⟨.notAMapping, [], v⟩]

/-- The options with the option of the given name set. A name that begins with an underscore is
private to whoever assigns to it and touches no option. One of these is left out, `__dict__`, under
which all options could be replaced unseen. -/
def set? (o : Options) (name : String) (v : Value) : Except (List Issue) Options :=
  match Field.ofName? name with
  | some f => (o.assign f v).mapError fun kind => [⟨kind, [name], v⟩]
  | none => if name.startsWith "_" then .ok o else .error [⟨.noSuchOption name, [name], v⟩]

/-- The options of a mapping laid over the given ones. -/
def override? (o : Options) (m : Mapping) : Except (List Issue) Options :=
  ofMapping? (Mapping.update o.dump m)

end Options

end CauseTrail
