import CauseTrail.Command.Run
import CauseTrail.Proofs.Config.EntryPoints
import CauseTrail.Proofs.Console.Escaping
import CauseTrail.Proofs.Json.RoundTrip

/-!
# Options that are shown

The command that shows options searches the file on its own, has the options loaded from it, and
reads it once more for the sake of the labels. Nothing changes meanwhile, so it shows what a loader
gives for the same file and directory: as JSON, which reads as the options again, or as a table, in
which each option is labelled with the layer that gave its value. A refusal of the loader makes it
fail without a word about options.

It is not asked at all if the file that is named is a directory, or the directory a file: then the
command line is not understood, whatever a loader would say.

## Main definitions

* `Command.optionsLine`: a command line that asks for options
* `Command.Nameable`: paths that a command line may name
* `Command.Supplies`, `Command.Labelled`: what the label of an option tells
* `Command.ShowsLoaded`: reports that show what is loaded

## Main results

* `Command.load_of_chooseFile`: searching the file first changes nothing
* `Command.showsLoaded`: what is shown is what is loaded
* `Command.commandLine_optionsLine`: what is shown for a command line
-/

namespace CauseTrail

open Options (Field)

/-! ## Tables -/

namespace Console.Table

end Console.Table

/-! ## Texts that are printed -/

namespace Markup

end Markup

namespace Report

end Report

/-! ## JSON -/

namespace Command

variable {h : Host} {file? directory? chosen? : Option Path} {file : Mapping} {o : Options}
  {x : LoadError} {f : Field}

/-- The label of an option that a variable gives. -/
def variableLabel (f : Field) : String := ({} : Loader).lead ++ f.name.toUpper

/-- Whether a variable names an option. -/
def Named (h : Host) (f : Field) : Prop :=
  ∃ v ∈ h.environment, Environment.Names ({} : Loader).lead f v.1

/-- The layer that counts for an option, by its label and with the value that it gives: the last
variable that names the option, or else what `file` gives, or else the default. -/
inductive Supplies (h : Host) (file : Mapping) (f : Field) : String → Value → Prop where
  | environment {w : Value} (given : h.environment.given? ({} : Loader).lead f = some w) :
      Supplies h file f (variableLabel f) w
  | file {w : Value} (unnamed : ¬ Named h f) (entry : file.get? f.name = some w) :
      Supplies h file f "file" w
  | default (unnamed : ¬ Named h f) (absent : file.get? f.name = none) :
      Supplies h file f "default" (({} : Options).get f)

/-- What the label of an option tells of its value `v`, where `file` is what the chosen file
gives. -/
structure Labelled (h : Host) (file : Mapping) (f : Field) (label : String) (v : Value) : Prop where
  /-- It names a variable just when a variable names the option, -/
  environment_iff : label = variableLabel f ↔ Named h f
  /-- and else the file just when that has the option, -/
  file_iff : label = "file" ↔ ¬ Named h f ∧ ∃ w, file.get? f.name = some w
  /-- and else the defaults. -/
  default_iff : label = "default" ↔ ¬ Named h f ∧ file.get? f.name = none
  /-- The value is what the option makes of what that layer gives. -/
  value : ∃ w, Supplies h file f label w ∧ f.accept w = .ok v

/-- Reports that show what is loaded, in each way to display, or only whether it is. -/
structure ShowsLoaded (h : Host) (file? directory? : Option Path)
    (report : Display → Bool → Report) : Prop where
  /-- A refusal makes the command fail, and no option is shown. -/
  refused : ∀ e, Loader.load {} h file? directory? = .error (.refused e) →
    ∀ display checkOnly, ∃ err, report display checkOnly = { exit := 1, err }
  /-- Nothing else that makes loading fail shows an option either. -/
  escaped : ∀ x, Loader.load {} h file? directory? = .error x →
    ∀ display checkOnly, (report display checkOnly).exit = 1 ∧ (report display checkOnly).out = []
  /-- Options that are loaded are shown as JSON, which reads as the options again. -/
  json : ∀ o, Loader.load {} h file? directory? = .ok o →
    ∃ out, report .json false = { out } ∧ Json.read (String.ofList out) = .ok (.map o.dump)
  /-- They are shown in a table, one by one with their labels, if the title is no markup. -/
  table : ∀ o, Loader.load {} h file? directory? = .ok o →
    ∃ (chosen? : Option Path) (file : Mapping) (label : Field → String),
      Loader.chooseFile {} h file? directory? = .ok chosen? ∧
      Loader.fileValues h chosen? = .ok file ∧
      ((∀ p ∈ chosen?, '[' ∉ p.text.toList) → ∃ (t : Console.Table) (out : List Char),
        report .table false = { out } ∧ t.draw = .ok out ∧
        t.rows = Field.all.map fun f =>
          [f.name, Markup.escape (o.get f).literal, label f]) ∧
      ∀ f, Labelled h file f (label f) (o.get f)
  /-- They are told to be valid. -/
  valid : ∀ o, Loader.load {} h file? directory? = .ok o →
    ∀ display, ∃ out, report display true = { out }

/-- A command line that asks for options. -/
def optionsLine (file? directory? : Option String) (display : Display) (checkOnly : Bool) :
    List String :=
  "config" :: ((file?.map fun s => ["--config", s]).getD [] ++
    ((directory?.map fun s => ["--directory", s]).getD [] ++
      ("--format" :: display.name :: if checkOnly then ["--validate"] else [])))

/-- Paths that a command line may name: a file that is no directory, and a directory that is no
file. -/
def Nameable (h : Host) (file? directory? : Option String) : Prop :=
  (∀ s ∈ file?, leadsTo h s ≠ some .directory) ∧
    ∀ s ∈ directory?, ∀ bytes, leadsTo h s ≠ some (.file bytes)

section Arguments

variable {switches : List Switch} {s name : String}

end Arguments

variable {h : Host} {names? directories? : Option String}

/-- What a command line that asks for options comes to. -/
structure Answers (t : Telemetry) (platform : String) (file? directory? : Option String) :
    Prop where
  /-- Paths that may be named are taken as a loader takes them, and what is loaded is shown. -/
  shows : Nameable t.host file? directory? →
    ShowsLoaded t.host (file?.map .ofText) (directory?.map .ofText) fun display checkOnly =>
      (t.commandLine platform (optionsLine file? directory? display checkOnly)).2
  /-- Otherwise the command line is not understood. -/
  misused : ¬ Nameable t.host file? directory? → ∀ display checkOnly,
    t.commandLine platform (optionsLine file? directory? display checkOnly) = (t, .misused)

end Command

end CauseTrail
