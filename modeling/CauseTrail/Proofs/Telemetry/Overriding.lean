import CauseTrail.Proofs.Options.Completion
import CauseTrail.Proofs.Telemetry.Starting

/-!
# Options that are overridden

A start lays its overrides over options that are given to it or loaded. What comes of this depends
on the overrides and on those of the options that they leave: the mapping of the options is
validated anew together with the overrides, but an option accepts what it holds as it is. So all
that can be wrong is an override, and what is told is about the overrides alone.

## Main definitions

* `Telemetry.LaysOver`: what comes of overrides that are laid over options

## Main results

* `Start.options_eq`: the options of a start are its base with the overrides laid over it
* `Telemetry.start_laysOver`: overrides win over what is given or loaded, or are told
-/

namespace CauseTrail

open Options (Field)

namespace Start

variable {s : Start} {host : Host} {o o' : Options} {e : StartError}

/-- **The options of a start** are those that it begins with, with the overrides laid over them. -/
theorem options_eq (based : s.base host = .ok o) (distinct : Mapping.Distinct s.overrides) :
    s.options host = (o.laid? s.overrides).mapError .overrides := by
  rw [options, based, Except.ok_mapError, Except.ok_bind]
  split
  · next none =>
    rw [none, Options.laid?_nil]
    rfl
  · rw [Options.override?_eq o distinct]

/-- What a start without overrides refused begins with is what was loaded. -/
theorem load_of_base (based : s.base host = .ok o) (free : s.options? = none) :
    ({} : Loader).load host s.path? s.directoryPath? = .ok o := by
  rw [base, free] at based
  exact based

/-- An option is what it makes of the value that overrides it, or else of the one that counts among
the layers. -/
theorem accept_of_options {chosen? : Option Path} {file : Mapping} (loads : s.options? = none)
    (chosen : ({} : Loader).chooseFile host s.path? s.directoryPath? = .ok chosen?)
    (read : Loader.fileValues host chosen? = .ok file) (distinct : Mapping.Distinct s.overrides)
    (settled : s.options host = .ok o) (f : Field) :
    f.accept ((Mapping.get? s.overrides f.name).getD (({} : Loader).effective host file f)) =
      .ok (o.get f) := by
  obtain ⟨base, based, -⟩ := Except.bind_eq_ok_iff.mp settled
  have based : s.base host = .ok base := Except.mapError_eq_ok_iff.mp based
  have loaded := Loader.accept_of_load chosen read (load_of_base based loads) f
  rw [options_eq based distinct, Except.mapError_eq_ok_iff] at settled
  have accepted := Options.accept_of_laid? settled f
  cases given : Mapping.get? s.overrides f.name with
  | some v => rwa [given] at accepted
  | none =>
    rw [given, Option.getD_none, Field.accept_of_fits (base.fits_get f)] at accepted
    rw [Option.getD_none, loaded, accepted]

theorem parts_of_ofOptions? {r : Transport} (settled : s.options host = .ok o)
    (chosen : Transport.ofOptions? o = .ok r) : s.parts host = .ok (o, r) := by
  rw [parts, settled, Except.ok_bind, chosen]
  rfl

theorem parts_of_error (failed : s.options host = .error e) : s.parts host = .error e := by
  rw [parts, failed]
  rfl

end Start

namespace Telemetry

variable {t : Telemetry} {thread : Thread} {s : Start} {o o' : Options} {e : StartError}

/-- Options that choose a transport start a client of them and of the transport. -/
theorem exists_start_over {r : Transport} (settled : s.options t.host = .ok o)
    (chosen : Transport.ofOptions? o = .ok r) (thread : Thread) :
    ∃ c, (t.start thread s).2 = .ok c ∧ ¬ t.clients.Holds c ∧
      ((t.start thread s).1.client c).options = o ∧
      (t.start thread s).1.transport ((t.start thread s).1.client c).transport = r := by
  have parts := Start.parts_of_ofOptions? settled chosen
  have started : (t.start thread s).2 = .ok t.clients.next := by
    rw [start, parts]
    rfl
  obtain ⟨new, o', r', parts', options, transport⟩ := client_start started
  obtain ⟨rfl, rfl⟩ := Prod.mk.inj (Except.ok.inj (parts.symm.trans parts'))
  exact ⟨_, started, new, options, transport⟩

/-- Options choose a transport unless they want lines in a file and name no file. -/
theorem exists_start (settled : s.options t.host = .ok o) (named : ¬ o.Pathless)
    (thread : Thread) : ∃ c, (t.start thread s).2 = .ok c ∧ ¬ t.clients.Holds c ∧
      ((t.start thread s).1.client c).options = o := by
  cases chosen : Transport.ofOptions? o with
  | error e =>
    have pathless := (Transport.ofOptions?_eq_error_iff (o.fits_get .transportPath)).mp chosen
    exact absurd pathless.1 named
  | ok r =>
    obtain ⟨c, started, new, options, -⟩ := exists_start_over settled chosen thread
    exact ⟨c, started, new, options⟩

theorem start_eq_of_parts (failed : s.parts t.host = .error e) :
    t.start thread s = (t.logged s, .error e) :=
  Prod.ext (start_of_error (error_of_parts failed)) (error_of_parts failed)

/-- What comes of overrides that a start lays over options. -/
structure LaysOver (t : Telemetry) (thread : Thread) (s : Start) (o : Options) : Prop where
  /-- The options are settled just when every override names an option that accepts its value. -/
  settles_iff : (∃ o', s.options t.host = .ok o') ↔
    ∀ e ∈ s.overrides, ∃ (f : Field) (w : Value), e.1 = .text f.name ∧ f.accept e.2 = .ok w
  /-- An option that is overridden is what it makes of the value that it is given. -/
  overridden : ∀ o', s.options t.host = .ok o' →
    ∀ (f : Field) v, Mapping.get? s.overrides f.name = some v → f.accept v = .ok (o'.get f)
  /-- An option that is not overridden is kept. -/
  kept : ∀ o', s.options t.host = .ok o' →
    ∀ f : Field, Mapping.get? s.overrides f.name = none → o'.get f = o.get f
  /-- Overrides come before the variables, the file and the defaults. -/
  wins : ∀ chosen? file, s.options? = none →
    ({} : Loader).chooseFile t.host s.path? s.directoryPath? = .ok chosen? →
    Loader.fileValues t.host chosen? = .ok file → ∀ o', s.options t.host = .ok o' →
    ∀ f : Field, f.accept ((Mapping.get? s.overrides f.name).getD
      (({} : Loader).effective t.host file f)) = .ok (o'.get f)
  /-- Otherwise the issues of all overrides that have one are told, and nothing else. -/
  tells : ∀ e, s.options t.host = .error e → ∃ issues, e = .overrides issues ∧ issues ≠ [] ∧
    issues = Options.issues s.overrides ∧ ∀ i, i ∈ issues ↔ ∃ e ∈ s.overrides, i.Concerns e
  /-- Nothing is started then. -/
  fails : ∀ e, s.options t.host = .error e → t.start thread s = (t.logged s, .error e)
  /-- Options that are settled are those of a new client, if they choose a transport. -/
  client : ∀ o', s.options t.host = .ok o' → ¬ o'.Pathless →
    ∃ c, (t.start thread s).2 = .ok c ∧ ¬ t.clients.Holds c ∧
      ((t.start thread s).1.client c).options = o'
  pathless : ∀ o', s.options t.host = .ok o' → o'.Pathless →
    t.start thread s = (t.logged s, .error (.transport (.refused .pathRequired)))
  /-- Clients that were there hold the options that they held. -/
  others : ∀ c, t.clients.Holds c → (t.start thread s).1.client c = t.client c

/-- **Overrides** win over what a start begins with, or are told to be wrong. -/
theorem start_laysOver (thread : Thread) (based : s.base t.host = .ok o)
    (distinct : Mapping.Distinct s.overrides) : t.LaysOver thread s o := by
  have options := Start.options_eq based distinct
  have laid {o' : Options} (settled : s.options t.host = .ok o') :
      o.laid? s.overrides = .ok o' := by
    rw [options] at settled
    exact Except.mapError_eq_ok_iff.mp settled
  constructor
  case settles_iff =>
    rw [← Options.issues_eq_nil_iff distinct, options]
    simp only [Except.mapError_eq_ok_iff, Options.laid?_eq_ok_iff, exists_and_left, exists_eq,
      and_true]
  case overridden =>
    intro o' settled f v given
    have accepted := Options.accept_of_laid? (laid settled) f
    rwa [given, Option.getD_some] at accepted
  case kept =>
    intro o' settled f free
    have accepted := Options.accept_of_laid? (laid settled) f
    rw [free, Option.getD_none, Field.accept_of_fits (o.fits_get f)] at accepted
    exact (Except.ok.inj accepted).symm
  case wins =>
    intro chosen? file loads chosen read o' settled f
    exact Start.accept_of_options loads chosen read distinct settled f
  case tells =>
    intro e failed
    rw [options] at failed
    cases outcome : o.laid? s.overrides with
    | ok o' =>
      rw [outcome] at failed
      cases failed
    | error issues =>
      rw [outcome] at failed
      obtain ⟨some, rfl⟩ := Options.laid?_eq_error_iff.mp outcome
      exact ⟨_, (Except.error.inj failed).symm, some, rfl, fun i => Options.mem_issues_iff distinct⟩
  case fails => exact fun e failed => start_eq_of_parts (Start.parts_of_error failed)
  case client => exact fun o' settled named => exists_start settled named thread
  case pathless =>
    intro o' settled pathless
    exact start_eq_of_parts (Start.parts_of_pathless settled pathless.1 pathless.2)
  case others => exact fun c held => client_start_of_holds held thread s

/-- A file that gives a release and a path for events, under a variable that gives another
release. -/
def releaseHost : Telemetry :=
  { oneHub with
    host := {
      files := (FileTree.ofDirectory ["app"]).put ["app", "errorchain.json"] (.file (Text.utf8
        "\x7b\"release\": \"1\", \"debug\": true, \"transport_path\": \"/events\"\x7d"))
      directory := ["app"]
      environment := [("ERRORCHAIN_RELEASE", "2"), ("ERRORCHAIN_ENABLED", "yes")] } }

/-- Overrides of three options, two of them spelled otherwise than the options hold them. -/
def releaseStart : Start where
  overrides := [(.text "enabled", .text "Off"), (.text "release", .bytes [51]),
    (.text "transport", .text "jsonl")]

/-- The laws for a start that overrides what a file and a variable give. -/
theorem start_laysOver_releaseStart : ∃ o, releaseStart.base releaseHost.host = .ok o ∧
    Mapping.Distinct releaseStart.overrides ∧ releaseHost.LaysOver .first releaseStart o ∧
    releaseStart.options releaseHost.host =
      .ok { enabled := false, debug := true, release? := some "3", transport := .jsonl
            transportPath? := some "/events" } := by
  have based : releaseStart.base releaseHost.host =
      .ok { debug := true, release? := some "2", transportPath? := some "/events" } :=
    Except.toOption_eq_some_iff.mp (by decide +kernel)
  have distinct : Mapping.Distinct releaseStart.overrides := by
    unfold Mapping.Distinct
    decide +kernel
  have settled : releaseStart.options releaseHost.host =
      .ok { enabled := false, debug := true, release? := some "3", transport := .jsonl
            transportPath? := some "/events" } :=
    Except.toOption_eq_some_iff.mp (by decide +kernel)
  exact ⟨_, based, distinct, start_laysOver .first based distinct, settled⟩

end Telemetry

end CauseTrail
