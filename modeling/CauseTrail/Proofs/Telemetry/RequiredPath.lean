import CauseTrail.Proofs.Config.EventPath
import CauseTrail.Proofs.Config.Lookup
import CauseTrail.Proofs.Telemetry.Overriding

/-!
# The path that lines in a file require

Whoever wants lines in a file has to name the file. The path may be given by an override, by a
variable or by the file of options, and the first of these that gives anything decides. A path that
is missing, null or empty is refused before any hub is touched, with one exception: where the file
of options decides and gives an empty text, this text is taken from the directory of the file like
any relative path. It becomes the path of that directory then, which is not empty any more.

## Main definitions

* `Start.pathGiven?`: the value that is given for the path
* `Value.IsBlank`: the values that are as good as no path
* `Start.LosesBlank`: the exception
* `Start.TakesPath`: what the options hold for the path
* `Telemetry.RequiresPath`: what becomes of a start that wants lines in a file

## Main results

* `Start.takesPath_of_options`, `Start.TakesPath.blank_iff`: what is given and what is held
* `Telemetry.start_requiresPath`: when a start without a path is refused
* `Telemetry.not_refused_blankHost`: an empty path that is not refused
-/

namespace CauseTrail

open Options (Field)

/-! ## Texts of paths -/

namespace Path

variable {p q : Path}

/-- The text of a path that begins at the top, or has proper names, is not empty. -/
theorem text_ne_empty (known : p.isAbsolute = true ∨ p.Proper) : p.text ≠ "" := by
  rcases known with absolute | proper
  · intro empty
    have other : p.anchor ≠ .here := by simpa [isAbsolute] using absolute
    rw [text, if_neg fun both => other both.1] at empty
    have none := congrArg String.toList empty
    cases anchor : p.anchor with
    | here => exact other anchor
    | top | doubleTop => simp [anchor, Anchor.text] at none
  · intro empty
    have same : ofText "" = p := empty ▸ ofText_text proper
    rw [← same] at empty
    exact absurd empty (by decide)

/-- A path that is put behind another one begins as that one does, or has proper names with it. -/
theorem known_join (known : p.isAbsolute = true ∨ p.Proper) (proper : q.Proper) :
    (p.join q).isAbsolute = true ∨ (p.join q).Proper := by
  cases relative : q.isAbsolute with
  | true =>
    rw [join_absolute relative]
    exact .inl relative
  | false =>
    rcases known with absolute | first
    · exact .inl ((isAbsolute_join relative).trans absolute)
    · exact .inr (first.join proper)

end Path

namespace Loader

variable {l : Loader} {h : Host} {file? directory? chosen? : Option Path} {p : Path} {t : String}
  {m file : Mapping}

/-- What the chosen file says, before its path for events is taken from its directory. -/
def writtenValues (h : Host) : Option Path → Except LoadError Mapping
  | none => .ok []
  | some p => writtenOptions h p

/-- What is taken of a chosen file. -/
def anchoredValues (chosen? : Option Path) (m : Mapping) : Mapping :=
  (chosen?.map fun p => anchorPath p m).getD m

theorem fileValues_of_written (written : writtenValues h chosen? = .ok file) :
    fileValues h chosen? = .ok (anchoredValues chosen? file) := by
  cases chosen? with
  | none => exact written
  | some p =>
    have raw := rawOptions_eq h p
    rw [show writtenOptions h p = .ok file from written] at raw
    exact raw

/-- A file is chosen by a path that begins at the top or has proper names, if those that are given
do. -/
theorem known_of_chooseFile (file : ∀ q ∈ file?, q.Proper) (directory : ∀ q ∈ directory?, q.Proper)
    (chosen : l.chooseFile h file? directory? = .ok (some p)) :
    p.isAbsolute = true ∨ p.Proper := by
  cases file? with
  | some q =>
    obtain rfl := Option.some.inj (Except.ok.inj chosen)
    exact .inr (file q rfl)
  | none =>
    rw [chooseFile, findFile_eq] at chosen
    obtain ⟨found?, search, chosen⟩ := Except.bind_eq_ok_iff.mp chosen
    have same : found? = some p := by
      cases found? with
      | none => cases named : l.named? h <;> simp [named] at chosen
      | some q => simpa using chosen
    rw [same] at search
    have there := List.mem_of_find?_eq_some (firstFile_eq_ok search).symm
    rw [consulted] at there
    cases named : l.named? h with
    | some q =>
      rw [named] at there
      obtain rfl := List.mem_singleton.mp there
      obtain ⟨text, -, rfl⟩ := Option.map_eq_some_iff.mp named
      exact .inr (Path.proper_ofText text)
    | none =>
      rw [named] at there
      obtain ⟨name, -, rfl⟩ := List.mem_map.mp there
      refine Path.known_join ?_ (Path.proper_ofText name)
      cases directory? with
      | none => exact .inl rfl
      | some q => exact .inr (directory q rfl)

/-- A path for events that was taken from the directory of a file has a text. -/
theorem eventPath_ne_empty (known : p.isAbsolute = true ∨ p.Proper) (t : String) :
    eventPath p t ≠ "" := by
  rw [eventPath]
  split
  · next absolute =>
    rintro rfl
    cases absolute
  · refine Path.text_ne_empty (Path.known_join ?_ (Path.proper_ofText t))
    rcases known with absolute | proper
    · exact .inl ((Path.isAbsolute_parent p).trans absolute)
    · exact .inr fun name there => proper name (List.mem_of_mem_dropLast there)

end Loader

/-! ## Values for a path -/

/-- A value that is as good as no path: null, or an empty text or the bytes of one. -/
def Value.IsBlank : Value → Prop
  | .null => True
  | .text s => s = ""
  | .bytes bs => bs = []
  | _ => False

namespace Options

variable {v : Value} {o : Options} {p : Path}

theorem isBlank_iff {s? : Option String} (read : readText? v = .ok s?) :
    v.IsBlank ↔ s? = none ∨ s? = some "" := by
  cases v with
  | null =>
    obtain rfl := Except.ok.inj read
    exact iff_of_true trivial (.inl rfl)
  | text s =>
    obtain rfl := Except.ok.inj read
    simp [Value.IsBlank]
  | bytes bs =>
    rw [Value.IsBlank, ← Text.ofUtf8?_eq_empty_iff]
    cases decoded : Text.ofUtf8? bs with
    | error e => simp [readText?, decoded] at read
    | ok s =>
      obtain rfl : some s = s? := by simpa [readText?, decoded] using read
      simp
  | _ => cases read

/-- The value that the option for the path holds, read as a text. -/
theorem readText?_of_accept (accepted : Field.transportPath.accept v = .ok (o.get .transportPath)) :
    readText? v = .ok o.transportPath? := by
  obtain ⟨made, assigned, same⟩ := Except.map_eq_ok_iff.mp accepted
  obtain ⟨s?, read, rfl⟩ := Except.map_eq_ok_iff.mp assigned
  rw [read]
  exact congrArg Except.ok (textOrNull_injective same)

end Options

/-- A transport of lines has the path of the options, which is not empty. -/
theorem Transport.ofOptions?_eq_jsonl {o : Options} {p : Path}
    (chosen : ofOptions? o = .ok (.jsonl p)) :
    o.transport = .jsonl ∧ ∃ t, o.transportPath? = some t ∧ t ≠ "" ∧ p = .ofText t := by
  unfold ofOptions? ofValues? at chosen
  simp only [Options.get, TransportKind.ofName?_name] at chosen
  cases kind : o.transport with
  | null | memory | console => simp [kind] at chosen
  | jsonl =>
    cases path : o.transportPath? with
    | none => simp [kind, path, Options.textOrNull, Value.truthy] at chosen
    | some t =>
      by_cases empty : t = ""
      · simp [kind, path, Options.textOrNull, empty] at chosen
      · simp only [kind, path, Options.textOrNull, Option.map_some, Option.getD_some, empty,
          if_false, Except.ok.injEq, Transport.jsonl.injEq] at chosen
        exact ⟨rfl, t, rfl, empty, chosen.symm⟩

namespace Start

variable {s : Start} {h : Host} {chosen? : Option Path} {file : Mapping} {o : Options}

/-- The value for the path that an override gives, or else the variables. -/
def pathAbove? (s : Start) (h : Host) : Option Value :=
  (Mapping.get? s.overrides Field.transportPath.name).or
    (h.environment.given? ({} : Loader).lead .transportPath)

/-- The value that is given for the path: that of an override, or else of the variables, or else
what the file says. -/
def pathGiven? (s : Start) (h : Host) (file : Mapping) : Option Value :=
  (s.pathAbove? h).or (file.get? Field.transportPath.name)

/-- The path is left to the file, and the file says an empty text. -/
def LosesBlank (s : Start) (h : Host) (file : Mapping) : Prop :=
  s.pathAbove? h = none ∧ file.get? Field.transportPath.name = some (.text "")

/-- What the options of a start hold for the path, by what is given. -/
inductive TakesPath (s : Start) (h : Host) (chosen? : Option Path) (file : Mapping) :
    Option String → Prop where
  | unset (free : s.pathGiven? h file = none) : TakesPath s h chosen? file none
  /-- A value is taken as it is, unless it is a text of the file. -/
  | given {v : Value} {t? : Option String} (given : s.pathGiven? h file = some v)
      (read : Options.readText? v = .ok t?) (asIs : s.pathAbove? h ≠ none ∨ ∀ t, v ≠ .text t) :
      TakesPath s h chosen? file t?
  /-- A text of the file is taken from its directory. -/
  | anchored {p : Path} {t : String} (free : s.pathAbove? h = none) (chosen : chosen? = some p)
      (said : file.get? Field.transportPath.name = some (.text t)) :
      TakesPath s h chosen? file (some (Loader.eventPath p t))

/-- The value that counts for the path among all sources. -/
theorem readText?_of_options (loads : s.options? = none)
    (chosen : ({} : Loader).chooseFile h s.path? s.directoryPath? = .ok chosen?)
    (read : Loader.fileValues h chosen? = .ok file) (distinct : Mapping.Distinct s.overrides)
    (settled : s.options h = .ok o) :
    Options.readText? ((s.pathGiven? h file).getD .null) = .ok o.transportPath? := by
  have accepted := accept_of_options loads chosen read distinct settled .transportPath
  refine Options.readText?_of_accept (Eq.trans ?_ accepted)
  rw [pathGiven?, pathAbove?, Loader.effective]
  cases Mapping.get? s.overrides Field.transportPath.name <;> rfl

/-- **What the options hold** for the path comes from the first source that gives anything. -/
theorem takesPath_of_options (loads : s.options? = none)
    (chosen : ({} : Loader).chooseFile h s.path? s.directoryPath? = .ok chosen?)
    (written : Loader.writtenValues h chosen? = .ok file)
    (distinct : Mapping.Distinct s.overrides) (settled : s.options h = .ok o) :
    s.TakesPath h chosen? file o.transportPath? := by
  have read := readText?_of_options loads chosen (Loader.fileValues_of_written written) distinct
    settled
  rw [pathGiven?] at read
  cases above : s.pathAbove? h with
  | some v =>
    rw [above, Option.some_or, Option.getD_some] at read
    exact .given (by rw [pathGiven?, above, Option.some_or]) read (.inl (by simp [above]))
  | none =>
    rw [above, Option.none_or] at read
    have given : s.pathGiven? h file = file.get? Field.transportPath.name := by
      rw [pathGiven?, above, Option.none_or]
    by_cases said : ∃ t, file.get? Field.transportPath.name = some (.text t)
    · obtain ⟨t, said⟩ := said
      cases chosen? with
      | none =>
        obtain rfl := Except.ok.inj written
        cases said
      | some p =>
        rw [show Loader.anchoredValues (some p) file = Loader.anchorPath p file from rfl,
          Loader.get?_anchorPath said] at read
        rw [← Except.ok.inj read]
        exact .anchored above rfl said
    · -- nothing is taken from the directory of the file
      have same : Loader.anchoredValues chosen? file = file := by
        cases chosen? with
        | none => rfl
        | some p => exact Loader.anchorPath_of_other (not_exists.mp said)
      rw [same] at read
      cases value : file.get? Field.transportPath.name with
      | none =>
        rw [value] at read
        rw [← Except.ok.inj read]
        exact .unset (given.trans value)
      | some v =>
        rw [value] at read
        refine .given (given.trans value) read (.inr ?_)
        rintro t rfl
        exact said ⟨t, value⟩

/-- **A path is missing** or empty just when the given value is blank and is not lost. -/
theorem TakesPath.blank_iff {t? : Option String} (takes : s.TakesPath h chosen? file t?)
    (known : ∀ p ∈ chosen?, p.isAbsolute = true ∨ p.Proper) :
    t? = none ∨ t? = some "" ↔
      (∀ v ∈ s.pathGiven? h file, v.IsBlank) ∧ ¬ s.LosesBlank h file := by
  cases takes with
  | unset free =>
    refine iff_of_true (.inl rfl) ⟨by simp [free], ?_⟩
    rintro ⟨above, said⟩
    rw [pathGiven?, above, said] at free
    cases free
  | given given read asIs =>
    rw [given, ← Options.isBlank_iff read]
    constructor
    · intro blank
      refine ⟨by simpa using blank, ?_⟩
      rintro ⟨above, said⟩
      rw [pathGiven?, above, Option.none_or, said] at given
      exact asIs.elim (fun other => other above) fun other => other "" (Option.some.inj given).symm
    · rintro ⟨all, -⟩
      exact all _ rfl
  | @anchored p t free chosen said =>
    have some := Loader.eventPath_ne_empty (known p chosen) t
    have given : s.pathGiven? h file = Option.some (.text t) := by
      rw [pathGiven?, free, Option.none_or, said]
    refine iff_of_false (by simpa using some) ?_
    rintro ⟨all, kept⟩
    obtain rfl : t = "" := all _ given
    exact kept ⟨free, said⟩

/-- A path that is held was given as a text, which is not empty unless it was lost. -/
theorem TakesPath.exists_given {u : String}
    (takes : s.TakesPath h chosen? file (some u)) (some : u ≠ "") :
    ∃ v w, s.pathGiven? h file = Option.some v ∧ Options.readText? v = .ok (Option.some w) ∧
      (w ≠ "" ∨ s.LosesBlank h file) := by
  cases takes with
  | given given read => exact ⟨_, u, given, read, .inl some⟩
  | @anchored p t free chosen said =>
    refine ⟨.text t, t, ?_, rfl, ?_⟩
    · rw [pathGiven?, free, Option.none_or, said]
    · by_cases empty : t = ""
      · exact .inr ⟨free, empty ▸ said⟩
      · exact .inl empty

end Start

namespace Telemetry

variable {t : Telemetry} {thread : Thread} {s : Start} {chosen? : Option Path} {file : Mapping}
  {o : Options}

/-- What becomes of a start that loads its options and wants lines in a file. -/
structure RequiresPath (t : Telemetry) (thread : Thread) (s : Start) (chosen? : Option Path)
    (file : Mapping) : Prop where
  /-- What the options hold for the path is what is given first. -/
  takes : ∀ o, s.options t.host = .ok o → s.TakesPath t.host chosen? file o.transportPath?
  /-- A path that is missing or blank is refused, unless an empty text of the file is lost. -/
  refused_iff : ∀ o, s.options t.host = .ok o → o.transport = .jsonl →
    ((t.start thread s).2 = .error (.transport (.refused .pathRequired)) ↔
      (∀ v ∈ s.pathGiven? t.host file, v.IsBlank) ∧ ¬ s.LosesBlank t.host file)
  /-- Otherwise there is a client. -/
  started_iff : ∀ o, s.options t.host = .ok o → o.transport = .jsonl →
    ((∃ c, (t.start thread s).2 = .ok c) ↔
      (∃ v ∈ s.pathGiven? t.host file, ¬ v.IsBlank) ∨ s.LosesBlank t.host file)
  /-- A start that is refused binds no hub. -/
  unbound : ∀ e, (t.start thread s).2 = .error e → (t.start thread s).1 = t.logged s
  /-- A client over lines in a file was given a value that stands for a text, which is not empty
  unless it was lost. -/
  client : ∀ c p, (t.start thread s).2 = .ok c →
    (t.start thread s).1.transport ((t.start thread s).1.client c).transport = .jsonl p →
    (∃ v u, s.pathGiven? t.host file = some v ∧ Options.readText? v = .ok (some u) ∧
      (u ≠ "" ∨ s.LosesBlank t.host file)) ∧
    ∃ u, s.TakesPath t.host chosen? file (some u) ∧ u ≠ "" ∧ p = .ofText u

/-- **The path that lines in a file require** is asked for where it is missing, null or empty, but
for the empty text of a file. -/
theorem start_requiresPath (thread : Thread) (loads : s.options? = none)
    (chosen : ({} : Loader).chooseFile t.host s.path? s.directoryPath? = .ok chosen?)
    (written : Loader.writtenValues t.host chosen? = .ok file)
    (distinct : Mapping.Distinct s.overrides) : t.RequiresPath thread s chosen? file := by
  have takes {o : Options} (settled : s.options t.host = .ok o) :
      s.TakesPath t.host chosen? file o.transportPath? :=
    Start.takesPath_of_options loads chosen written distinct settled
  have known : ∀ p ∈ chosen?, p.isAbsolute = true ∨ p.Proper := by
    rintro p rfl
    refine Loader.known_of_chooseFile ?_ ?_ chosen
    all_goals
      intro q there
      obtain ⟨text, -, rfl⟩ := Option.map_eq_some_iff.mp there
      exact Path.proper_ofText text
  have refused_iff {o : Options} (settled : s.options t.host = .ok o) (kind : o.transport = .jsonl) :
      (t.start thread s).2 = .error (.transport (.refused .pathRequired)) ↔
        (∀ v ∈ s.pathGiven? t.host file, v.IsBlank) ∧ ¬ s.LosesBlank t.host file := by
    rw [← (takes settled).blank_iff known]
    constructor
    · intro refused
      by_contra named
      obtain ⟨c, started, -⟩ := exists_start (t := t) settled (fun pathless => named pathless.2) thread
      cases refused.symm.trans started
    · intro missing
      exact error_of_parts (Start.parts_of_pathless settled kind missing)
  constructor
  case takes => exact fun o => takes
  case refused_iff => exact fun o => refused_iff
  case started_iff =>
    intro o settled kind
    have either : (∃ v ∈ s.pathGiven? t.host file, ¬ v.IsBlank) ∨ s.LosesBlank t.host file ↔
        ¬ ((∀ v ∈ s.pathGiven? t.host file, v.IsBlank) ∧ ¬ s.LosesBlank t.host file) := by
      rw [not_and_or, not_not, not_forall]
      simp only [not_forall, exists_prop]
    rw [either, ← refused_iff settled kind]
    constructor
    · rintro ⟨c, started⟩ refused
      cases refused.symm.trans started
    · intro accepted
      by_cases pathless : o.Pathless
      · exact absurd (error_of_parts (Start.parts_of_pathless settled kind pathless.2)) accepted
      · obtain ⟨c, started, -⟩ := exists_start settled pathless thread
        exact ⟨c, started⟩
  case unbound => exact fun e => start_of_error
  case client =>
    intro c p started lines
    obtain ⟨-, o, r, parts, -, same⟩ := client_start started
    obtain rfl : r = .jsonl p := same.symm.trans lines
    obtain ⟨o', settled, parts⟩ := Except.bind_eq_ok_iff.mp parts
    obtain ⟨r', choice, parts⟩ := Except.bind_eq_ok_iff.mp parts
    obtain ⟨rfl, rfl⟩ := Prod.mk.inj (Except.ok.inj parts)
    obtain ⟨-, u, path, some, rfl⟩ :=
      Transport.ofOptions?_eq_jsonl (Except.mapError_eq_ok_iff.mp choice)
    have taken := path ▸ takes settled
    exact ⟨taken.exists_given some, u, taken, some, rfl⟩

/-- A state in the directory `/app`, where a file of options says what is given. -/
def appHost (file : String) (environment : Environment) : Telemetry :=
  { oneHub with
    host := {
      files := (FileTree.ofDirectory ["app"]).put ["app", "errorchain.json"]
        (.file (Text.utf8 file))
      directory := ["app"]
      environment := environment } }

/-- The path of the file of options there. -/
def appFile : Path := ⟨.top, ["app", "errorchain.json"]⟩

/-- A file that says a path, and a variable that gives an empty one. -/
def emptiedHost : Telemetry :=
  appHost "\x7b\"transport\": \"jsonl\", \"transport_path\": \"events.jsonl\"\x7d"
    [("ERRORCHAIN_TRANSPORT_PATH", "")]

/-- The laws for a file whose path a variable empties. -/
theorem start_requiresPath_emptiedHost : ∃ file,
    ({} : Loader).chooseFile emptiedHost.host none none = .ok (some appFile) ∧
    Loader.writtenValues emptiedHost.host (some appFile) = .ok file ∧
    Mapping.Distinct (Start.overrides {}) ∧
    emptiedHost.RequiresPath .first {} (some appFile) file ∧
    (emptiedHost.start .first {}).2 = .error (.transport (.refused .pathRequired)) := by
  have chosen : ({} : Loader).chooseFile emptiedHost.host none none = .ok (some appFile) :=
    Except.toOption_eq_some_iff.mp (by decide +kernel)
  have there : (Loader.writtenValues emptiedHost.host (some appFile)).toOption.isSome = true := by
    decide +kernel
  obtain ⟨file, said⟩ := Option.isSome_iff_exists.mp there
  have written := Except.toOption_eq_some_iff.mp said
  have distinct : Mapping.Distinct (Start.overrides {}) := Mapping.distinct_nil
  have settled : Start.options {} emptiedHost.host =
      .ok { transport := .jsonl, transportPath? := some "" } :=
    Except.toOption_eq_some_iff.mp (by decide +kernel)
  have requires := start_requiresPath .first (s := {}) rfl chosen written distinct
  have refused : (emptiedHost.start .first {}).2 = .error (.transport (.refused .pathRequired)) :=
    error_of_parts (Start.parts_of_pathless settled rfl (.inr rfl))
  exact ⟨file, chosen, written, distinct, requires, refused⟩

/-- A file that says an empty path. -/
def blankHost : Telemetry :=
  appHost "\x7b\"transport\": \"jsonl\", \"transport_path\": \"\"\x7d" []

/-- **An empty path** that a file says is not refused: events are to go to the directory of the
file. -/
theorem not_refused_blankHost : ∃ file,
    ({} : Loader).chooseFile blankHost.host none none = .ok (some appFile) ∧
    Loader.writtenValues blankHost.host (some appFile) = .ok file ∧
    Start.pathGiven? {} blankHost.host file = some (.text "") ∧
    ∃ c, (blankHost.start .first {}).2 = .ok c ∧
      (blankHost.start .first {}).1.transport ((blankHost.start .first {}).1.client c).transport =
        .jsonl ⟨.top, ["app"]⟩ := by
  have chosen : ({} : Loader).chooseFile blankHost.host none none = .ok (some appFile) :=
    Except.toOption_eq_some_iff.mp (by decide +kernel)
  have given : ((Loader.writtenValues blankHost.host (some appFile)).toOption.bind
      (Start.pathGiven? {} blankHost.host)).any (·.equal (.text "")) = true := by
    decide +kernel
  simp only [Option.any_eq_true, Option.bind_eq_some_iff, Except.toOption_eq_some_iff,
    Value.equal_text_iff] at given
  obtain ⟨v, ⟨file, written, given⟩, rfl⟩ := given
  have settled : Start.options {} blankHost.host =
      .ok { transport := .jsonl, transportPath? := some "/app" } :=
    Except.toOption_eq_some_iff.mp (by decide +kernel)
  have path : Path.ofText "/app" = ⟨.top, ["app"]⟩ := by decide +kernel
  obtain ⟨c, started, -, -, lines⟩ := exists_start_over settled rfl .first
  exact ⟨file, chosen, written, given, c, started, path ▸ lines⟩

end Telemetry

end CauseTrail
