import CauseTrail.Proofs.Config.Lookup

/-!
# How loading fails

Most of what can be wrong with a file, a variable or a value is told by a refusal whose context
names the path of the file, or the source of the values that were rejected. Some of it is not taken
for a fault of the configuration: a path that holds the terminator, a path that is too long to be
looked up by a search, bytes that are no text, and numbers and scalars to which their notation gives
no value. These stray past the refusals, and loading fails with what was wrong at that place.

## Main definitions

* `Told`: a result, or a refusal of which something holds
* `ToldBut`: the same, but for certain failures
* `ConfigError.Names`: a refusal whose context names the path or the source
* `Loader.Strays`, `Loader.SearchStrays`, `Loader.LoadStrays`: what reading, searching and loading
  fail with if it is no refusal
* `Loader.Reports`: what the ways to load tell

## Main results

* `Loader.rawOptions_cases`, `Loader.Strays.rawOptions`: a file is refused with its path, or strays
* `Loader.reports`: all ways to load tell what is wrong, but for what strays
* `Loader.not_told_oddHost`: a file of one byte of which nothing is told
-/

namespace CauseTrail

/-- A result, or a refusal of which something holds, and no other failure. -/
def Told {α : Type} (names : ConfigError → Prop) (outcome : Except LoadError α) : Prop :=
  ∀ x, outcome = .error x → ∃ e, x = .refused e ∧ names e

/-- An outcome is told, but for certain failures, which are no refusals. -/
structure ToldBut {α : Type} (names : ConfigError → Prop) (strays : LoadError → Prop)
    (outcome : Except LoadError α) : Prop where
  cases : ∀ x, outcome = .error x → (∃ e, x = .refused e ∧ names e) ∨ strays x
  strays : ∀ x, strays x → outcome = .error x ∧ ∀ e, x ≠ .refused e

section Told

variable {α : Type} {names : ConfigError → Prop} {strays : LoadError → Prop}
  {outcome : Except LoadError α} {x : LoadError}

/-- Of what strays nothing is told. -/
theorem ToldBut.not_told (but : ToldBut names strays outcome) (stray : strays x)
    (names' : ConfigError → Prop) : ¬ Told names' outcome := by
  intro told
  obtain ⟨failed, other⟩ := but.strays x stray
  obtain ⟨e, refused, -⟩ := told x failed
  exact other e refused

/-- An outcome is told just when nothing strays. -/
theorem ToldBut.told_iff (but : ToldBut names strays outcome) :
    Told names outcome ↔ ∀ x, ¬ strays x := by
  constructor
  · exact fun told x stray => but.not_told stray names told
  · exact fun none x failed => (but.cases x failed).resolve_right (none x)

end Told

/-- The context of a refusal names the path of the file at fault, or the source of the values if
they were rejected. -/
def ConfigError.Names (path? : Option Path) (source : String) : ConfigError → Prop
  | .rejectedFrom from' issues =>
    (ConfigError.rejectedFrom from' issues).context.get? "source" = some (.text source)
  | e => ∃ p, path? = some p ∧ e.context.get? "path" = some (.text p.text)

theorem Mapping.get?_cons_self (key : String) (v : Value) (rest : Mapping) :
    get? ((.text key, v) :: rest) key = some v := by
  rw [Mapping.get?_cons_text, if_pos rfl]

namespace Loader

variable {l : Loader} {h : Host} {p : Path} {file? directory? : Option Path} {x : LoadError}
  {s source : String} {f : Format}

/-! ## Reading a file -/

/-- What reading a file fails with if it is no refusal. -/
inductive Strays (h : Host) (p : Path) : LoadError → Prop where
  /-- The system is not asked for a path that holds the terminator. -/
  | terminator {f : Format} (format : formatOf? p = some f) (held : '\x00' ∈ p.text.toList) :
      Strays h p (.inaccessible ⟨.terminator, p⟩)
  /-- The bytes of the file are no text. -/
  | bytes {f : Format} {bytes : List UInt8} {e : Text.Utf8Error} (format : formatOf? p = some f)
      (read : h.files.read h.directory p = .ok bytes) (text : Text.ofUtf8? bytes = .error e) :
      Strays h p (.undecodable e)
  /-- A number has too many digits. -/
  | numeral {s : String} {digits : Nat} (format : formatOf? p = some .json)
      (text : textOf h p = .ok s) (number : Json.read s = .error (.numeral digits)) :
      Strays h p (.numeral digits)
  /-- A scalar is written like one that has a value, and has none. -/
  | scalar {s : String} {e : Yaml.ReadError} (format : formatOf? p = some .yaml)
      (text : textOf h p = .ok s) (value : Yaml.read s = .error e) (formed : e ≠ .malformed) :
      Strays h p (.scalar e)

theorem Strays.ne_refused (strays : Strays h p x) (e : ConfigError) : x ≠ .refused e := by
  cases strays <;> exact nofun

/-- Why the text of a file is missing: it cannot be read, is not asked for, or is no text. -/
theorem textOf_cases (failed : textOf h p = .error x) :
    (∃ e, x = .refused (.unreadable p e)) ∨
      ('\x00' ∈ p.text.toList ∧ x = .inaccessible ⟨.terminator, p⟩) ∨
      ∃ bytes e, h.files.read h.directory p = .ok bytes ∧ Text.ofUtf8? bytes = .error e ∧
        x = .undecodable e := by
  rw [textOf] at failed
  cases read : h.files.read h.directory p with
  | error e =>
    rw [read] at failed
    obtain rfl := Except.error.inj failed
    cases number : e.fault.number? with
    | some n => exact .inl ⟨e, by simp⟩
    | none =>
      obtain ⟨held, rfl⟩ := FileTree.read_eq_error_unnumbered_iff.mp ⟨read, number⟩
      exact .inr (.inl ⟨held, rfl⟩)
  | ok bytes =>
    simp only [read] at failed
    cases text : Text.ofUtf8? bytes with
    | error e =>
      simp only [text] at failed
      exact .inr (.inr ⟨bytes, e, rfl, text, (Except.error.inj failed).symm⟩)
    | ok s => simp [text] at failed

/-- Why a text is not parsed: it is malformed, or holds a number or a scalar that has no value. -/
theorem parse_cases (failed : parse p f s = .error x) :
    (∃ e, x = .refused (.unparsable p e)) ∨
      (∃ digits, f = .json ∧ Json.read s = .error (.numeral digits) ∧ x = .numeral digits) ∨
      ∃ e, f = .yaml ∧ Yaml.read s = .error e ∧ e ≠ .malformed ∧ x = .scalar e := by
  cases f with
  | json =>
    rw [parse] at failed
    split at failed
    · cases failed
    · next digits number =>
      exact .inr (.inl ⟨digits, rfl, number, (Except.error.inj failed).symm⟩)
    · exact .inl ⟨_, (Except.error.inj failed).symm⟩
  | yaml =>
    rw [parse] at failed
    split at failed
    · cases failed
    · exact .inl ⟨_, (Except.error.inj failed).symm⟩
    · next e formed value =>
      exact .inr (.inr ⟨e, rfl, value, formed, (Except.error.inj failed).symm⟩)

/-- A file that gives nothing is refused with its path, or strays. -/
theorem rawOptions_cases (failed : rawOptions h p = .error x) :
    (∃ e, x = .refused e ∧ e.Names (some p) source) ∨ Strays h p x := by
  rw [rawOptions] at failed
  cases format : formatOf? p with
  | none =>
    rw [format] at failed
    exact .inl ⟨_, (Except.error.inj failed).symm, p, rfl, Mapping.get?_cons_self _ _ _⟩
  | some f =>
    -- the stages are reading, parsing and the check for a mapping; after them nothing fails
    simp only [format, Except.bind_eq_error_iff] at failed
    rcases failed with failed | ⟨s, text, failed | ⟨v, value, failed | ⟨m, -, failed⟩⟩⟩
    · rcases textOf_cases failed with ⟨e, rfl⟩ | ⟨held, rfl⟩ | ⟨bytes, e, read, text, rfl⟩
      · exact .inl ⟨_, rfl, p, rfl, Mapping.get?_cons_self _ _ _⟩
      · exact .inr (.terminator format held)
      · exact .inr (.bytes format read text)
    · rcases parse_cases failed with ⟨e, rfl⟩ | ⟨digits, rfl, number, rfl⟩ |
        ⟨e, rfl, value, formed, rfl⟩
      · exact .inl ⟨_, rfl, p, rfl, Mapping.get?_cons_self _ _ _⟩
      · exact .inr (.numeral format text number)
      · exact .inr (.scalar format text value formed)
    · rw [mappingOf.eq_def] at failed
      split at failed
      · cases failed
      · cases failed
      · exact .inl ⟨_, (Except.error.inj failed).symm, p, rfl, Mapping.get?_cons_self _ _ _⟩
    · cases failed

/-- What strays is what reading the file fails with. -/
theorem Strays.rawOptions (strays : Strays h p x) : rawOptions h p = .error x := by
  cases strays with
  | terminator format held =>
    have read : h.files.read h.directory p = .error ⟨.terminator, p⟩ :=
      (FileTree.read_eq_error_unnumbered_iff.mpr ⟨held, rfl⟩).1
    have text : textOf h p = .error (.inaccessible ⟨.terminator, p⟩) := by
      rw [textOf, read]
      rfl
    simp [Loader.rawOptions, format, text]
  | @bytes _ _ e format read bad =>
    have text : textOf h p = .error (.undecodable e) := by
      rw [textOf, read]
      simp only [bad]
    simp [Loader.rawOptions, format, text]
  | numeral format text number => simp [Loader.rawOptions, format, text, parse, number]
  | @scalar s e format text value formed =>
    have parsed : parse p .yaml s = .error (.scalar e) := by
      cases e <;> simp_all [parse]
    simp [Loader.rawOptions, format, text, parsed]

/-- Reading a file fails with an error that names the file, or strays. -/
theorem toldBut_rawOptions (h : Host) (p : Path) (source : String) :
    ToldBut (ConfigError.Names (some p) source) (Strays h p) (rawOptions h p) where
  cases _ failed := rawOptions_cases failed
  strays _ stray := ⟨stray.rawOptions, stray.ne_refused⟩

/-! ## The ways to load -/

/-- The file that is at fault if one is: the given one, or else the one that the variable names, or
else the first candidate that is a file. -/
def selected? (l : Loader) (h : Host) (file? directory? : Option Path) : Option Path :=
  file?.or ((l.named? h).or ((candidates (directory?.getD h.here)).find? h.holdsFile))

/-- What a search fails with if it is no refusal. -/
inductive SearchStrays (l : Loader) (h : Host) (file? directory? : Option Path) :
    LoadError → Prop where
  | stops {p : Path} (stops : h.StopsAt (l.consulted h file? directory?) p) :
      SearchStrays l h file? directory? (.inaccessible ⟨.nameTooLong, p⟩)

/-- What loading fails with if it is no refusal. -/
inductive LoadStrays (l : Loader) (h : Host) (file? directory? : Option Path) :
    LoadError → Prop where
  | search {x : LoadError} (stray : SearchStrays l h file? directory? x) :
      LoadStrays l h file? directory? x
  | file {p : Path} {x : LoadError} (chosen : l.chooseFile h file? directory? = .ok (some p))
      (stray : Strays h p x) : LoadStrays l h file? directory? x

/-- What is wrong with options is told with the source that they come of. -/
theorem names_of_validate (failed : validate source m = .error x) :
    ∃ e, x = .refused e ∧ ∀ path?, e.Names path? source := by
  obtain ⟨-, rfl⟩ := validate_eq_error_iff.mp failed
  refine ⟨_, rfl, fun path? => ?_⟩
  simp [ConfigError.Names, ConfigError.context]

/-- A search that fails has found no file where the variable names one, or strays. -/
theorem findFile_cases (failed : l.findFile h directory? = .error x) :
    (∃ p, l.named? h = some p ∧ x = .refused (.missingFile l.fileVariable p)) ∨
      SearchStrays l h none directory? x := by
  rw [findFile_eq, Except.bind_eq_error_iff] at failed
  rcases failed with failed | ⟨found?, -, failed⟩
  · obtain ⟨p, stops, rfl⟩ := firstFile_eq_error_iff.mp failed
    exact .inr (.stops stops)
  · cases named : l.named? h with
    | none => simp [named] at failed
    | some p =>
      cases found? with
      | some _ => simp [named] at failed
      | none =>
        simp only [named] at failed
        exact .inl ⟨p, rfl, (Except.error.inj failed).symm⟩

theorem SearchStrays.chooseFile (stray : SearchStrays l h file? directory? x) :
    l.chooseFile h file? directory? = .error x ∧ ∀ e, x ≠ .refused e := by
  obtain ⟨stops⟩ := stray
  exact ⟨chooseFile_of_stopsAt stops, nofun⟩

theorem selected?_of_chooseFile {chosen? : Option Path}
    (chosen : l.chooseFile h file? directory? = .ok chosen?) :
    chosen? = l.selected? h file? directory? := by
  cases file? with
  | some p => exact (Except.ok.inj chosen).symm
  | none =>
    rw [chooseFile, findFile_eq] at chosen
    obtain ⟨found?, search, chosen⟩ := Except.bind_eq_ok_iff.mp chosen
    have first := firstFile_eq_ok search
    rw [consulted] at first
    rw [selected?, Option.none_or]
    cases named : l.named? h with
    | none =>
      simp only [named, Option.elim_none] at first chosen
      rw [Option.none_or, ← first]
      exact (Except.ok.inj chosen).symm
    | some p =>
      simp only [named, Option.elim_some] at first chosen
      cases found? with
      | none => cases chosen
      | some q =>
        have same : q = p := List.mem_singleton.mp (List.mem_of_find?_eq_some first.symm)
        rw [← Except.ok.inj chosen, same]
        rfl

/-- A search fails with an error that names the file of the variable, or strays. -/
theorem toldBut_findFile (l : Loader) (h : Host) (directory? : Option Path) (source : String) :
    ToldBut (ConfigError.Names (l.named? h) source) (SearchStrays l h none directory?)
      (l.findFile h directory?) := by
  refine ⟨fun x failed => ?_, fun x stray => stray.chooseFile⟩
  rcases findFile_cases failed with ⟨p, named, rfl⟩ | stray
  · exact .inl ⟨_, rfl, p, named, Mapping.get?_cons_self _ _ _⟩
  · exact .inr stray

theorem toldBut_loadFile (h : Host) (file : String) :
    ToldBut (ConfigError.Names (some (Path.ofText file)) file) (Strays h (Path.ofText file))
      (loadFile h file) := by
  refine ⟨fun x failed => ?_, fun x stray => ⟨?_, stray.ne_refused⟩⟩
  · rcases Except.bind_eq_error_iff.mp failed with failed | ⟨m, -, failed⟩
    · exact rawOptions_cases failed
    · obtain ⟨e, rfl, names⟩ := names_of_validate failed
      exact .inl ⟨e, rfl, names _⟩
  · rw [loadFile, stray.rawOptions, Except.error_bind]

theorem told_loadEnvironment (l : Loader) (h : Host) :
    Told (ConfigError.Names none (l.lead ++ "* environment")) (l.loadEnvironment h) := by
  intro x failed
  obtain ⟨e, rfl, names⟩ := names_of_validate failed
  exact ⟨e, rfl, names _⟩

/-- Loading fails with an error that names the file that was chosen, or strays. -/
theorem toldBut_load (l : Loader) (h : Host) (file? directory? : Option Path) :
    ToldBut (ConfigError.Names (l.selected? h file? directory?)
        (sourceName (l.selected? h file? directory?)))
      (LoadStrays l h file? directory?) (l.load h file? directory?) := by
  constructor
  case cases =>
    intro x failed
    rcases Except.bind_eq_error_iff.mp failed with failed | ⟨chosen?, chosen, failed⟩
    · -- no file was chosen
      cases file? with
      | some p => cases failed
      | none =>
        rcases findFile_cases failed with ⟨p, named, rfl⟩ | stray
        · have selected : l.selected? h none directory? = some p := by
            rw [selected?, named, Option.none_or, Option.some_or]
          exact .inl ⟨_, rfl, p, selected, Mapping.get?_cons_self _ _ _⟩
        · exact .inr (.search stray)
    · obtain rfl := selected?_of_chooseFile chosen
      rcases Except.bind_eq_error_iff.mp failed with failed | ⟨m, -, failed⟩
      · -- the file that was chosen gives nothing
        cases selected : l.selected? h file? directory? with
        | none =>
          rw [selected] at failed
          cases failed
        | some p =>
          rw [selected] at failed chosen
          have failed : rawOptions h p = .error x := failed
          exact (rawOptions_cases failed).imp_right (.file chosen)
      · obtain ⟨e, rfl, names⟩ := names_of_validate failed
        exact .inl ⟨e, rfl, names _⟩
  case strays =>
    intro x stray
    cases stray with
    | search stray =>
      obtain ⟨failed, other⟩ := stray.chooseFile
      exact ⟨by rw [load, failed, Except.error_bind], other⟩
    | @file p _ chosen stray =>
      refine ⟨?_, stray.ne_refused⟩
      have values : fileValues h (some p) = .error x := stray.rawOptions
      rw [load, chosen, Except.ok_bind, values, Except.error_bind]

/-- What the ways to load tell of their failures. -/
structure Reports (l : Loader) (h : Host) : Prop where
  /-- A search tells the path that the variable names. As it reads no values, it rejects none: it
  would have to name every source. -/
  find : ∀ (directory? : Option Path) (source : String),
    ToldBut (ConfigError.Names (l.named? h) source) (SearchStrays l h none directory?)
      (l.findFile h directory?)
  /-- Reading a file tells its path, and does not judge the values either. -/
  read : ∀ (p : Path) (source : String),
    ToldBut (ConfigError.Names (some p) source) (Strays h p) (rawOptions h p)
  /-- Loading a file tells its path, or that the values are rejected that came from it. -/
  loadFile : ∀ file : String,
    ToldBut (ConfigError.Names (some (Path.ofText file)) file) (Strays h (Path.ofText file))
      (loadFile h file)
  /-- The variables alone have no path, and nothing of theirs strays. -/
  loadEnvironment : Told (ConfigError.Names none (l.lead ++ "* environment")) (l.loadEnvironment h)
  /-- Loading tells the path of the file that is selected, or where the values came from. -/
  load : ∀ file? directory? : Option Path,
    ToldBut (ConfigError.Names (l.selected? h file? directory?)
        (sourceName (l.selected? h file? directory?)))
      (LoadStrays l h file? directory?) (l.load h file? directory?)
  /-- So options are loaded or refused with a name just when neither the search nor the file that is
  chosen strays. -/
  told_load_iff : ∀ file? directory? : Option Path,
    Told (ConfigError.Names (l.selected? h file? directory?)
        (sourceName (l.selected? h file? directory?))) (l.load h file? directory?) ↔
      ∀ x, ¬ LoadStrays l h file? directory? x

/-- **What the ways to load tell.** They give a result or a refusal that names the path or the
source, unless the search stops or a file strays. -/
theorem reports (l : Loader) (h : Host) : l.Reports h where
  find directory? source := toldBut_findFile l h directory? source
  read p source := toldBut_rawOptions h p source
  loadFile file := toldBut_loadFile h file
  loadEnvironment := told_loadEnvironment l h
  load file? directory? := toldBut_load l h file? directory?
  told_load_iff file? directory? := (toldBut_load l h file? directory?).told_iff

/-- A file of one byte that begins no character. -/
def oddHost : Host where
  files := (FileTree.ofDirectory ["app"]).put ["app", "u.yaml"] (.file [0xff])
  directory := ["app"]
  environment := []

theorem strays_oddHost :
    Strays oddHost ⟨.here, ["u.yaml"]⟩ (.undecodable ⟨0xff, 0, 1, .startByte⟩) := by
  have format : formatOf? ⟨.here, ["u.yaml"]⟩ = some .yaml := by decide +kernel
  have read : oddHost.files.read oddHost.directory ⟨.here, ["u.yaml"]⟩ = .ok [0xff] :=
    Except.toOption_eq_some_iff.mp (by decide +kernel)
  exact .bytes format read rfl

/-- Of a byte that is no text nothing is told. -/
theorem not_told_oddHost :
    rawOptions oddHost ⟨.here, ["u.yaml"]⟩ = .error (.undecodable ⟨0xff, 0, 1, .startByte⟩) ∧
      (∀ names, ¬ Told names (rawOptions oddHost ⟨.here, ["u.yaml"]⟩)) ∧
      (∀ names, ¬ Told names (loadFile oddHost "u.yaml")) ∧
      ∀ names, ¬ Told names (Loader.load {} oddHost (some ⟨.here, ["u.yaml"]⟩) none) := by
  have stray := strays_oddHost
  have path : Path.ofText "u.yaml" = ⟨.here, ["u.yaml"]⟩ := by decide +kernel
  refine ⟨stray.rawOptions, ?_, ?_, ?_⟩
  · exact (toldBut_rawOptions oddHost ⟨.here, ["u.yaml"]⟩ "").not_told stray
  · exact (toldBut_loadFile oddHost "u.yaml").not_told (path ▸ stray)
  · exact (toldBut_load {} oddHost (some ⟨.here, ["u.yaml"]⟩) none).not_told (.file rfl stray)

end Loader

end CauseTrail
