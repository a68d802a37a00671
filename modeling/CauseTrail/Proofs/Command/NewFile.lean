import CauseTrail.Command.Run
import CauseTrail.Proofs.Config.WrittenFile
import CauseTrail.Proofs.Files.Making
import CauseTrail.Proofs.Files.Spelling

/-!
# New files of options

The command that writes a file of options makes the directories that it needs and then writes one
file, unless that file is there and is to be kept. What it wrote is loaded as the options that were
asked for, whatever the text of the environment is.

## Main definitions

* `Command.Kept`: the file is there already and is not to be replaced
* `Command.loadedOptions`: the options that a new file gives
* `Command.Creation`: what holds after the command

## Main results

* `Command.writeNew_cases`: a file is written as a whole or not at all, and nothing else is changed
* `Command.loadFile_put`: a file that was written is loaded by every path to it
* `Command.run_create`: what holds after the command, whatever came of it
-/

namespace CauseTrail.Command

variable {h : Host} {directory : String} {o : Options} {force : Bool} {file : Path}

/-! ## Reports -/

theorem exit_failed_ne_zero (markup : String) : (Report.failed markup).exit ≠ 0 := by
  rw [Report.failed]
  split <;> simp [Report.escape]

/-- A success is reported of what succeeded only. -/
theorem eq_ok_of_writeReport {made : Except FileError Unit}
    (fine : (writeReport file made).exit = 0) : made = .ok () := by
  cases made with
  | ok => rfl
  | error e =>
    obtain ⟨markup, failed⟩ : ∃ markup, writeReport file (.error e) =
        if e.fault.number?.isSome then .failed markup else .escape (.file e) := ⟨_, rfl⟩
    rw [failed] at fine
    split at fine
    · exact absurd fine (exit_failed_ne_zero markup)
    · cases fine

/-! ## Writing -/

/-- A file is written as a whole or not at all, and nothing else that was there is changed. -/
theorem writeNew_cases (h : Host) (directory : String) (o : Options) :
    (h.files.Keeps (writeNew h directory o).1 ∧ (writeNew h directory o).2 ≠ .ok ()) ∨
    ∃ t, h.files.Keeps t ∧
      t.locate h.directory (newFile h directory) =
        .ok ((newFile h directory).place h.directory) ∧
      t.content? ((newFile h directory).place h.directory) ≠ some .directory ∧
      writeNew h directory o =
        (t.put ((newFile h directory).place h.directory) (.file (newContent o)), .ok ()) := by
  have kept : h.files.Keeps (h.files.makeDirectory h.directory (target h directory) false).1 :=
    FileTree.keeps_makeDirectory
  unfold writeNew
  cases made : h.files.makeDirectory h.directory (target h directory) false with
  | mk t result =>
    rw [made] at kept
    cases result with
    | error e => exact .inl ⟨kept, by simp⟩
    | ok =>
      simp only
      cases written : t.write h.directory (newFile h directory) (newContent o) with
      | error e => exact .inl ⟨kept, by simp [FileTree.outcome]⟩
      | ok t' =>
        obtain ⟨way, free, rfl⟩ := FileTree.change_eq_put written
        exact .inr ⟨t, kept, way, free, rfl⟩

/-- What the command does, but for the wording of its report on a file that is kept. -/
theorem exists_createIn_eq (h : Host) (directory : String) (o : Options) (force : Bool) :
    ∃ report : Report, createIn h directory o force =
      match h.files.exists' h.directory (newFile h directory) with
      | .error e => (h.files, .escape (.file e))
      | .ok there =>
        if there && !force then (h.files, report)
        else ((writeNew h directory o).1,
          writeReport (newFile h directory) (writeNew h directory o).2) :=
  ⟨_, rfl⟩

/-- The file is there already and is not to be replaced. -/
def Kept (h : Host) (directory : String) (force : Bool) : Prop :=
  h.files.exists' h.directory (newFile h directory) = .ok true ∧ force = false

/-- A file that is kept keeps the whole tree as it is. -/
theorem createIn_of_kept (o : Options) (kept : Kept h directory force) :
    (createIn h directory o force).1 = h.files := by
  obtain ⟨there, rfl⟩ := kept
  obtain ⟨report, same⟩ := exists_createIn_eq h directory o false
  rw [same, there]
  rfl

/-- A file that is not kept is written, unless it cannot be told whether it is there. -/
theorem createIn_cases (o : Options) (replaced : ¬ Kept h directory force) :
    ((createIn h directory o force).1 = h.files ∧ (createIn h directory o force).2.exit ≠ 0) ∨
    createIn h directory o force = ((writeNew h directory o).1,
      writeReport (newFile h directory) (writeNew h directory o).2) := by
  obtain ⟨report, same⟩ := exists_createIn_eq h directory o force
  rw [same]
  cases there : h.files.exists' h.directory (newFile h directory) with
  | error e => exact .inl ⟨rfl, Nat.one_ne_zero⟩
  | ok found =>
    refine .inr (if_neg fun old => replaced ?_)
    rw [Bool.and_eq_true, Bool.not_eq_true'] at old
    exact ⟨by rw [there, old.1], old.2⟩

/-- Whatever comes of it, nothing that was there is changed but the file. -/
theorem content?_createIn (h : Host) (directory : String) (o : Options) (force : Bool) :
    ∀ l e, l ≠ (newFile h directory).place h.directory → h.files.content? l = some e →
      (createIn h directory o force).1.content? l = some e := by
  intro l e other there
  by_cases kept : Kept h directory force
  · rw [createIn_of_kept o kept, there]
  · obtain ⟨same, -⟩ | created := createIn_cases o kept
    · rw [same, there]
    · rw [created]
      obtain ⟨kept, -⟩ | ⟨t, kept, -, -, written⟩ := writeNew_cases h directory o
      · exact kept l e there
      · rw [written, FileTree.content?_put_of_ne t _ other]
        exact kept l e there

/-- A success without a file that is kept is that of a file that was written. -/
theorem createIn_eq_put (o : Options) (replaced : ¬ Kept h directory force)
    (fine : (createIn h directory o force).2.exit = 0) :
    ∃ t : FileTree,
      (createIn h directory o force).1 =
        t.put ((newFile h directory).place h.directory) (.file (newContent o)) ∧
      (createIn h directory o force).1.locate h.directory (newFile h directory) =
        .ok ((newFile h directory).place h.directory) := by
  obtain ⟨-, failed⟩ | created := createIn_cases o replaced
  · exact absurd fine failed
  · rw [created] at fine ⊢
    obtain ⟨-, failed⟩ | ⟨t, -, way, free, written⟩ := writeNew_cases h directory o
    · exact absurd (eq_ok_of_writeReport fine) failed
    · rw [written]
      exact ⟨t, rfl, FileTree.locate_put way free⟩

/-! ## Loading -/

/-- A new file begins with comments. -/
theorem exists_header_eq : ∃ comments : List (List Char),
    header = String.ofList (Yaml.commentLines comments) ∧
      ∀ body ∈ comments, ∀ c ∈ body, Yaml.isSpecial c = false ∧ c ≠ '\n' := by
  obtain ⟨comments, same, inLine⟩ : ∃ comments, header.toList = Yaml.commentLines comments ∧
      comments.all (·.all fun c => !Yaml.isSpecial c && c != '\n') = true := by
    refine ⟨((header.toList.splitOn '\n').dropLast.map List.tail), ?_⟩
    -- characters are compared, since texts are slow to put together
    delta header
    simp only [String.toList_append]
    decide +kernel
  refine ⟨comments, by rw [← same, String.ofList_toList], fun body there c inside => ?_⟩
  simpa using List.all_eq_true.mp (List.all_eq_true.mp inLine body there) c inside

/-- The file of the main name is one of YAML. -/
theorem formatOf?_main {p : Path} (named : p.name = Loader.mainFileName) :
    Loader.formatOf? p = some .yaml := by
  have suffix : p.suffix = ".yaml" := by
    rw [Path.suffix, named]
    decide +kernel
  rw [Loader.formatOf?, suffix]
  decide +kernel

/-- The options that a new file gives to who reads it by the path `p`. -/
def loadedOptions (transport : TransportKind) (environment : String) (p : Path) : Options where
  transport := transport
  environment? := some environment
  transportPath? := if transport = .jsonl then some (p.parent.child "events.jsonl").text else none

/-- The options of a new file are loaded with their path beside the file. -/
theorem anchored_newOptions (transport : TransportKind) (environment : String) (p : Path) :
    (newOptions transport environment).anchored p = loadedOptions transport environment p := by
  have relative : (Path.ofText "events.jsonl").isAbsolute = false := by decide +kernel
  cases transport <;> simp [Options.anchored, newOptions, loadedOptions, relative, Path.child]

/-- **A file that was written** is loaded by every path to it that ends with its name. -/
theorem loadFile_put {transport : TransportKind} {environment text : String} {t : FileTree}
    {l : Location}
    (written : h.files = t.put l (.file (newContent (newOptions transport environment))))
    (named : (Path.ofText text).name = Loader.mainFileName)
    (way : h.files.locate h.directory (.ofText text) = .ok l) :
    Loader.loadFile h text = .ok (loadedOptions transport environment (.ofText text)) := by
  obtain ⟨comments, begins, inLine⟩ := exists_header_eq
  rw [← anchored_newOptions]
  refine Loader.loadFile_written (formatOf?_main named) inLine ?_
  rw [written] at way ⊢
  rw [FileTree.read_put way, newContent, begins]

/-- The file is named by its path, if the working directory is. -/
theorem ofText_newFile (proper : h.here.Proper) (directory : String) :
    Path.ofText (newFile h directory).text = newFile h directory :=
  Path.ofText_text ((proper.join (Path.proper_ofText directory)).lexical.child Loader.mainFileName)

theorem name_newFile (h : Host) (directory : String) :
    (newFile h directory).name = Loader.mainFileName := by
  have name : Path.ofText Loader.mainFileName = ⟨.here, [Loader.mainFileName]⟩ := by decide +kernel
  rw [newFile, Path.child, name, Path.join_relative rfl, Path.name]
  simp

/-! ## The command -/

/-- What holds after the command that writes a file of options: `after` is the host then, and `r`
the report. -/
structure Creation (h after : Host) (r : Report) (directory : String) (transport : TransportKind)
    (environment : String) (force : Bool) : Prop where
  /-- A file that was written is loaded as the options that were asked for. -/
  loads : r.exit = 0 → ¬ Kept h directory force →
    Loader.loadFile after (newFile h directory).text =
      .ok (loadedOptions transport environment (newFile h directory))
  /-- It is by every other path to it that ends with its name. -/
  loadsBy : r.exit = 0 → ¬ Kept h directory force → ∀ text,
    (Path.ofText text).name = Loader.mainFileName →
    after.files.locate after.directory (.ofText text) =
      .ok ((newFile h directory).place h.directory) →
    Loader.loadFile after text = .ok (loadedOptions transport environment (.ofText text))
  /-- A file that was there and was not to be replaced is kept, and all else with it. -/
  kept : Kept h directory force → after = h
  /-- Nothing else that was there is changed, whatever came of the command. -/
  others : ∀ l e, l ≠ (newFile h directory).place h.directory → h.files.content? l = some e →
    after.files.content? l = some e

/-- **A new file of options** is written and loaded as it should be, or nothing is changed. -/
theorem run_create (t : Telemetry) (platform directory : String) (transport : TransportKind)
    (environment : String) (force : Bool) (proper : t.host.here.Proper) :
    Creation t.host (run t platform (.create directory transport environment force)).1.host
      (run t platform (.create directory transport environment force)).2
      directory transport environment force := by
  have frame := content?_createIn t.host directory (newOptions transport environment) force
  have keep (kept : Kept t.host directory force) :=
    createIn_of_kept (newOptions transport environment) kept
  have put (replaced : ¬ Kept t.host directory force) :=
    createIn_eq_put (newOptions transport environment) replaced
  have ran : run t platform (.create directory transport environment force) =
      ({ t with host := { t.host with
          files := (createIn t.host directory (newOptions transport environment) force).1 } },
        (createIn t.host directory (newOptions transport environment) force).2) := by
    rw [run]
  rw [ran]
  -- no proof has to look again into how the files and the report were made
  generalize createIn t.host directory (newOptions transport environment) force = created
    at frame keep put
  exact {
    loads := by
      intro fine replaced
      obtain ⟨tree, written, way⟩ := put replaced fine
      have spelled := ofText_newFile proper directory
      have loaded : Loader.loadFile { t.host with files := created.1 }
          (newFile t.host directory).text = .ok (loadedOptions transport environment
            (.ofText (newFile t.host directory).text)) :=
        loadFile_put written (by rw [spelled, name_newFile]) (by rw [spelled]; exact way)
      rwa [spelled] at loaded
    loadsBy := by
      intro fine replaced text named way
      obtain ⟨tree, written, -⟩ := put replaced fine
      exact loadFile_put written named way
    kept := by
      intro kept
      rw [keep kept]
    others := frame }

/-- A working directory, and nothing in it. -/
def workHost : Host := ⟨.ofDirectory ["work"], ["work"], []⟩

/-- A program that has just started there. -/
def workTelemetry : Telemetry where
  host := workHost
  sources := ⟨fun _ => default, fun _ => default⟩

/-- A text that would be read as something else if it was not quoted. -/
def oddText : String := " yes: #no\n\"\u00e9\" "

/-- A new file for this text, in a directory that is not there yet. -/
def oddRun : Telemetry × Report := run workTelemetry "" (.create "conf" .jsonl oddText false)

/-- A text of quotes, line ends and marks is loaded back from the file that is created with it. -/
theorem run_create_oddText :
    (workHost.here.Proper ∧ oddRun.2.exit = 0 ∧ ¬ Kept workHost "conf" false) ∧
      Loader.loadFile oddRun.1.host "/work/conf/errorchain.yaml" =
        .ok { transport := .jsonl, environment? := some oddText,
              transportPath? := some "/work/conf/events.jsonl" } := by
  have proper : workHost.here.Proper := by decide
  have fine : oddRun.2.exit = 0 := by decide +kernel
  have fresh : ¬ Kept workHost "conf" false := by
    rintro ⟨there, -⟩
    have absent : (workHost.files.exists' workHost.directory (newFile workHost "conf")).toOption =
        some false := by decide +kernel
    rw [there] at absent
    cases absent
  have text : (newFile workHost "conf").text = "/work/conf/errorchain.yaml" := by decide +kernel
  have path : ((newFile workHost "conf").parent.child "events.jsonl").text =
      "/work/conf/events.jsonl" := by decide +kernel
  have loaded : Loader.loadFile oddRun.1.host (newFile workHost "conf").text =
      .ok (loadedOptions .jsonl oddText (newFile workHost "conf")) :=
    (run_create workTelemetry "" "conf" .jsonl oddText false proper).loads fine fresh
  rw [text, loadedOptions, path] at loaded
  exact ⟨⟨proper, fine, fresh⟩, loaded⟩

end CauseTrail.Command
