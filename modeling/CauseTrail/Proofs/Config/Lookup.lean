import CauseTrail.Proofs.Config.Layers
import CauseTrail.Proofs.Files.Faults
import CauseTrail.Proofs.Text.ByteLines
import Mathlib.Data.List.Basic
import Mathlib.Data.List.Find

/-!
# Which file is read

Options are loaded from one file: the given one, or else the one that a variable names, or else the
first file among six candidates in a directory. What has to be read is said by a rule that asks of
other paths no more than whether they lead to files. Loading follows the rule as long as it can be
told of each path that it comes to whether it leads to a file. Where a path is too long to be looked
up the search stops there and loading fails, although no file is there.

## Main definitions

* `Loader.rule`: the file that has to be read
* `Loader.consulted`: the paths of which it matters whether they lead to files
* `Host.StopsAt`: a search that stops at a path
* `Loader.ReadsOne`: what settles the outcome of loading

## Main results

* `Loader.chooseFile_eq_rule`, `Loader.chooseFile_of_stopsAt`: a file is chosen by the rule, unless
  the search stops
* `Loader.rule_congr`, `Loader.load_congr`: trees that agree on the files among the paths consulted
  and on the content of the chosen one give the same options
* `Loader.readsOne`: all of this, and that no file takes the place of a broken one
* `Loader.not_alike_longName`: two trees with no file for which loading differs
-/

namespace CauseTrail

/-- Whether a path leads to a file, as the files are. -/
def Host.holdsFile (h : Host) (p : Path) : Bool := h.files.holdsFile h.directory p

/-- It cannot be told whether a path leads to a file. -/
def Host.TooLong (h : Host) (p : Path) : Prop := h.files.TooLong h.directory p

/-- Only a name that is too long keeps a question for a file from an answer. -/
theorem Host.isFile_eq_error_iff {h : Host} {p : Path} {e : FileError} :
    h.isFile p = .error e ↔ h.TooLong p ∧ e = ⟨.nameTooLong, p⟩ :=
  FileTree.isFile_eq_error_iff

theorem Host.holdsFile_of_isFile {h : Host} {p : Path} {told : Bool}
    (answer : h.isFile p = .ok told) : h.holdsFile p = told :=
  (FileTree.isFile_eq_ok_iff.mp answer).2.symm

/-- A search among paths comes to one of which it cannot be told whether it leads to a file. -/
inductive Host.StopsAt (h : Host) : List Path → Path → Prop where
  | here {p : Path} {ps : List Path} (long : h.TooLong p) : StopsAt h (p :: ps) p
  | later {p q : Path} {ps : List Path} (missing : h.isFile p = .ok false)
      (rest : StopsAt h ps q) : StopsAt h (p :: ps) q

/-- A search stops at one of its candidates, for its name. -/
theorem Host.StopsAt.mem_and_tooLong {h : Host} {ps : List Path} {p : Path}
    (stops : h.StopsAt ps p) : p ∈ ps ∧ h.TooLong p := by
  induction stops with
  | here long => exact ⟨List.mem_cons_self, long⟩
  | later _ _ ih => exact ⟨List.mem_cons_of_mem _ ih.1, ih.2⟩

namespace Loader

variable {l : Loader} {h : Host} {ps : List Path} {p : Path} {files : FileTree} {env : Environment}
  {file? directory? chosen? : Option Path} {x : LoadError}

/-! ## The rule -/

/-- The path that the variable names, unless its text is empty. -/
def named? (l : Loader) (h : Host) : Option Path :=
  ((h.environment.get? l.fileVariable).filter (· ≠ "")).map Path.ofText

/-- The paths of which it matters whether they lead to files. -/
def consulted (l : Loader) (h : Host) (file? directory? : Option Path) : List Path :=
  match file? with
  | some _ => []
  | none => (l.named? h).elim (candidates (directory?.getD h.here)) fun p => [p]

/-- The file that has to be read. A variable has to name a file; of the candidates it is the first
that is one, if any is. -/
def rule (l : Loader) (h : Host) (file? directory? : Option Path) :
    Except LoadError (Option Path) :=
  match file? with
  | some p => .ok (some p)
  | none =>
    match l.named? h with
    | some p =>
      if h.holdsFile p then .ok (some p) else .error (.refused (.missingFile l.fileVariable p))
    | none => .ok ((candidates (directory?.getD h.here)).find? h.holdsFile)

/-! ## The search -/

/-- A search that does not fail finds the first path that leads to a file. -/
theorem firstFile_eq_ok (found : firstFile h ps = .ok chosen?) :
    chosen? = ps.find? h.holdsFile := by
  induction ps with
  | nil => exact (Except.ok.inj found).symm
  | cons p ps ih =>
    rw [firstFile] at found
    split at found
    · cases found
    · next answer =>
      rw [List.find?_cons_of_pos (Host.holdsFile_of_isFile answer)]
      exact (Except.ok.inj found).symm
    · next answer =>
      rw [List.find?_cons_of_neg (by simp [Host.holdsFile_of_isFile answer])]
      exact ih found

/-- A search fails just when it stops at a path. -/
theorem firstFile_eq_error_iff : firstFile h ps = .error x ↔
    ∃ p, h.StopsAt ps p ∧ x = .inaccessible ⟨.nameTooLong, p⟩ := by
  induction ps with
  | nil =>
    refine iff_of_false nofun ?_
    rintro ⟨p, ⟨⟩, -⟩
  | cons p ps ih =>
    rw [firstFile]
    cases answer : h.isFile p with
    | error e =>
      obtain ⟨long, rfl⟩ := Host.isFile_eq_error_iff.mp answer
      constructor
      · intro failed
        exact ⟨p, .here long, (Except.error.inj failed).symm⟩
      · rintro ⟨q, stops, rfl⟩
        cases stops with
        | here => rfl
        | later missing => cases answer.symm.trans missing
    | ok told =>
      have passed : ¬ h.TooLong p := fun long =>
        nomatch answer.symm.trans (Host.isFile_eq_error_iff.mpr ⟨long, rfl⟩)
      cases told with
      | true =>
        refine iff_of_false nofun ?_
        rintro ⟨q, stops, -⟩
        cases stops with
        | here long => exact passed long
        | later missing => cases answer.symm.trans missing
      | false =>
        refine ih.trans (exists_congr fun q => and_congr_left fun _ => ?_)
        constructor
        · exact .later answer
        · intro stops
          cases stops with
          | here long => exact absurd long passed
          | later _ rest => exact rest

/-- Without a given file, the paths that are consulted are searched. The one that a variable names
has to lead to a file. -/
theorem findFile_eq (l : Loader) (h : Host) (directory? : Option Path) :
    l.findFile h directory? = firstFile h (l.consulted h none directory?) >>= fun found? =>
      match l.named? h, found? with
      | some p, none => .error (.refused (.missingFile l.fileVariable p))
      | _, _ => .ok found? := by
  rw [findFile, consulted, named?]
  cases (h.environment.get? l.fileVariable).filter (· ≠ "") with
  | none =>
    simp only [Option.map_none, Option.elim_none]
    cases firstFile h (candidates (directory?.getD h.here)) <;> rfl
  | some text =>
    simp only [Option.map_some, Option.elim_some, firstFile]
    rcases h.isFile (Path.ofText text) with e | _ | _ <;> rfl

theorem holdsFile_of_findFile (found : l.findFile h directory? = .ok (some p)) :
    h.holdsFile p = true := by
  rw [findFile_eq] at found
  obtain ⟨found?, search, kept⟩ := Except.bind_eq_ok_iff.mp found
  obtain rfl : found? = some p := by
    split at kept
    · cases kept
    · exact Except.ok.inj kept
  exact List.find?_some (firstFile_eq_ok search).symm

/-- A path that is too long stops the search, whatever lies behind it. -/
theorem chooseFile_of_stopsAt (stops : h.StopsAt (l.consulted h file? directory?) p) :
    l.chooseFile h file? directory? = .error (.inaccessible ⟨.nameTooLong, p⟩) := by
  cases file? with
  | some _ => cases stops
  | none =>
    have failed := firstFile_eq_error_iff.mpr ⟨p, stops, rfl⟩
    rw [chooseFile, findFile_eq, failed, Except.error_bind]

/-- **The file that is read** is that of the rule, unless the search stops. -/
theorem chooseFile_eq_rule (goesOn : ∀ p, ¬ h.StopsAt (l.consulted h file? directory?) p) :
    l.chooseFile h file? directory? = l.rule h file? directory? := by
  cases file? with
  | some _ => rfl
  | none =>
    rw [chooseFile, findFile_eq, rule]
    cases found : firstFile h (l.consulted h none directory?) with
    | error x =>
      obtain ⟨p, stops, -⟩ := firstFile_eq_error_iff.mp found
      exact absurd stops (goesOn p)
    | ok found? =>
      obtain rfl := firstFile_eq_ok found
      rw [Except.ok_bind, consulted]
      cases l.named? h with
      | none => rfl
      | some p =>
        rw [Option.elim_some]
        cases holds : h.holdsFile p <;> simp [holds]

/-! ## Two runs -/

/-- The rule asks of a tree which of the paths that are consulted lead to files. -/
theorem rule_congr
    (agree : ∀ p ∈ l.consulted h file? directory?,
      { h with files := files }.holdsFile p = h.holdsFile p) :
    l.rule { h with files := files } file? directory? = l.rule h file? directory? := by
  cases file? with
  | some _ => rfl
  | none =>
    rw [consulted] at agree
    have unchanged : l.named? { h with files := files } = l.named? h := rfl
    rw [rule, rule, unchanged]
    cases named : l.named? h with
    | some p =>
      rw [named, Option.elim_some] at agree
      simp only [agree p (List.mem_singleton_self p)]
    | none =>
      rw [named, Option.elim_none] at agree
      exact congrArg Except.ok (List.find?_congr agree)

/-- What a file gives is settled by its path and its content. -/
theorem fileValues_congr
    (content : ∀ p, chosen? = some p → files.read h.directory p = h.files.read h.directory p) :
    fileValues { h with files := files } chosen? = fileValues h chosen? := by
  cases chosen? with
  | none => rfl
  | some p =>
    have text : textOf { h with files := files } p = textOf h p := by
      rw [textOf, textOf, content p rfl]
    simp only [fileValues, rawOptions, text]

/-- What is chosen, and what it gives, settle the outcome of loading. -/
theorem load_congr
    (chosen : l.chooseFile { h with files := files } file? directory? =
      l.chooseFile h file? directory?)
    (content : ∀ p, l.chooseFile h file? directory? = .ok (some p) →
      files.read h.directory p = h.files.read h.directory p) :
    l.load { h with files := files } file? directory? = l.load h file? directory? := by
  rw [load, load, chosen]
  cases choice : l.chooseFile h file? directory? with
  | error x => rw [Except.error_bind, Except.error_bind]
  | ok chosen? =>
    have values : fileValues { h with files := files } chosen? = fileValues h chosen? :=
      fileValues_congr fun p same => content p (choice.trans (congrArg Except.ok same))
    have layers : l.layered { h with files := files } = l.layered h := rfl
    rw [Except.ok_bind, Except.ok_bind, values, layers]

/-! ## The variable -/

/-- The variable that names a file names no option. -/
theorem fieldOf?_fileVariable (l : Loader) : Environment.fieldOf? l.lead l.fileVariable = none := by
  refine Option.eq_none_iff_forall_ne_some.mpr fun f found => ?_
  obtain ⟨rest, spelled, lower⟩ := Environment.fieldOf?_eq_some_iff.mp found
  obtain rfl : "CONFIG" = rest := by simpa [fileVariable] using spelled
  revert lower
  cases f <;> decide

theorem optionValues_unset (l : Loader) (env : Environment) :
    (env.unset l.fileVariable).optionValues l.lead = env.optionValues l.lead := by
  rw [Environment.optionValues, Environment.optionValues, Environment.unset, List.filterMap_filter]
  refine congrArg Mapping.ofEntries (List.filterMap_congr fun v _ => ?_)
  by_cases named : v.1 = l.fileVariable
  · simp [named, fieldOf?_fileVariable]
  · simp [named]

/-- A file that is given is read whatever the variable names. -/
theorem load_given_congr (same : env.unset l.fileVariable = h.environment.unset l.fileVariable) :
    l.load { h with environment := env } (some p) directory? = l.load h (some p) directory? := by
  have values : fileValues { h with environment := env } (some p) = fileValues h (some p) :=
    fileValues_environment h env (some p)
  have given : l.environmentValues { h with environment := env } = l.environmentValues h := by
    show env.optionValues l.lead = h.environment.optionValues l.lead
    rw [← optionValues_unset, same, optionValues_unset]
  have layers : l.layered { h with environment := env } = l.layered h := by
    funext file
    rw [layered, layered, given]
  have chosen (h : Host) : l.chooseFile h (some p) directory? = .ok (some p) := rfl
  rw [load, load, chosen, chosen, Except.ok_bind, Except.ok_bind, values, layers]

/-! ## One file -/

/-- What settles the outcome of loading. -/
structure ReadsOne (l : Loader) (h : Host) (file? directory? : Option Path) : Prop where
  /-- The file that is chosen is that of the rule, just when the search does not stop. -/
  chosen_iff : l.chooseFile h file? directory? = l.rule h file? directory? ↔
    ∀ p, ¬ h.StopsAt (l.consulted h file? directory?) p
  /-- Loading fails where the search stops. -/
  stopped : ∀ p, h.StopsAt (l.consulted h file? directory?) p →
    l.load h file? directory? = .error (.inaccessible ⟨.nameTooLong, p⟩)
  /-- With a given file the variable that names one plays no part. -/
  given : ∀ p, file? = some p → ∀ env : Environment,
    env.unset l.fileVariable = h.environment.unset l.fileVariable →
    l.load { h with environment := env } file? directory? = l.load h file? directory?
  /-- Trees that agree on which of the paths that are consulted lead to files, and on what the file
  of the rule gives to read, give the same options or the same refusal, unless the search stops. -/
  alike : ∀ files : FileTree,
    (∀ p ∈ l.consulted h file? directory?,
      { h with files := files }.holdsFile p = h.holdsFile p) →
    (∀ p, l.rule h file? directory? = .ok (some p) →
      files.read h.directory p = h.files.read h.directory p) →
    (∀ p, ¬ h.StopsAt (l.consulted h file? directory?) p) →
    (∀ p, ¬ { h with files := files }.StopsAt (l.consulted h file? directory?) p) →
    l.load { h with files := files } file? directory? = l.load h file? directory?
  /-- If the rule gives no file, or its file nothing, loading fails: no other file takes its
  place. -/
  broken : ∀ x, (l.rule h file? directory? >>= fileValues h) = .error x →
    l.load h file? directory? = .error x ∨
      ∃ p, h.StopsAt (l.consulted h file? directory?) p
  /-- What is found can be read, and is loaded as if it were given. -/
  found : ∀ p, l.findFile h directory? = .ok (some p) →
    (∃ bytes, h.files.read h.directory p = .ok bytes) ∧
      l.load h none directory? = l.load h (some p) directory?

/-- Loading fails where its search stops, and tells that it does. -/
theorem load_of_stopsAt (stops : h.StopsAt (l.consulted h file? directory?) p) :
    l.load h file? directory? = .error (.inaccessible ⟨.nameTooLong, p⟩) := by
  rw [load, chooseFile_of_stopsAt stops, Except.error_bind]

/-- The rule never takes a path for one that cannot be looked up. -/
theorem rule_ne_inaccessible {e : FileError} :
    l.rule h file? directory? ≠ .error (.inaccessible e) := by
  cases file? with
  | some p => exact nofun
  | none =>
    rw [rule.eq_def]
    cases l.named? h with
    | none => exact nofun
    | some p => cases holds : h.holdsFile p <;> simp [holds]

/-- **One file is read**, that of the rule, unless the search stops. -/
theorem readsOne (l : Loader) (h : Host) (file? directory? : Option Path) :
    l.ReadsOne h file? directory? := by
  constructor
  case chosen_iff =>
    refine ⟨fun same p stops => ?_, chooseFile_eq_rule⟩
    rw [chooseFile_of_stopsAt stops] at same
    exact rule_ne_inaccessible same.symm
  case stopped => exact fun p stops => load_of_stopsAt stops
  case given =>
    rintro p rfl env same
    exact load_given_congr same
  case alike =>
    -- the rule chooses the same file in both trees, and this file is all that is read
    intro files agree content goesOn goesOn'
    have chosen := chooseFile_eq_rule goesOn
    have chosen' : l.chooseFile { h with files := files } file? directory? =
        l.rule { h with files := files } file? directory? := chooseFile_eq_rule goesOn'
    refine load_congr ?_ fun p choice => content p (chosen ▸ choice)
    rw [chosen', chosen, rule_congr agree]
  case broken =>
    intro x broken
    by_cases stops : ∃ p, h.StopsAt (l.consulted h file? directory?) p
    · exact .inr stops
    · have chosen := chooseFile_eq_rule (not_exists.mp stops)
      left
      rw [load, chosen]
      cases choice : l.rule h file? directory? with
      | error y =>
        rw [choice, Except.error_bind] at broken
        rw [Except.error_bind, Except.error.inj broken]
      | ok chosen? =>
        rw [choice, Except.ok_bind] at broken
        rw [Except.ok_bind, broken, Except.error_bind]
  case found =>
    intro p choice
    refine ⟨FileTree.holdsFile_iff.mp (holdsFile_of_findFile choice), ?_⟩
    have chosen : l.chooseFile h none directory? = .ok (some p) := choice
    rw [load, chosen]
    rfl

/-! ## A search that stops -/

/-- A host with no file. -/
def bareHost : Host where
  files := FileTree.ofDirectory ["app"]
  directory := ["app"]
  environment := []

/-- The same with one directory, and still no file. -/
def roomyHost : Host := { bareHost with files := bareHost.files.put ["app", "x"] .directory }

/-- A candidate in a directory with some name below the directory `x`. -/
def below (name candidate : String) : Path := ⟨.here, ["x", name, candidate]⟩

/-- The name of a directory that is longer than the system allows. -/
def longName : String := String.ofList (List.replicate 300 'a')

theorem utf8_replicate (n : Nat) :
    Text.utf8 (String.ofList (List.replicate n 'a')) = List.replicate n 97 := by
  have letter : Text.utf8Char 'a' = [97] := by decide
  rw [Text.utf8, String.toList_ofList, List.flatMap_replicate, letter]
  simp

theorem free_replicate (n : Nat) :
    '\x00' ∉ (String.ofList (List.replicate n 'a')).toList := by
  simp [List.mem_replicate]

theorem locate_below {name n : String} (t : FileTree) (free : '\x00' ∉ name.toList)
    (short : (Text.utf8 name).length ≤ 300) (candidate : n ∈ fileNames) :
    t.locate ["app"] (below name n) = t.follow ["app"] ["x", name, n] := by
  have spelled : (below name n).text = "x/" ++ name ++ "/" ++ n := by
    rw [← String.toList_inj]
    simp [below, Path.text, Path.Anchor.text]
  have small : ∀ n ∈ fileNames, '\x00' ∉ n.toList ∧ (Text.utf8 n).length ≤ 20 := by
    decide +kernel
  obtain ⟨free', short'⟩ := small n candidate
  refine FileTree.locate_eq_follow ?_ ?_
  · simp [spelled, free, free']
  · have slashes : (Text.utf8 "x/").length = 2 ∧ (Text.utf8 "/").length = 1 := by decide +kernel
    simp only [spelled, Text.utf8_append, List.length_append, slashes, FileTree.maxPathBytes]
    omega

/-- Without the directory above them, candidates are not found, however long their names are. -/
theorem find_bareHost {name n : String} (free : '\x00' ∉ name.toList)
    (short : (Text.utf8 name).length ≤ 300) (candidate : n ∈ fileNames) :
    bareHost.files.find ["app"] (below name n) = .error .notFound := by
  rw [FileTree.find_eq_error_iff, locate_below _ free short candidate]
  have letter : (Text.utf8 "x").length = 1 := by decide +kernel
  simp [FileTree.follow, bareHost, FileTree.ofDirectory, FileTree.maxNameBytes, letter]

/-- With the directory above them, names that are too long are told. -/
theorem find_roomyHost {name n : String} (free : '\x00' ∉ name.toList)
    (short : (Text.utf8 name).length ≤ 300) (long : FileTree.maxNameBytes < (Text.utf8 name).length)
    (candidate : n ∈ fileNames) :
    roomyHost.files.find ["app"] (below name n) = .error .nameTooLong := by
  rw [FileTree.find_eq_error_iff, locate_below _ free short candidate]
  have letter : (Text.utf8 "x").length = 1 := by decide +kernel
  simp [FileTree.follow, roomyHost, bareHost, FileTree.ofDirectory, FileTree.put, letter, long]

theorem named?_of_bare (bare : h.environment = []) : l.named? h = none := by
  rw [named?, bare]
  rfl

theorem rule_of_unnamed (unnamed : l.named? h = none) :
    l.rule h none directory? = .ok ((l.consulted h none directory?).find? h.holdsFile) := by
  rw [rule, consulted, unnamed]
  rfl

theorem consulted_below (h : Host) (bare : h.environment = []) (name : String) :
    Loader.consulted {} h none (some ⟨.here, ["x", name]⟩) = fileNames.map (below name) := by
  have single : ∀ n ∈ fileNames, Path.ofText n = ⟨.here, [n]⟩ := by decide +kernel
  rw [consulted, named?_of_bare bare]
  refine List.map_congr_left fun n candidate => ?_
  show Path.child ⟨.here, ["x", name]⟩ n = below name n
  rw [Path.child, single n candidate, Path.join_relative rfl]
  rfl

/-- Of two hosts with no file one loads the defaults, and the search of the other one stops. -/
theorem not_alike_longName :
    (∀ p ∈ Loader.consulted {} bareHost none (some ⟨.here, ["x", longName]⟩),
      bareHost.holdsFile p = false ∧ roomyHost.holdsFile p = false) ∧
    Loader.load {} bareHost none (some ⟨.here, ["x", longName]⟩) = .ok {} ∧
    Loader.load {} roomyHost none (some ⟨.here, ["x", longName]⟩) =
      .error (.inaccessible ⟨.nameTooLong, below longName mainFileName⟩) := by
  have free : '\x00' ∉ longName.toList := free_replicate 300
  have length : (Text.utf8 longName).length = 300 :=
    (congrArg List.length (utf8_replicate 300)).trans List.length_replicate
  have missing {n : String} (candidate : n ∈ fileNames) :=
    find_bareHost free length.le candidate
  have long {n : String} (candidate : n ∈ fileNames) :=
    find_roomyHost free length.le (length ▸ by decide) candidate
  have paths := consulted_below bareHost rfl longName
  have nowhere : ∀ p ∈ Loader.consulted {} bareHost none (some ⟨.here, ["x", longName]⟩),
      bareHost.holdsFile p = false ∧ roomyHost.holdsFile p = false := by
    rw [paths]
    rintro p there
    obtain ⟨n, candidate, rfl⟩ := List.mem_map.mp there
    exact ⟨FileTree.holdsFile_of_error (missing candidate),
      FileTree.holdsFile_of_error (long candidate)⟩
  refine ⟨nowhere, ?_, ?_⟩
  · have goesOn : ∀ p, ¬ bareHost.StopsAt
        (Loader.consulted {} bareHost none (some ⟨.here, ["x", longName]⟩)) p := by
      intro p stops
      obtain ⟨there, tooLong⟩ := stops.mem_and_tooLong
      rw [paths] at there
      obtain ⟨n, candidate, rfl⟩ := List.mem_map.mp there
      cases (missing candidate).symm.trans tooLong
    have chosen :
        Loader.chooseFile {} bareHost none (some ⟨.here, ["x", longName]⟩) = .ok none := by
      rw [chooseFile_eq_rule goesOn, rule_of_unnamed (named?_of_bare rfl), List.find?_eq_none.mpr]
      intro p there
      simp [(nowhere p there).1]
    rw [load_eq chosen rfl]
    exact Except.toOption_eq_some_iff.mp (by decide +kernel)
  · refine load_of_stopsAt ?_
    rw [consulted_below roomyHost rfl longName]
    exact .here (long List.mem_cons_self)

end Loader

end CauseTrail
