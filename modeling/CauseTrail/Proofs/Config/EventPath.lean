import CauseTrail.Proofs.Config.EntryPoints
import CauseTrail.Proofs.Files.Spelling
import CauseTrail.Proofs.Telemetry.FileLines

/-!
# Where the events of a configuration go

A path for events that a file says is given as it is if it is absolute. A relative one is put behind
the path of the file without its last name, and that path is taken as it was spelled. So it leads
from the directory of the file, as long as the path of the file leads to the file: from everywhere
if that path is absolute, and else from the working directory in which the file was read.

## Main definitions

* `Loader.writtenOptions`: what a file says, before its path for events is taken from its directory
* `Loader.eventPath`: the text of the path for events
* `Loader.eventPlace`: the place that a relative path for events leads to from the file's directory
* `Loader.Anchors`: what becomes of a path for events

## Main results

* `Path.exists_place_ne`: a relative path leads to different places from different directories
* `Loader.anchors`: where events go
* `Loader.not_settled_relativeFile`: a file that is read by a relative path settles no place
-/

namespace CauseTrail

open Options (Field)

/-! ## Places -/

namespace Path

variable {p q : Path} {here : Location} {names : List String} {n : String}

theorem isAbsolute_parent (p : Path) : p.parent.isAbsolute = p.isAbsolute := rfl

theorem isAbsolute_join (relative : q.isAbsolute = false) :
    (p.join q).isAbsolute = p.isAbsolute := by
  rw [join_relative relative]
  rfl

/-- Where an absolute path leads does not depend on the directory. -/
theorem place_of_absolute (absolute : p.isAbsolute = true) (here there : Location) :
    p.place here = p.place there := by
  rw [place, place, if_pos absolute, if_pos absolute]

/-- A relative path leads from the place of the path that it is put behind. -/
theorem place_join (relative : q.isAbsolute = false) (here : Location) :
    (p.join q).place here = q.place (p.place here) := by
  have start : q.place (p.place here) = q.names.foldl Location.step (p.place here) := by
    rw [place, relative]
    rfl
  rw [start, place, isAbsolute_join relative, join_relative relative, List.foldl_append, place]

/-- The place one name back is that of the directory. -/
theorem place_parent (ends : p.names = names ++ [n]) (named : n ≠ "..") (here : Location) :
    p.parent.place here = (p.place here).dropLast := by
  rw [place, place, isAbsolute_parent, parent, ends, List.dropLast_concat, List.foldl_concat,
    Location.step, if_neg named, List.dropLast_concat]

/-- Names that are fewer than those on the way from the top do not lead back to the top. -/
theorem head?_foldl_step (fewer : names.length < here.length) :
    (names.foldl Location.step here).head? = here.head? := by
  induction names generalizing here with
  | nil => rfl
  | cons n names ih =>
    obtain ⟨a, b, rest, rfl⟩ : ∃ a b rest, here = a :: b :: rest := by
      match here with
      | [] | [_] => simp at fewer
      | a :: b :: rest => exact ⟨a, b, rest, rfl⟩
    rw [List.length_cons, List.length_cons, List.length_cons] at fewer
    rw [List.foldl_cons, Location.step]
    split
    · rw [ih (by rw [List.length_dropLast, List.length_cons, List.length_cons]; omega)]
      rfl
    · rw [ih (by rw [List.length_append, List.length_cons, List.length_cons]; omega)]
      rfl

/-- **A relative path** leads to no place from everywhere. -/
theorem exists_place_ne (relative : p.isAbsolute = false) (l : Location) :
    ∃ here, p.place here ≠ l := by
  -- from deep below a directory that `l` is not below, no names lead out of it
  let here : Location := List.replicate (p.names.length + 1) (l.head?.getD "" ++ "x")
  refine ⟨here, fun same => ?_⟩
  have start : p.place here = p.names.foldl Location.step here := by
    rw [place, relative]
    rfl
  have head : l.head? = some (l.head?.getD "" ++ "x") :=
    calc l.head? = (p.place here).head? := by rw [same]
      _ = here.head? := by rw [start, head?_foldl_step (by simp [here])]
      _ = some (l.head?.getD "" ++ "x") := rfl
  have longer := congrArg (fun name? => (name?.getD "").length) head
  simp at longer

end Path

/-! ## The path for events -/

namespace Loader

variable {l : Loader} {h : Host} {p : Path} {m : Mapping} {t file : String} {f : Format}

/-- What a file says, before its path for events is taken from its directory. -/
def writtenOptions (h : Host) (p : Path) : Except LoadError Mapping :=
  match formatOf? p with
  | none => .error (.refused (.unsupportedType p))
  | some f => textOf h p >>= fun s => parse p f s >>= mappingOf p

theorem rawOptions_eq (h : Host) (p : Path) :
    rawOptions h p = anchorPath p <$> writtenOptions h p := by
  rw [rawOptions, writtenOptions]
  cases formatOf? p with
  | none => rfl
  | some f =>
    simp only [map_eq_pure_bind, bind_assoc, Except.pure_eq_ok]

/-- The text of the path for events that a file at `p` says to be `t`. -/
def eventPath (p : Path) (t : String) : String :=
  if (Path.ofText t).isAbsolute then t else (p.parent.join (.ofText t)).text

/-- The place that the path `t` leads to from the directory of the file that `p` leads to. -/
def eventPlace (here : Location) (p : Path) (t : String) : Location :=
  (Path.ofText t).place (p.place here).dropLast

/-- A path that a file names is joined to the directory of the file. -/
theorem get?_anchorPath (said : m.get? Field.transportPath.name = some (.text t)) :
    Mapping.get? (anchorPath p m) Field.transportPath.name = some (.text (eventPath p t)) := by
  rw [anchorPath, said, eventPath]
  dsimp only
  split
  · exact said
  · rw [Mapping.get?_insert, if_pos (Value.equal_text_iff.mpr rfl)]

/-- Nothing but a text is taken from the directory of a file. -/
theorem anchorPath_of_other (other : ∀ t, m.get? Field.transportPath.name ≠ some (.text t)) :
    anchorPath p m = m := by
  rw [anchorPath]
  split
  · next t said => exact absurd said (other t)
  · rfl

/-- A path with the suffix of a format ends with a name. -/
theorem exists_name_of_formatOf? (format : formatOf? p = some f) :
    ∃ names n, p.names = names ++ [n] ∧ n ≠ ".." := by
  have unsuffixed {n : String} (none : Path.suffixOf n.toList = [])
      (name : p.name = n) : formatOf? p = Option.none := by
    rw [formatOf?, Path.suffix, name, none]
    decide
  rcases List.eq_nil_or_concat p.names with empty | ⟨names, n, ends⟩
  · have name : p.name = "" := by rw [Path.name, empty]; rfl
    rw [unsuffixed (by decide) name] at format
    cases format
  · refine ⟨names, n, by simpa using ends, ?_⟩
    rintro rfl
    have name : p.name = ".." := by rw [Path.name, ends]; simp
    rw [unsuffixed (by decide) name] at format
    cases format

theorem formatOf?_of_writtenOptions (written : writtenOptions h p = .ok m) :
    ∃ f, formatOf? p = some f := by
  rw [writtenOptions] at written
  cases format : formatOf? p with
  | none => simp [format] at written
  | some f => exact ⟨f, rfl⟩

/-- A file that says something is found by its path. -/
theorem locate_of_writtenOptions (written : writtenOptions h p = .ok m) :
    h.files.locate h.directory p = .ok (p.place h.directory) := by
  obtain ⟨f, format⟩ := formatOf?_of_writtenOptions written
  simp only [writtenOptions, format] at written
  obtain ⟨s, text, -⟩ := Except.bind_eq_ok_iff.mp written
  rw [textOf] at text
  cases found : h.files.find h.directory p with
  | error fault => simp [FileTree.read, found] at text
  | ok place =>
    obtain ⟨l, way, -⟩ := Except.bind_eq_ok_iff.mp found
    rw [way, FileTree.locate_eq_place way]

/-- What options make of the text of a path for events. -/
theorem transportPath?_of_get {o : Options}
    (got : o.get .transportPath = .text t) : o.transportPath? = some t := by
  rw [Options.get] at got
  cases path : o.transportPath? with
  | none => rw [path] at got; cases got
  | some s => rw [path] at got; exact congrArg some (Value.text.inj got)

/-- Options take a path as it is written. -/
theorem transportPath?_of_validate {source : String} {o : Options}
    (given : m.get? Field.transportPath.name = some (.text t)) (done : validate source m = .ok o) :
    o.transportPath? = some t := by
  refine transportPath?_of_get ?_
  rw [Options.get_of_ofMapping? (Except.mapError_eq_ok_iff.mp done), given]
  rfl

/-! ## Where events go -/

/-- What becomes of the path for events that a file says to be `t`, when it is read by the path that
`file` spells. -/
structure Anchors (h : Host) (file t : String) : Prop where
  /-- The path leads to the file. -/
  found : h.files.locate h.directory (.ofText file) = .ok ((Path.ofText file).place h.directory)
  /-- One text is given, when the file is read, -/
  read : ∃ m, rawOptions h (.ofText file) = .ok m ∧
    m.get? Field.transportPath.name = some (.text (eventPath (.ofText file) t))
  /-- when the options of the file are loaded, -/
  loadFile : ∀ o, loadFile h file = .ok o →
    o.transportPath? = some (eventPath (.ofText file) t)
  /-- and when all layers are, unless a variable names the path for events. -/
  load : ∀ (l : Loader) (directory? : Option Path) (o : Options),
    (∀ v ∈ h.environment, ¬ Environment.Names l.lead .transportPath v.1) →
    l.load h (some (.ofText file)) directory? = .ok o →
    o.transportPath? = some (eventPath (.ofText file) t)
  /-- An absolute path is given as it is. -/
  absolute : (Path.ofText t).isAbsolute = true → eventPath (.ofText file) t = t
  /-- A relative path leads from the directory of the file, when it is seen from where the file was
  read. -/
  relative : (Path.ofText t).isAbsolute = false →
    (Path.ofText (eventPath (.ofText file) t)).place h.directory =
      eventPlace h.directory (.ofText file) t
  /-- Seen from elsewhere, it leads from the directory of what the path of the file leads to
  there. -/
  elsewhere : (Path.ofText t).isAbsolute = false → ∀ here,
    (Path.ofText (eventPath (.ofText file) t)).place here = eventPlace here (.ofText file) t
  /-- It leads to one place from everywhere just when the path of the file is absolute. -/
  settled_iff : (Path.ofText t).isAbsolute = false →
    ((∀ here, (Path.ofText (eventPath (.ofText file) t)).place here =
      eventPlace h.directory (.ofText file) t) ↔ (Path.ofText file).isAbsolute = true)
  /-- Events go to that place, from everywhere if the path of the file is absolute, and else from
  where the file was read. -/
  delivered : (Path.ofText t).isAbsolute = false → ∀ (s s' : Telemetry) r e,
    s.transport r = .jsonl (.ofText (eventPath (.ofText file) t)) →
    ((Path.ofText file).isAbsolute = true ∨ s.host.directory = h.directory) →
    s.deliver r e = (s', .ok ()) → ∃ line, (s.event e).Told line ∧
      s'.host.files.content? (eventPlace h.directory (.ofText file) t) =
        some (.file (s.host.files.bytesAt (eventPlace h.directory (.ofText file) t) ++
          Text.utf8 (line ++ "\n")))

/-- The path that a relative text gives is read back from its text. -/
theorem ofText_eventPath (relative : (Path.ofText t).isAbsolute = false)
    (proper : p.Proper) : Path.ofText (eventPath p t) = p.parent.join (.ofText t) := by
  have front : p.parent.Proper := fun name there => proper name (List.mem_of_mem_dropLast there)
  rw [eventPath, if_neg (by simp [relative])]
  exact Path.ofText_text (front.join (Path.proper_ofText t))

/-- A path that is joined leads to a place beside the file, seen from where the file was read. -/
theorem place_eventPath (format : formatOf? p = some f) (proper : p.Proper)
    (relative : (Path.ofText t).isAbsolute = false) (here : Location) :
    (Path.ofText (eventPath p t)).place here = eventPlace here p t := by
  obtain ⟨names, n, ends, named⟩ := exists_name_of_formatOf? format
  rw [ofText_eventPath relative proper, Path.place_join relative, Path.place_parent ends named,
    eventPlace]

theorem eventPlace_of_absolute (absolute : p.isAbsolute = true) (here there : Location) :
    eventPlace here p t = eventPlace there p t := by
  rw [eventPlace, eventPlace, Path.place_of_absolute absolute here there]

/-- A path for events leads to one place from everywhere just when the path of the file does. -/
theorem settled_iff (format : formatOf? p = some f) (proper : p.Proper)
    (relative : (Path.ofText t).isAbsolute = false) (l : Location) :
    (∀ here, (Path.ofText (eventPath p t)).place here = eventPlace l p t) ↔
      p.isAbsolute = true := by
  constructor
  · intro settled
    by_contra other
    have free : (Path.ofText (eventPath p t)).isAbsolute = false := by
      rw [ofText_eventPath relative proper, Path.isAbsolute_join relative, Path.isAbsolute_parent]
      simpa using other
    obtain ⟨here, apart⟩ := Path.exists_place_ne free (eventPlace l p t)
    exact apart (settled here)
  · intro absolute here
    rw [place_eventPath format proper relative, eventPlace_of_absolute absolute]

/-- **Where events go** that a file gives a path for. -/
theorem anchors (h : Host) (file t : String) (m : Mapping)
    (written : writtenOptions h (.ofText file) = .ok m)
    (said : m.get? Field.transportPath.name = some (.text t)) : Anchors h file t := by
  obtain ⟨f, format⟩ := formatOf?_of_writtenOptions written
  have proper := Path.proper_ofText file
  have raw : rawOptions h (.ofText file) = .ok (anchorPath (.ofText file) m) := by
    rw [rawOptions_eq, written, Except.ok_map]
  have given := get?_anchorPath (p := .ofText file) said
  constructor
  case found => exact locate_of_writtenOptions written
  case read => exact ⟨_, raw, given⟩
  case loadFile =>
    intro o done
    rw [Loader.loadFile, raw, Except.ok_bind] at done
    exact transportPath?_of_validate given done
  case load =>
    intro l directory? o unnamed done
    have distinct : Mapping.Distinct (anchorPath (.ofText file) m) := distinct_of_rawOptions raw
    rw [load_given, raw, Except.ok_bind] at done
    refine transportPath?_of_validate ?_ done
    rw [get?_layered distinct, effective, Environment.given?_eq_none_iff.mpr unnamed, given]
    rfl
  case absolute =>
    intro absolute
    rw [eventPath, if_pos absolute]
  case relative =>
    intro relative
    exact place_eventPath format proper relative h.directory
  case elsewhere =>
    intro relative here
    exact place_eventPath format proper relative here
  case settled_iff => exact fun relative => Loader.settled_iff format proper relative h.directory
  case delivered =>
    intro relative s s' r e through way sent
    refine Telemetry.deliver_line ⟨_, through, ?_⟩ sent
    rw [place_eventPath format proper relative]
    rcases way with absolute | same
    · exact eventPlace_of_absolute absolute _ _
    · rw [same]

/-- A file in a directory, which says a relative path for events. -/
def confHost : Host where
  files := ((FileTree.ofDirectory ["app"]).put ["app", "conf"] .directory).put
    ["app", "conf", "errorchain.json"] (.file (Text.utf8
      "\x7b\"transport\": \"jsonl\", \"transport_path\": \"out.jsonl\"\x7d"))
  directory := ["app"]
  environment := []

/-- The laws for a file that is read by an absolute path. -/
theorem anchors_confHost : ∃ m,
    writtenOptions confHost (.ofText "/app/conf/errorchain.json") = .ok m ∧
    m.get? Field.transportPath.name = some (.text "out.jsonl") ∧
    Anchors confHost "/app/conf/errorchain.json" "out.jsonl" := by
  have reads : ((writtenOptions confHost (.ofText "/app/conf/errorchain.json")).toOption.bind
      (·.get? Field.transportPath.name)).any (·.equal (.text "out.jsonl")) = true := by
    decide +kernel
  simp only [Option.any_eq_true, Option.bind_eq_some_iff, Except.toOption_eq_some_iff,
    Value.equal_text_iff] at reads
  obtain ⟨v, ⟨m, written, said⟩, rfl⟩ := reads
  exact ⟨m, written, said, anchors _ _ _ m written said⟩

/-- **Read by a relative path**, a file gives a path for events that leads elsewhere from
elsewhere. -/
theorem not_settled_relativeFile :
    loadFile confHost "conf/errorchain.json" =
      .ok { transport := .jsonl, transportPath? := some "conf/out.jsonl" } ∧
    (Path.ofText "conf/out.jsonl").place confHost.directory = ["app", "conf", "out.jsonl"] ∧
    (Path.ofText "conf/out.jsonl").place ["srv"] = ["srv", "conf", "out.jsonl"] :=
  ⟨Except.toOption_eq_some_iff.mp (by decide +kernel), by decide +kernel, by decide +kernel⟩

end Loader

end CauseTrail
