import CauseTrail.Proofs.Options.Lifetime
import CauseTrail.Proofs.Yaml.RoundTrip

/-!
# Files of written options

Options that are written into a file, behind comments or not, are loaded from it again, whatever
they are. A relative path for events is the one thing that changes: it is taken from the directory
of the file.

## Main definitions

* `Options.anchored`: options with their path for events taken from the directory of a file

## Main results

* `Options.writable_dump`: the mapping of options can be written and read back
* `Loader.anchorPath_dump`: the path for events is all that loading changes
* `Loader.loadFile_written`: options that were written into a file are loaded from it
-/

namespace CauseTrail

open Options (Field)

namespace Options

variable (o : Options)

/-- The mapping of options can be written, and is read back. -/
theorem writable_dump : ∀ e ∈ o.dump, Yaml.Writable e := by
  intro e there
  obtain ⟨f, -, rfl⟩ := List.mem_map.mp there
  refine ⟨⟨f.name, rfl, ?_⟩, ?_⟩
  · exact ⟨by cases f <;> decide +kernel, by cases f <;> decide, by cases f <;> decide⟩
  · have fits := o.fits_get f
    cases f with
    | enabled | debug | followContext => trivial
    | release | environment | serverName | transportPath =>
      obtain null | ⟨s, text⟩ := fits
      · simp only [null, Yaml.IsScalar]
      · simp only [text, Yaml.IsScalar]
    | transport => trivial

theorem distinct_dump : o.dump.Distinct := by
  have all : List.Pairwise (· ≠ ·) Field.all := by decide
  refine List.pairwise_map.mpr (all.imp fun other => ?_)
  rw [Bool.eq_false_iff, ne_eq, Value.equal_text_iff, Value.text.injEq]
  exact Field.name_injective.ne other

/-- The options with their path for events taken from the directory of a file. -/
def anchored (p : Path) : Options :=
  { o with transportPath? := o.transportPath?.map fun t =>
      if (Path.ofText t).isAbsolute then t else (p.parent.join (.ofText t)).text }

end Options

namespace Loader

variable {h : Host} {p : Path} {file : String} {o : Options} {comments : List (List Char)}

/-- A path that is entered into the mapping of options is that of the options. -/
theorem insert_dump (o : Options) (t : String) :
    Mapping.insert o.dump (.text Field.transportPath.name) (.text t) =
      Options.dump { o with transportPath? := some t } := by
  simp [Options.dump, Field.all, Field.name, Mapping.insert, Options.get, Value.equal_text_iff,
    Options.textOrNull]

/-- **The path for events** is all that loading changes. -/
theorem anchorPath_dump (p : Path) (o : Options) : anchorPath p o.dump = (o.anchored p).dump := by
  rw [anchorPath, Options.get?_dump, Options.get]
  cases path : o.transportPath? with
  | none =>
    have same : o.anchored p = o := by
      rw [Options.anchored, path, Option.map_none, ← path]
    rw [same]
    rfl
  | some t =>
    simp only [Options.textOrNull, Option.map_some, Option.getD_some, Options.anchored, path]
    split
    · rw [← path]
    · exact insert_dump o _

/-- **Options that were written into a file** are loaded from it. -/
theorem loadFile_written (yaml : formatOf? (.ofText file) = some .yaml)
    (inLine : ∀ body ∈ comments, ∀ c ∈ body, Yaml.isSpecial c = false ∧ c ≠ '\n')
    (written : h.files.read h.directory (.ofText file) =
      .ok (Text.utf8 (String.ofList (Yaml.commentLines comments) ++ Yaml.write o.dump))) :
    loadFile h file = .ok (o.anchored (.ofText file)) := by
  have ordinary :=
    Yaml.ordinary_written (fun body there c inside => (inLine body there c inside).1) o.dump
  have lines : String.ofList (Yaml.commentLines comments) ++ Yaml.write o.dump =
      String.ofList (Yaml.commentLines comments ++ List.flatMap Yaml.writeEntry o.dump) :=
    (String.ofList_append).symm
  have text : textOf h (.ofText file) =
      .ok (String.ofList (Yaml.commentLines comments) ++ Yaml.write o.dump) := by
    rw [textOf, written, lines]
    simp only [Yaml.ofUtf8?_of_ordinary ordinary, String.toList_ofList,
      Yaml.universalNewlines_of_ordinary ordinary]
  have some : o.dump ≠ [] := List.cons_ne_nil _ _
  have value := Yaml.read_write inLine some o.writable_dump o.distinct_dump
  have raw : rawOptions h (.ofText file) = .ok (o.anchored (.ofText file)).dump := by
    rw [rawOptions, yaml]
    simp only [text, Except.ok_bind, parse, value, mappingOf, anchorPath_dump, Except.pure_eq_ok]
  rw [loadFile, raw, Except.ok_bind, validate, Options.ofMapping?_dump (Options.fits_get _),
    Except.ok_mapError]

end Loader

end CauseTrail
