import CauseTrail.Proofs.Config.FileKeys
import CauseTrail.Proofs.Options.Acceptance

/-!
# The layers of options

The value that counts for an option is that of the last variable that names the option, or else
that of the file, or else the default. All options are validated with the values that count, and
so are the keys of the file that name no option. Whatever a layer above replaced plays no part any
more, and neither do variables that name no option.

## Main definitions

* `Environment.Names`: a variable that names an option
* `Loader.effective`: the value that counts for an option
* `Loader.Loads`: what a loader makes of the values that count

## Main results

* `Environment.get?_optionValues`: the last variable that names an option counts
* `Loader.get?_layered`: the layers laid over each other hold the values that count
* `Loader.load_loads`: options are loaded if all values that count are accepted and the file has no
  other keys, and otherwise exactly what is not accepted is told
-/

namespace CauseTrail

open Options (Field)

/-! ## Variables -/

namespace Environment

variable {lead name : String} {f : Field} {env env' : Environment}

/-- A variable names an option behind the beginning `lead` if the rest of its name is that of the
option, in any case. -/
def Names (lead : String) (f : Field) (name : String) : Prop :=
  ∃ rest, name = lead ++ rest ∧ Options.lower rest = f.name

theorem fieldOf?_eq_some_iff : fieldOf? lead name = some f ↔ Names lead f name := by
  rw [fieldOf?]
  constructor
  · intro found
    split at found
    · next begins =>
      obtain ⟨rest, spelled⟩ := List.isPrefixOf_iff_prefix.mp begins
      have dropped : name.toList.drop lead.length = rest := by
        rw [← spelled, ← String.length_toList, List.drop_left]
      refine ⟨String.ofList rest, ?_, ?_⟩
      · rw [← String.ofList_toList (s := name), ← spelled, String.ofList_append,
          String.ofList_toList]
      · rw [← dropped]
        exact Field.ofName?_eq_some_iff.mp found
    · cases found
  · rintro ⟨rest, rfl, spelled⟩
    have dropped : (lead ++ rest).toList.drop lead.length = rest.toList := by
      rw [String.toList_append, ← String.length_toList, List.drop_left]
    rw [if_pos (by simp), dropped, String.ofList_toList, spelled, f.ofName?_name]

instance : Decidable (Names lead f name) := decidable_of_iff _ fieldOf?_eq_some_iff

/-- The value that the variables give to an option: that of the last one that names it. -/
def given? (lead : String) (env : Environment) (f : Field) : Option Value :=
  ((List.filter (fun v => Names lead f v.1) env).getLast?).map fun v => valueOf f v.2

/-- What the variables give to an option is what the last one that names it gives. -/
theorem get?_optionValues (lead : String) (env : Environment) (f : Field) :
    (env.optionValues lead).get? f.name = env.given? lead f := by
  -- Seen from the end, the first variable that names the option counts.
  have first : ∀ vs : List (String × String),
      Mapping.get? (vs.filterMap fun v =>
        (fieldOf? lead v.1).map fun f => (Value.text f.name, valueOf f v.2)) f.name =
      ((vs.filter fun v => Names lead f v.1).head?).map fun v => valueOf f v.2 := by
    intro vs
    induction vs with
    | nil => rfl
    | cons v vs ih =>
      cases found : fieldOf? lead v.1 with
      | none =>
        have unnamed : ¬ Names lead f v.1 := by
          rw [← fieldOf?_eq_some_iff, found]
          simp
        rw [List.filterMap_cons_none (by simp [found]), ih,
          List.filter_cons_of_neg (by simpa using unnamed)]
      | some g =>
        rw [List.filterMap_cons_some (by simp only [found, Option.map_some]; rfl),
          Mapping.get?_cons_text]
        by_cases same : g = f
        · subst same
          have named := fieldOf?_eq_some_iff.mp found
          rw [if_pos rfl, List.filter_cons_of_pos (by simpa using named)]
          rfl
        · have unnamed : ¬ Names lead f v.1 := by
            rw [← fieldOf?_eq_some_iff, found]
            simpa using same
          rw [if_neg (by simpa using Field.name_injective.ne same), ih,
            List.filter_cons_of_neg (by simpa using unnamed)]
  rw [optionValues, Mapping.get?_ofEntries, ← List.filterMap_reverse, first, given?,
    List.getLast?_eq_head?_reverse, ← List.filter_reverse]

/-- The variables give nothing to an option that none of them names. -/
theorem given?_eq_none_iff :
    env.given? lead f = none ↔ ∀ v ∈ env, ¬ Names lead f v.1 := by
  rw [given?, Option.map_eq_none_iff, List.getLast?_eq_none_iff, List.filter_eq_nil_iff]
  exact forall₂_congr fun v _ => by rw [decide_eq_true_eq]

end Environment

/-! ## The layers -/

namespace Loader

/-- The value that counts for an option: that of the variables, or else that of the file, or else
the default. -/
def effective (l : Loader) (h : Host) (file : Mapping) (f : Field) : Value :=
  ((h.environment.given? l.lead f).or (file.get? f.name)).getD (({} : Options).get f)

variable {l : Loader} {h : Host} {file : Mapping} {file? directory? chosen? : Option Path}

/-- The layers laid over each other hold the values that count. -/
theorem get?_layered (d : file.Distinct) (f : Field) :
    (l.layered h file).get? f.name = some (l.effective h file f) := by
  have distinct : Mapping.Distinct (l.environmentValues h) := Mapping.distinct_ofEntries _
  rw [layered, Mapping.get?_update, Mapping.get?_update, distinct.get?_reverse, d.get?_reverse,
    Options.get?_dump, baseline_eq, environmentValues, Environment.get?_optionValues, effective]
  cases h.environment.given? l.lead f <;> cases file.get? f.name <;> rfl

/-- Variables give values to options only. -/
theorem exists_field_of_mem_environmentValues {e : Value × Value}
    (there : e ∈ l.environmentValues h) : ∃ f : Field, e.1 = .text f.name := by
  rcases Mapping.mem_keys_update there with ⟨e', there', -⟩ | ⟨e', there', key⟩
  · cases there'
  · obtain ⟨v, -, given⟩ := List.mem_filterMap.mp there'
    obtain ⟨f, -, rfl⟩ := Option.map_eq_some_iff.mp given
    exact ⟨f, key⟩

/-- The keys that name no option are those of the file. -/
theorem filterMap_keyIssue?_layered (d : file.Distinct) :
    List.filterMap Options.keyIssue? (l.layered h file) =
      List.filterMap Options.keyIssue? file := by
  have known : ∀ e ∈ l.environmentValues h, ∃ f : Field, e.1 = .text f.name :=
    fun e => exists_field_of_mem_environmentValues
  have silent : List.filterMap Options.keyIssue? (l.environmentValues h) = [] :=
    List.filterMap_eq_nil_iff.mpr fun e there => Options.keyIssue?_eq_none_iff.mpr (known e there)
  have once : Mapping.Distinct (l.environmentValues h) := Mapping.distinct_ofEntries _
  rw [layered, Options.filterMap_keyIssue?_update once,
    Options.filterMap_keyIssue?_update_dump _ d, silent, List.append_nil]
  intro e _ e' there stray
  exact absurd (Options.keyIssue?_eq_none_iff.mpr (known e' there)) stray

/-- All that is wrong with the layers laid over each other. -/
theorem issues_layered (d : file.Distinct) :
    Options.issues (l.layered h file) =
      Field.all.filterMap (Options.rejection? (l.effective h file)) ++
        List.filterMap Options.keyIssue? file := by
  rw [Options.issues_eq (get?_layered d), filterMap_keyIssue?_layered d]

/-- What is loaded are the layers over the file that was chosen, validated once. -/
theorem load_eq (chosen : l.chooseFile h file? directory? = .ok chosen?)
    (read : fileValues h chosen? = .ok file) :
    l.load h file? directory? = validate (sourceName chosen?) (l.layered h file) := by
  rw [load, chosen, Except.ok_bind, read, Except.ok_bind]

/-- Values without issues are laid over the defaults. -/
theorem validate_eq_ok_iff {source : String} {m : Mapping} {o : Options} :
    validate source m = .ok o ↔ Options.issues m = [] ∧ o = ({} : Options).overlay m := by
  rw [validate, Except.mapError_eq_ok_iff, Options.ofMapping?]
  cases Options.issues m <;> simp [eq_comm]

theorem validate_eq_error_iff {source : String} {m : Mapping} {e : LoadError} :
    validate source m = .error e ↔ Options.issues m ≠ [] ∧
      e = .refused (.rejectedFrom source (Options.issues m)) := by
  rw [validate, Options.ofMapping?]
  cases Options.issues m <;> simp [eq_comm]

/-- An option that is loaded is what it makes of the value that counts. -/
theorem accept_of_load {o : Options} (chosen : l.chooseFile h file? directory? = .ok chosen?)
    (read : fileValues h chosen? = .ok file) (loaded : l.load h file? directory? = .ok o)
    (f : Field) : f.accept (l.effective h file f) = .ok (o.get f) := by
  have distinct : file.Distinct := distinct_of_fileValues read
  rw [load_eq chosen read, validate_eq_ok_iff, issues_layered distinct,
    List.append_eq_nil_iff] at loaded
  obtain ⟨⟨accepted, -⟩, rfl⟩ := loaded
  obtain ⟨v, made⟩ := Options.rejection?_eq_none_iff.mp
    (List.filterMap_eq_nil_iff.mp accepted f f.mem_all)
  rw [Options.get_overlay, get?_layered distinct, Option.bind_some, made]
  rfl

/-- What a file gives does not depend on the variables. -/
theorem fileValues_environment (h : Host) (env : Environment) (file? : Option Path) :
    fileValues { h with environment := env } file? = fileValues h file? := by
  cases file? with
  | none => rfl
  | some p =>
    have text : textOf { h with environment := env } p = textOf h p := rfl
    simp only [fileValues, rawOptions, text]

/-- What a loader makes of the values that count, where the chosen file was read. -/
structure Loads (l : Loader) (h : Host) (file? directory? chosen? : Option Path)
    (file : Mapping) : Prop where
  /-- Options are loaded just when every option accepts the value that counts for it, and the file
  has no other keys. -/
  loads_iff : (∃ o, l.load h file? directory? = .ok o) ↔
    (∀ f : Field, ∃ v, f.accept (l.effective h file f) = .ok v) ∧
      ∀ e ∈ file, ∃ f : Field, e.1 = .text f.name
  /-- Every option is then what it makes of that value. -/
  accepts : ∀ o, l.load h file? directory? = .ok o →
    ∀ f : Field, f.accept (l.effective h file f) = .ok (o.get f)
  /-- Otherwise the options that refuse their values are told, in the order of declaration, and
  then the other keys of the file in their order; nothing else is. -/
  tells : ∀ e, l.load h file? directory? = .error e → ∃ issues,
    e = .refused (.rejectedFrom (sourceName chosen?) issues) ∧
    issues = Field.all.filterMap (Options.rejection? (l.effective h file)) ++
      List.filterMap Options.keyIssue? file ∧
    ∀ i, i ∈ issues ↔
      (∃ (f : Field) (kind : IssueKind), f.accept (l.effective h file f) = .error kind ∧
        i = ⟨kind, [f.name], l.effective h file f⟩) ∨
      ∃ e ∈ file, (∀ f : Field, e.1 ≠ .text f.name) ∧ Options.keyIssue? e = some i
  /-- Variables that name no option play no part, and the others do for their option only. -/
  unnamed : ∀ env : Environment,
    (∀ f : Field, env.filter (fun v => Environment.Names l.lead f v.1) =
      h.environment.filter fun v => Environment.Names l.lead f v.1) →
    l.chooseFile { h with environment := env } file? directory? = .ok chosen? →
    l.load { h with environment := env } file? directory? = l.load h file? directory?

/-- **Loading options.** What is loaded depends on the values that count alone. -/
theorem load_loads (chosen : l.chooseFile h file? directory? = .ok chosen?)
    (read : fileValues h chosen? = .ok file) : l.Loads h file? directory? chosen? file := by
  have d : file.Distinct := distinct_of_fileValues read
  have issues := issues_layered (l := l) (h := h) d
  have loaded := load_eq chosen read
  constructor
  case loads_iff =>
    rw [loaded]
    simp only [validate_eq_ok_iff, exists_and_left, exists_eq, and_true, issues,
      List.append_eq_nil_iff, List.filterMap_eq_nil_iff, Options.rejection?_eq_none_iff,
      Options.keyIssue?_eq_none_iff, Field.mem_all, true_imp_iff]
  case accepts =>
    intro o done f
    exact accept_of_load chosen read done f
  case tells =>
    intro e failed
    rw [loaded, validate_eq_error_iff] at failed
    refine ⟨_, failed.2, issues, fun i => ?_⟩
    rw [issues, List.mem_append, List.mem_filterMap, List.mem_filterMap]
    refine or_congr ?_ ?_
    · simp only [Field.mem_all, true_and, Options.rejection?_eq_some_iff]
    · refine exists_congr fun e => and_congr_right fun _ => ?_
      constructor
      · intro stray
        refine ⟨fun f key => ?_, stray⟩
        rw [Options.keyIssue?_eq_none_iff.mpr ⟨f, key⟩] at stray
        cases stray
      · exact And.right
  case unnamed =>
    intro env same chosen'
    have read' : fileValues { h with environment := env } chosen? = .ok file := by
      rw [fileValues_environment, read]
    have counts : l.effective { h with environment := env } file = l.effective h file := by
      funext f
      rw [effective, effective, Environment.given?, Environment.given?, same f]
    have gives (f : Field) : (l.layered { h with environment := env } file).get? f.name =
        (l.layered h file).get? f.name := by
      rw [get?_layered d, get?_layered d, counts]
    rw [loaded, load_eq chosen' read', validate, validate, Options.ofMapping?, Options.ofMapping?,
      issues_layered d, issues, counts, Options.overlay_congr gives]

/-- A file with a value that is no truth value, a key that names no option and an unknown
transport, and variables of which two name one option. -/
def crowdedHost : Host where
  files := (FileTree.ofDirectory ["app"]).put ["app", "errorchain.json"] (.file (Text.utf8
    "\x7b\"debug\": 3, \"color\": 1, \"transport\": \"fax\", \"release\": \"1\"\x7d"))
  directory := ["app"]
  environment := [("APP_debug", "off"), ("APP_RELEASE", "2"), ("APP_DEBUG", "YES"),
    ("APP_COLOR", "2")]

/-- The laws for a host with a file and several variables. -/
theorem load_loads_crowdedHost : ∃ file,
    Loader.chooseFile ⟨"APP_"⟩ crowdedHost none none =
      .ok (some ⟨.top, ["app", "errorchain.json"]⟩) ∧
    fileValues crowdedHost (some ⟨.top, ["app", "errorchain.json"]⟩) = .ok file ∧
    Loader.Loads ⟨"APP_"⟩ crowdedHost none none (some ⟨.top, ["app", "errorchain.json"]⟩) file := by
  have chosen : Loader.chooseFile ⟨"APP_"⟩ crowdedHost none none =
      .ok (some ⟨.top, ["app", "errorchain.json"]⟩) :=
    Except.toOption_eq_some_iff.mp (by decide +kernel)
  have there : (fileValues crowdedHost
      (some ⟨.top, ["app", "errorchain.json"]⟩)).toOption.isSome = true := by
    decide +kernel
  obtain ⟨file, given⟩ := Option.isSome_iff_exists.mp there
  have read := Except.toOption_eq_some_iff.mp given
  exact ⟨file, chosen, read, load_loads chosen read⟩

example : (match Loader.load ⟨"APP_"⟩ crowdedHost none none with
    | .error (.refused (.rejectedFrom _ issues)) => issues.map (·.location)
    | _ => []) = [["transport"], ["color"]] := by
  decide +kernel

end Loader

end CauseTrail
