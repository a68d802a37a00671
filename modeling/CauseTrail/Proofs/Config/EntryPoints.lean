import CauseTrail.Proofs.Options.Completion

/-!
# The ways to load options agree

Options are loaded from all layers, from a file alone or from the variables alone. The layers begin
with a baseline of their own, while a single source leaves an option that it does not name at the
default of its declaration. This makes no difference: the baseline has the same defaults, these are
accepted as they are, and neither what is rejected nor its order depends on whether they are spelled
out. So where only one layer has something to say, the ways to load give the same options, or fail
alike.

## Main definitions

* `Loader.Alike`: outcomes that differ at most in the source that is told
* `Loader.Agrees`: what the ways to load have in common

## Main results

* `Loader.agrees`: a file alone, the variables alone and all layers
-/

namespace CauseTrail

open Options (Field)

/-- Outcomes that are the same, or reject the same issues in the same order, told of sources that
may differ. -/
inductive Loader.Alike : Except LoadError Options → Except LoadError Options → Prop where
  | same (outcome : Except LoadError Options) : Alike outcome outcome
  | rejected (source source' : String) (issues : List Issue) :
      Alike (.error (.refused (.rejectedFrom source issues)))
        (.error (.refused (.rejectedFrom source' issues)))

namespace Loader

variable {l : Loader} {h : Host} {file : Mapping}

/-! ## Outcomes that are alike -/

namespace Alike

/-- What is validated alike, after the same steps. -/
theorem bind {α : Type} {x : Except LoadError α} {f g : α → Except LoadError Options}
    (each : ∀ a, x = .ok a → Alike (f a) (g a)) : Alike (x >>= f) (x >>= g) := by
  cases x with
  | error e => exact .same _
  | ok a => exact each a rfl

theorem validate {m m' : Mapping} (same : Options.ofMapping? m = Options.ofMapping? m')
    (source source' : String) : Alike (validate source m) (Loader.validate source' m') := by
  rw [Loader.validate, Loader.validate, same]
  cases Options.ofMapping? m' with
  | error issues => exact .rejected _ _ issues
  | ok o => exact .same _

end Alike

/-! ## One layer -/

/-- A file that is given is read before anything else is looked at. -/
theorem load_given (l : Loader) (h : Host) (p : Path) (directory? : Option Path) :
    l.load h (some p) directory? =
      rawOptions h p >>= fun m => validate p.text (l.layered h m) := by
  have chosen : l.chooseFile h (some p) directory? = .ok (some p) := rfl
  rw [load, chosen, Except.ok_bind]
  rfl

/-- A file under variables that name no option has its defaults spelled out. -/
theorem completedBy_layered_file (distinct : file.Distinct)
    (silent : ∀ f : Field, h.environment.given? l.lead f = none) :
    file.CompletedBy {} (l.layered h file) where
  get? f := by rw [get?_layered distinct, effective, silent f, Option.none_or]
  stray := filterMap_keyIssue?_layered distinct

/-- The variables over no file have their defaults spelled out. -/
theorem completedBy_layered_variables (l : Loader) (h : Host) :
    (l.environmentValues h).CompletedBy {} (l.layered h []) where
  get? f := by
    rw [get?_layered Mapping.distinct_nil, effective, environmentValues,
      Environment.get?_optionValues, Mapping.get?_nil, Option.or_none]
  stray := by
    rw [filterMap_keyIssue?_layered Mapping.distinct_nil, List.filterMap_nil, eq_comm,
      List.filterMap_eq_nil_iff]
    exact fun e there =>
      Options.keyIssue?_eq_none_iff.mpr (exists_field_of_mem_environmentValues there)

/-! ## The ways to load -/

/-- What the ways to load have in common. -/
structure Agrees (l : Loader) (h : Host) : Prop where
  /-- Where no variable names an option, all layers come to what a given file does alone, whatever
  the file is and holds. -/
  file : (∀ f : Field, ∀ v ∈ h.environment, ¬ Environment.Names l.lead f v.1) →
    ∀ (file : String) (directory? : Option Path),
      Alike (l.load h (some (.ofText file)) directory?) (loadFile h file)
  /-- Where no file is found, all layers come to what the variables do alone. -/
  noFile : ∀ directory? : Option Path, l.findFile h directory? = .ok none →
    Alike (l.load h none directory?) (l.loadEnvironment h)
  /-- The variables alone give the options that are made of them, and fail when none are. -/
  options : ∀ o, l.loadEnvironment h = .ok o ↔
    Options.ofEnvironment? l.lead h.environment = .ok o
  /-- They tell the same issues. -/
  issues : ∀ x, l.loadEnvironment h = .error x ↔ ∃ issues,
    Options.ofEnvironment? l.lead h.environment = .error issues ∧
      x = .refused (.rejectedFrom (l.lead ++ "* environment") issues)

/-- **The ways to load agree** where only one layer has something to say. -/
theorem agrees (l : Loader) (h : Host) : l.Agrees h := by
  constructor
  case file =>
    intro unnamed file directory?
    rw [load_given, loadFile]
    refine .bind fun m read => ?_
    have distinct : m.Distinct := distinct_of_rawOptions read
    have completed : m.CompletedBy {} (l.layered h m) :=
      completedBy_layered_file distinct fun f => Environment.given?_eq_none_iff.mpr (unnamed f)
    exact .validate (Options.ofMapping?_of_completedBy completed) _ _
  case noFile =>
    intro directory? missing
    have chosen : l.chooseFile h none directory? = .ok none := missing
    rw [load_eq chosen rfl, loadEnvironment]
    exact .validate (Options.ofMapping?_of_completedBy (completedBy_layered_variables l h)) _ _
  case options =>
    intro o
    rw [loadEnvironment, validate, Except.mapError_eq_ok_iff]
    rfl
  case issues =>
    intro x
    rw [loadEnvironment, validate]
    show (Options.ofEnvironment? l.lead h.environment).mapError _ = .error x ↔ _
    cases Options.ofEnvironment? l.lead h.environment <;> simp [eq_comm]

end Loader

end CauseTrail
