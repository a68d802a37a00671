import CauseTrail.Proofs.Options.Lifetime
import Mathlib.Data.List.Basic

/-!
# A mapping laid over options

A mapping that is laid over options sets those that it names and leaves the others. It makes no
difference whether the mapping itself spells out what the others hold: an option accepts what it
holds as it is. So what is wrong with a mapping laid over options is what is wrong with its own
entries, however the options came about.

## Main definitions

* `Options.laid?`: options with a mapping laid over them, or all that is wrong with the mapping
* `Mapping.CompletedBy`: a mapping with the values that options hold for what another one leaves out
* `Issue.Concerns`: the entry that an issue is about

## Main results

* `Options.ofMapping?_of_completedBy`: what options hold may be spelled out
* `Options.override?_eq`: options are overridden as by the overrides alone
* `Options.mem_issues_iff`, `Options.issues_eq_nil_iff`: an issue is one of an entry
-/

namespace CauseTrail

open Options (Field)

/-- A mapping gives what another one gives, and what options hold for what that one leaves out; they
have the same stray keys. -/
structure Mapping.CompletedBy (m : Mapping) (o : Options) (full : Mapping) : Prop where
  get? : ∀ f : Field, full.get? f.name = some ((m.get? f.name).getD (o.get f))
  stray : List.filterMap Options.keyIssue? full = List.filterMap Options.keyIssue? m

/-- An issue is about an entry: its value is refused by the option that it names, or its key names
no option. -/
inductive Issue.Concerns : Issue → Value × Value → Prop where
  | refused {f : Field} {v : Value} {kind : IssueKind} (refusal : f.accept v = .error kind) :
      Concerns ⟨kind, [f.name], v⟩ (.text f.name, v)
  | unknown {name : String} (free : ∀ f : Field, name ≠ f.name) (v : Value) :
      Concerns ⟨.unknownName, [name], v⟩ (.text name, v)
  | noText {k : Value} (other : ∀ name, k ≠ .text name) (v : Value) :
      Concerns ⟨.keyKind, [Options.keyLocation k], k⟩ (k, v)

namespace Options

variable {o : Options} {f : Field} {m full : Mapping} {e : Value × Value} {i : Issue}

/-- The options with a mapping laid over them, or all that is wrong with the mapping. -/
def laid? (o : Options) (m : Mapping) : Except (List Issue) Options :=
  match issues m with
  | [] => .ok (o.overlay m)
  | found => .error found

/-! ## Values that are spelled out -/

/-- What an option holds is never what is wrong. -/
theorem fieldIssues_of_completedBy (completed : m.CompletedBy o full) :
    fieldIssues full = fieldIssues m := by
  refine List.filterMap_congr fun f _ => ?_
  cases given : m.get? f.name with
  | some v => rw [completed.get?, given, Option.getD_some]
  | none =>
    have fine : issue? f (o.get f) = none :=
      issue?_eq_none_iff.mpr ⟨_, Field.accept_of_fits (o.fits_get f)⟩
    simp [completed.get?, given, fine]

/-- The option of a mapping without field issues accepts what it is given. -/
theorem exists_accept (fine : fieldIssues m = []) {v : Value} (given : m.get? f.name = some v) :
    ∃ w, f.accept v = .ok w := by
  have silent := List.filterMap_eq_nil_iff.mp fine f f.mem_all
  rw [← issue?_eq_none_iff, Option.eq_none_iff_forall_ne_some]
  simpa [given] using silent

/-- A value that is spelled out is what the option holds anyway. -/
theorem overlay_of_completedBy (completed : m.CompletedBy o full) (fine : fieldIssues m = []) :
    ({} : Options).overlay full = o.overlay m := by
  refine ext_get fun f => ?_
  rw [get_overlay, get_overlay, completed.get?]
  cases given : m.get? f.name with
  | some v =>
    obtain ⟨w, accepted⟩ := exists_accept fine given
    rw [Option.getD_some, Option.bind_some, accepted]
    rfl
  | none =>
    rw [Option.getD_none, Option.bind_some, Field.accept_of_fits (o.fits_get f)]
    rfl

/-- **What options hold** may be spelled out: neither the options that come of it nor what is told
to be wrong depend on it. -/
theorem ofMapping?_of_completedBy (completed : m.CompletedBy o full) :
    ofMapping? full = o.laid? m := by
  have found : issues full = issues m := by
    rw [issues, issues, fieldIssues_of_completedBy completed, completed.stray]
  rw [ofMapping?, laid?, found]
  cases wrong : issues m with
  | nil =>
    have fine : fieldIssues m = [] := (List.append_eq_nil_iff.mp wrong).1
    exact congrArg Except.ok (overlay_of_completedBy completed fine)
  | cons => rfl

theorem completedBy_update (o : Options) (d : m.Distinct) :
    m.CompletedBy o (Mapping.update o.dump m) where
  get? f := by
    rw [Mapping.get?_update, d.get?_reverse, get?_dump]
    cases m.get? f.name <;> rfl
  stray := filterMap_keyIssue?_update_dump o d

/-- **Overriding** depends on the overrides alone, but for the options that they leave. -/
theorem override?_eq (o : Options) (d : m.Distinct) : o.override? m = o.laid? m :=
  ofMapping?_of_completedBy (completedBy_update o d)

/-! ## The options that come of it -/

theorem laid?_nil (o : Options) : o.laid? [] = .ok o := rfl

theorem laid?_eq_ok_iff {o' : Options} :
    o.laid? m = .ok o' ↔ issues m = [] ∧ o' = o.overlay m := by
  rw [laid?]
  cases issues m <;> simp [eq_comm]

/-- Values are not laid over options if there are issues, and all of these are told. -/
theorem laid?_eq_error_iff {found : List Issue} :
    o.laid? m = .error found ↔ issues m ≠ [] ∧ found = issues m := by
  rw [laid?]
  cases issues m <;> simp [eq_comm]

/-- An option of a mapping laid over options: what it makes of the value that the mapping gives to
it, or else of the one that it holds. -/
theorem accept_of_laid? {o' : Options} (laid : o.laid? m = .ok o') (f : Field) :
    f.accept ((m.get? f.name).getD (o.get f)) = .ok (o'.get f) := by
  obtain ⟨fine, rfl⟩ := laid?_eq_ok_iff.mp laid
  rw [get_overlay]
  cases given : m.get? f.name with
  | none => exact Field.accept_of_fits (o.fits_get f)
  | some v =>
    obtain ⟨w, accepted⟩ := exists_accept (List.append_eq_nil_iff.mp fine).1 given
    rw [Option.getD_some, Option.bind_some, accepted]
    rfl

/-! ## What is wrong with an entry -/

theorem mem_fieldIssues_iff (d : m.Distinct) : i ∈ fieldIssues m ↔
    ∃ f v kind, (.text (Field.name f), v) ∈ m ∧ f.accept v = .error kind ∧
      i = ⟨kind, [f.name], v⟩ := by
  rw [fieldIssues, List.mem_filterMap]
  constructor
  · rintro ⟨f, -, found⟩
    obtain ⟨v, given, found⟩ := Option.bind_eq_some_iff.mp found
    obtain ⟨kind, refused, told⟩ := Option.bind_eq_some_iff.mp found
    exact ⟨f, v, kind, d.get?_eq_some_iff.mp given, issue?_eq_some_iff.mp refused,
      (Option.some.inj told).symm⟩
  · rintro ⟨f, v, kind, there, refused, rfl⟩
    refine ⟨f, f.mem_all, ?_⟩
    simp [d.get?_eq_some_iff.mpr there, issue?_eq_some_iff.mpr refused]

/-- A key is told just when it is the name of no option. -/
theorem keyIssue?_eq_some_iff : keyIssue? e = some i ↔
    i.Concerns e ∧ ∀ f : Field, e.1 ≠ .text f.name := by
  rcases e with ⟨k, v⟩
  constructor
  · intro stray
    have free : ∀ f : Field, k ≠ .text f.name := by
      intro f key
      rw [keyIssue?_eq_none_iff.mpr ⟨f, key⟩] at stray
      cases stray
    refine ⟨?_, free⟩
    cases k with
    | text name =>
      have unknown (f : Field) : name ≠ f.name := fun same => free f (congrArg Value.text same)
      simp only [keyIssue?, Field.ofName?_eq_none_iff.mpr unknown, Option.some.injEq] at stray
      exact stray ▸ .unknown unknown v
    | _ =>
      obtain rfl := Option.some.inj stray
      exact .noText (by simp) v
  · rintro ⟨concerns, free⟩
    cases concerns with
    | @refused f v kind refusal => exact absurd rfl (free f)
    | unknown unknown => rw [keyIssue?, Field.ofName?_eq_none_iff.mpr unknown]
    | noText other =>
      cases k with
      | text name => exact absurd rfl (other name)
      | _ => rfl

/-- **What is wrong** with a mapping is what is wrong with its entries. -/
theorem mem_issues_iff (d : m.Distinct) : i ∈ issues m ↔ ∃ e ∈ m, i.Concerns e := by
  rw [issues, List.mem_append, mem_fieldIssues_iff d, List.mem_filterMap]
  constructor
  · rintro (⟨f, v, kind, there, refused, rfl⟩ | ⟨e, there, stray⟩)
    · exact ⟨_, there, .refused refused⟩
    · exact ⟨e, there, (keyIssue?_eq_some_iff.mp stray).1⟩
  · rintro ⟨e, there, concerns⟩
    by_cases named : ∃ f : Field, e.1 = .text f.name
    · left
      cases concerns with
      | @refused f v kind refusal => exact ⟨f, v, kind, there, refusal, rfl⟩
      | unknown free =>
        obtain ⟨f, key⟩ := named
        exact absurd (Value.text.inj key) (free f)
      | noText other =>
        obtain ⟨f, key⟩ := named
        exact absurd key (other _)
    · exact .inr ⟨e, there, keyIssue?_eq_some_iff.mpr ⟨concerns, not_exists.mp named⟩⟩

/-- No issue is about an entry just when its key names an option that accepts its value. -/
theorem not_exists_concerns_iff :
    (¬ ∃ i : Issue, i.Concerns e) ↔ ∃ (f : Field) (w : Value),
      e.1 = .text f.name ∧ f.accept e.2 = .ok w := by
  rcases e with ⟨k, v⟩
  constructor
  · intro fine
    by_cases named : ∃ f : Field, k = .text f.name
    · obtain ⟨f, rfl⟩ := named
      cases accepted : f.accept v with
      | ok w => exact ⟨f, w, rfl, accepted⟩
      | error kind => exact absurd ⟨_, .refused accepted⟩ fine
    · -- a key that names no option has an issue
      cases stray : keyIssue? (k, v) with
      | none => exact absurd (keyIssue?_eq_none_iff.mp stray) named
      | some i => exact absurd ⟨i, (keyIssue?_eq_some_iff.mp stray).1⟩ fine
  · rintro ⟨f, w, rfl, accepted⟩ ⟨i, concerns⟩
    generalize key : Value.text f.name = k at concerns
    cases concerns with
    | refused refusal =>
      obtain rfl := Field.name_injective (Value.text.inj key)
      rw [accepted] at refusal
      cases refusal
    | unknown free => exact free f (Value.text.inj key).symm
    | noText other => exact other _ key.symm

/-- Nothing is wrong with a mapping just when each key names an option that accepts the value. -/
theorem issues_eq_nil_iff (d : m.Distinct) : issues m = [] ↔
    ∀ e ∈ m, ∃ (f : Field) (w : Value), e.1 = .text f.name ∧ f.accept e.2 = .ok w := by
  rw [List.eq_nil_iff_forall_not_mem]
  simp only [mem_issues_iff d, not_exists, not_and, ← not_exists_concerns_iff]
  exact forall_comm.trans (forall_congr' fun e => forall_comm)

end Options

end CauseTrail
