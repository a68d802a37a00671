import CauseTrail.Options.Validation
import CauseTrail.Proofs.Value.Mapping
import CauseTrail.Refusal

/-!
# What an option accepts

An option takes a value or refuses it whatever the other options are, and setting it touches no
other option. So the options of a mapping are found one by one: each is what it makes of the value
that the mapping gives to it. What is wrong with a mapping is told option by option, and then key by
key, of those keys that name no option.

## Main definitions

* `Options.Field.accept`: what an option makes of a value
* `Options.rejection?`: the issue of an option with the value that it is given

## Main results

* `Options.get_overlay`: an option after a mapping was laid over the options
* `Options.issues_eq`: what is wrong with a mapping that gives a value to every option
* `Options.filterMap_keyIssue?_update`: the stray keys of a mapping laid over another one
-/

namespace CauseTrail.Options

/-- What an option makes of a value, or why it refuses it. -/
def Field.accept (f : Field) (v : Value) : Except IssueKind Value :=
  (fun o => o.get f) <$> ({} : Options).assign f v

/-- The issue of an option that refuses the value it is given. -/
def rejection? (given : Field → Value) (f : Field) : Option Issue :=
  match f.accept (given f) with
  | .ok _ => none
  | .error kind => some ⟨kind, [f.name], given f⟩

variable {o o' : Options} {f g : Field} {v w : Value} {m other : Mapping} {e : Value × Value}
  {kind : IssueKind} {given : Field → Value}

/-! ## One option -/

theorem Field.ofName?_eq_some_iff {name : String} : ofName? name = some f ↔ name = f.name := by
  constructor
  · intro found
    have named : f.name = name := by simpa using List.find?_some found
    exact named.symm
  · rintro rfl
    exact f.ofName?_name

theorem Field.ofName?_eq_none_iff {name : String} :
    ofName? name = none ↔ ∀ f : Field, name ≠ f.name := by
  simp only [Option.eq_none_iff_forall_ne_some, ne_eq, ofName?_eq_some_iff]

theorem Field.name_injective : Function.Injective Field.name := by
  intro f g same
  have found := g.ofName?_name
  rw [← same, f.ofName?_name] at found
  exact Option.some.inj found

/-- Whether a value is accepted, and as what, depends on no other option. -/
theorem accept_eq (o : Options) (f : Field) (v : Value) :
    f.accept v = (fun o' => o'.get f) <$> o.assign f v := by
  cases f <;> simp only [Field.accept, assign]
  all_goals
    first
    | cases readTruth v <;> rfl
    | cases readText? v <;> rfl
    | cases readTransport v <;> rfl

/-- An option that is set leaves the others as they were. -/
theorem get_assign_of_ne (h : o.assign f v = .ok o') (apart : g ≠ f) : o'.get g = o.get g := by
  cases f <;> obtain ⟨w, -, rfl⟩ := Except.map_eq_ok_iff.mp h <;> cases g <;>
    first
    | rfl
    | exact absurd rfl apart

theorem issue?_eq_none_iff : issue? f v = none ↔ ∃ w, f.accept v = .ok w := by
  rw [issue?, Field.accept]
  cases ({} : Options).assign f v <;> simp

theorem issue?_eq_some_iff : issue? f v = some kind ↔ f.accept v = .error kind := by
  rw [issue?, Field.accept]
  cases ({} : Options).assign f v <;> simp

theorem rejection?_eq_none_iff :
    rejection? given f = none ↔ ∃ w, f.accept (given f) = .ok w := by
  rw [rejection?]
  cases f.accept (given f) <;> simp

/-- An option tells what is wrong with its value under its own name. -/
theorem rejection?_eq_some_iff {i : Issue} : rejection? given f = some i ↔
    ∃ kind, f.accept (given f) = .error kind ∧ i = ⟨kind, [f.name], given f⟩ := by
  rw [rejection?]
  cases f.accept (given f) <;> simp [eq_comm]

/-! ## All options -/

/-- One option after the value that a mapping gives to one of them was taken. -/
theorem get_assigned (o : Options) (m : Mapping) (f g : Field) :
    (((m.get? g.name).bind fun v => (o.assign g v).toOption).getD o).get f =
      if f = g then ((m.get? f.name).bind fun v => (f.accept v).toOption).getD (o.get f)
      else o.get f := by
  split
  · next same =>
    subst same
    cases m.get? f.name with
    | none => rfl
    | some v =>
      rw [Option.bind_some, Option.bind_some, accept_eq o]
      cases o.assign f v <;> rfl
  · next apart =>
    cases m.get? g.name with
    | none => rfl
    | some v =>
      rw [Option.bind_some]
      cases assigned : o.assign g v with
      | error kind => rfl
      | ok o' => exact get_assign_of_ne assigned apart

/-- An option after a mapping was laid over the options: what it makes of the value that it is
given, if it accepts that, and otherwise what it was. -/
theorem get_overlay (o : Options) (m : Mapping) (f : Field) :
    (o.overlay m).get f =
      ((m.get? f.name).bind fun v => (f.accept v).toOption).getD (o.get f) := by
  -- Each option has its turn once, so that the turns before and after it do not matter.
  have turns : ∀ fs : List Field, fs.Nodup → ∀ o : Options,
      (fs.foldl (fun o g => ((m.get? g.name).bind fun v => (o.assign g v).toOption).getD o) o).get
        f = if f ∈ fs then ((m.get? f.name).bind fun v => (f.accept v).toOption).getD (o.get f)
          else o.get f := by
    intro fs
    induction fs with
    | nil => intros; rfl
    | cons g fs ih =>
      intro nodup o
      obtain ⟨new, rest⟩ := List.nodup_cons.mp nodup
      rw [List.foldl_cons, ih rest, get_assigned]
      by_cases same : f = g
      · subst same
        rw [if_neg new, if_pos rfl, if_pos List.mem_cons_self]
      · simp only [List.mem_cons, same, false_or, if_false]
  rw [overlay, turns Field.all (by decide), if_pos f.mem_all]

/-- Options laid over with a mapping depend on what it gives to the options. -/
theorem overlay_congr (h : ∀ f : Field, m.get? f.name = other.get? f.name) (o : Options) :
    o.overlay m = o.overlay other := by
  simp only [overlay, h]

/-! ## What is wrong with a mapping -/

theorem keyIssue?_eq_none_iff : keyIssue? e = none ↔ ∃ f : Field, e.1 = .text f.name := by
  rcases e with ⟨k, v⟩
  cases k with
  | text name =>
    cases found : Field.ofName? name with
    | none =>
      simp only [keyIssue?, found, reduceCtorEq, Value.text.injEq, false_iff, not_exists]
      rintro f rfl
      rw [f.ofName?_name] at found
      cases found
    | some f =>
      obtain rfl := Field.ofName?_eq_some_iff.mp found
      simp only [keyIssue?, found, Value.text.injEq, true_iff]
      exact ⟨f, rfl⟩
  | _ => simp [keyIssue?]

/-- A mapping that gives a value to every option is wrong where an option refuses its value, and
in the keys that name no option. -/
theorem issues_eq (h : ∀ f : Field, m.get? f.name = some (given f)) :
    issues m = Field.all.filterMap (rejection? given) ++ List.filterMap keyIssue? m := by
  have each : (fun f : Field => do
      let v ← m.get? f.name
      let kind ← issue? f v
      return (⟨kind, [f.name], v⟩ : Issue)) = rejection? given := by
    funext f
    rw [h f, rejection?]
    cases accepted : f.accept (given f) with
    | ok w => simp [issue?_eq_none_iff.mpr ⟨w, accepted⟩]
    | error kind => simp [issue?_eq_some_iff.mpr accepted]
  rw [issues, fieldIssues, each]

/-- An entry under the name of an option leaves the stray keys as they are. -/
theorem filterMap_keyIssue?_insert (named : e.1 = .text f.name) (m : Mapping) :
    List.filterMap keyIssue? (Mapping.insert m e.1 e.2) = List.filterMap keyIssue? m := by
  have silent {v : Value} : keyIssue? (.text f.name, v) = none :=
    keyIssue?_eq_none_iff.mpr ⟨f, rfl⟩
  rw [named]
  induction m with
  | nil => rw [Mapping.insert, List.filterMap_cons_none silent]
  | cons a m ih =>
    rw [Mapping.insert]
    split
    · next same =>
      obtain ⟨k, v⟩ := a
      obtain rfl := Value.equal_text_iff.mp same
      rw [List.filterMap_cons_none silent, List.filterMap_cons_none silent]
    · rw [List.filterMap_cons, List.filterMap_cons, ih]

/-- The stray keys of a mapping laid over another one: those of the one, and then those of the
other, if these are not among the keys of the one. -/
theorem filterMap_keyIssue?_update (d : other.Distinct)
    (apart : ∀ e ∈ m, ∀ e' ∈ other, keyIssue? e' ≠ none → e.1.equal e'.1 = false) :
    List.filterMap keyIssue? (m.update other) =
      List.filterMap keyIssue? m ++ List.filterMap keyIssue? other := by
  induction other generalizing m with
  | nil => exact (List.append_nil _).symm
  | cons a other ih =>
    obtain ⟨first, rest⟩ := List.pairwise_cons.mp d
    have apart' : ∀ e ∈ Mapping.insert m a.1 a.2, ∀ e' ∈ other, keyIssue? e' ≠ none →
        e.1.equal e'.1 = false := by
      intro e he e' he' stray
      rcases Mapping.mem_keys_insert he with ⟨e'', there, key⟩ | key
      · rw [key]
        exact apart e'' there e' (List.mem_cons_of_mem a he') stray
      · rw [key]
        exact first e' he'
    rw [Mapping.update, List.foldl_cons, ← Mapping.update, ih rest apart']
    by_cases silent : keyIssue? a = none
    · obtain ⟨f, named⟩ := keyIssue?_eq_none_iff.mp silent
      rw [filterMap_keyIssue?_insert named, List.filterMap_cons_none silent]
    · have new : ∀ e ∈ m, e.1.equal a.1 = false := fun e he =>
        apart e he a List.mem_cons_self silent
      rw [Mapping.insert_of_new new, List.filterMap_append, List.append_assoc,
        ← List.filterMap_append, List.singleton_append]

/-! ## The mapping of options -/

theorem get?_dump (o : Options) (f : Field) : o.dump.get? f.name = some (o.get f) := by
  cases f <;> simp [dump, Field.all, Field.name]

/-- A mapping laid over that of options has the stray keys that it has alone. -/
theorem filterMap_keyIssue?_update_dump (o : Options) (d : m.Distinct) :
    List.filterMap keyIssue? (Mapping.update o.dump m) = List.filterMap keyIssue? m := by
  have named : ∀ e ∈ o.dump, ∃ f : Field, e.1 = .text f.name := by
    intro e there
    obtain ⟨f, -, rfl⟩ := List.mem_map.mp there
    exact ⟨f, rfl⟩
  have silent : List.filterMap keyIssue? o.dump = [] :=
    List.filterMap_eq_nil_iff.mpr fun e there => keyIssue?_eq_none_iff.mpr (named e there)
  rw [filterMap_keyIssue?_update d, silent, List.nil_append]
  intro e there e' _ stray
  obtain ⟨f, key⟩ := named e there
  refine Bool.eq_false_iff.mpr fun same => stray ?_
  rw [key] at same
  exact keyIssue?_eq_none_iff.mpr ⟨f, Value.text_equal_iff.mp same⟩

end CauseTrail.Options
